-- SUMMARY: UTF-8: encoding, strict decoding with the place of a fault, decoding with replacements.
/-!
# UTF-8

Texts are lists of characters, and what travels between machines are lists of
bytes. Decoding either reports the first fault, or replaces each faulty stretch
by the replacement character.
-/

namespace ClusterAudit.Utf8

abbrev Bytes := List UInt8

/-! ## Encoding -/

/-- The continuation byte that holds the lowest six bits of a number. -/
def continuation (n : Nat) : UInt8 := UInt8.ofNat (0x80 + n % 0x40)

def encodeChar (c : Char) : Bytes :=
  let n := c.toNat
  if n < 0x80 then [UInt8.ofNat n]
  else if n < 0x800 then [UInt8.ofNat (0xc0 + n / 0x40), continuation n]
  else if n < 0x10000 then
    [UInt8.ofNat (0xe0 + n / 0x1000), continuation (n / 0x40), continuation n]
  else
    [UInt8.ofNat (0xf0 + n / 0x40000), continuation (n / 0x1000), continuation (n / 0x40),
      continuation n]

def encode (cs : List Char) : Bytes := cs.flatMap encodeChar

/-! ## Decoding -/

/-- What the start of a stretch of bytes holds. -/
inductive Piece
  | char (c : Char) (rest : Bytes)
  /-- So many bytes that begin no character. -/
  | invalid (length : Nat) (rest : Bytes)
  /-- The beginning of a character, at the end of the bytes. -/
  | incomplete

def isContinuation (b : UInt8) : Bool := 0x80 ≤ b && b ≤ 0xbf

/-- The bits that a continuation byte carries. -/
def bits (b : UInt8) : Nat := b.toNat % 0x40

/-- Whether a second byte may follow the first one of three. -/
def secondOfThree (first second : UInt8) : Bool :=
  if first = 0xe0 then 0xa0 ≤ second && second ≤ 0xbf
  else if first = 0xed then 0x80 ≤ second && second ≤ 0x9f
  else isContinuation second

/-- Whether a second byte may follow the first one of four. -/
def secondOfFour (first second : UInt8) : Bool :=
  if first = 0xf0 then 0x90 ≤ second && second ≤ 0xbf
  else if first = 0xf4 then 0x80 ≤ second && second ≤ 0x8f
  else isContinuation second

/-- Reads the rest of a character of two bytes. -/
def takeTwo (first : UInt8) : Bytes → Piece
  | [] => .incomplete
  | b :: rest =>
    if isContinuation b then .char (Char.ofNat ((first.toNat - 0xc0) * 0x40 + bits b)) rest
    else .invalid 1 (b :: rest)

/-- Reads the rest of a character of three bytes. -/
def takeThree (first : UInt8) : Bytes → Piece
  | [] => .incomplete
  | b :: rest =>
    if secondOfThree first b then
      match rest with
      | [] => .incomplete
      | c :: rest =>
        if isContinuation c then
          .char (Char.ofNat ((first.toNat - 0xe0) * 0x1000 + bits b * 0x40 + bits c)) rest
        else .invalid 2 (c :: rest)
    else .invalid 1 (b :: rest)

/-- Reads the rest of a character of four bytes. -/
def takeFour (first : UInt8) : Bytes → Piece
  | [] => .incomplete
  | b :: rest =>
    if secondOfFour first b then
      match rest with
      | [] => .incomplete
      | c :: rest =>
        if isContinuation c then
          match rest with
          | [] => .incomplete
          | d :: rest =>
            if isContinuation d then
              .char (Char.ofNat
                ((first.toNat - 0xf0) * 0x40000 + bits b * 0x1000 + bits c * 0x40 + bits d)) rest
            else .invalid 3 (d :: rest)
        else .invalid 2 (c :: rest)
    else .invalid 1 (b :: rest)

/-- Reads what begins with the byte `first`. -/
def takePiece (first : UInt8) (rest : Bytes) : Piece :=
  if first < 0x80 then .char (Char.ofNat first.toNat) rest
  else if 0xc2 ≤ first ∧ first ≤ 0xdf then takeTwo first rest
  else if 0xe0 ≤ first ∧ first ≤ 0xef then takeThree first rest
  else if 0xf0 ≤ first ∧ first ≤ 0xf4 then takeFour first rest
  else .invalid 1 rest

/-- The first place where bytes are not UTF-8. -/
structure Fault where
  index : Nat
  /-- The length of the faulty stretch, or none if the bytes end too early. -/
  length : Option Nat
deriving DecidableEq, Repr

def Fault.message (fault : Fault) : String :=
  match fault.length with
  | some n => s!"invalid utf-8 sequence of {n} bytes from index {fault.index}"
  | none => s!"incomplete utf-8 byte sequence from index {fault.index}"

/-- Decodes bytes that start at `index`, taking as many characters as there is fuel. -/
def decodeFrom : Nat → Nat → Bytes → Except Fault (List Char)
  | 0, _, _ => .ok []
  | _ + 1, _, [] => .ok []
  | fuel + 1, index, first :: rest =>
    match takePiece first rest with
    | .char c rest => (decodeFrom fuel (index + c.utf8Size) rest).map (c :: ·)
    | .invalid n _ => .error ⟨index, some n⟩
    | .incomplete => .error ⟨index, none⟩

/-- The text that bytes hold, or the first fault. -/
def decode (bytes : Bytes) : Except Fault (List Char) := decodeFrom bytes.length 0 bytes

/-- The character that stands for bytes that are no text. -/
def replacement : Char := Char.ofNat 0xfffd

/-- Decodes bytes, taking as many characters as there is fuel, with replacements. -/
def replaceFrom : Nat → Bytes → List Char
  | 0, _ => []
  | _ + 1, [] => []
  | fuel + 1, first :: rest =>
    match takePiece first rest with
    | .char c rest => c :: replaceFrom fuel rest
    | .invalid _ rest => replacement :: replaceFrom fuel rest
    | .incomplete => [replacement]

/-- The text that bytes hold, with every faulty stretch replaced. -/
def decodeReplacing (bytes : Bytes) : List Char := replaceFrom bytes.length bytes

end ClusterAudit.Utf8
