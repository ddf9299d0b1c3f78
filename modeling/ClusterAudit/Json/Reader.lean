-- SUMMARY: Reading a JSON text into its outline.
import ClusterAudit.Json.Outline
import ClusterAudit.Text.Digit

/-!
# Reading JSON text

The reader never fails: where it cannot go on it leaves the fault in the
outline. Every reading function returns what it read together with the text
that is left, or with nothing when the text cannot be read further.
-/

namespace ClusterAudit.Json

/-! ## Blanks and words -/

/-- The four characters that JSON ignores between its parts. -/
def isJsonBlank (c : Char) : Bool := c == ' ' || c == '\n' || c == '\t' || c == '\r'

/-- What follows leading blanks. -/
def skipBlank (cs : List Char) : List Char := cs.dropWhile isJsonBlank

/-- Reads the rest of a word such as `null`. -/
def readWord : List Char → List Char → Except Stop (List Char)
  | [], cs => .ok cs
  | _ :: _, [] => .error ⟨.endInValue, .at []⟩
  | w :: word, c :: cs => if c = w then readWord word cs else .error ⟨.expectedWord, .at cs⟩

/-! ## Numbers -/

/-- The limit of the integers that are kept exactly while digits are read. -/
def wordLimit : Nat := 2 ^ 64

/-- Reads digits into `value` as long as the value stays below `2 ^ 64`. Returns the
value, the number of digits taken, and the text from the first digit not taken. -/
def readWordDigits (value taken : Nat) : List Char → Nat × Nat × List Char
  | [] => (value, taken, [])
  | c :: cs =>
    if c.isDigit then
      let longer := value * 10 + Text.digitValue c
      if longer < wordLimit then readWordDigits longer (taken + 1) cs else (value, taken, c :: cs)
    else (value, taken, c :: cs)

/-- The power `10 ^ k` as a binary64 number, for `k ≤ 308`. -/
def binaryTenPower (k : Nat) : Binary64 := (Binary64.nearest false (10 ^ k) 1).getD default

/-- Divides by `10 ^ k`, in steps of at most `10 ^ 308`; a number below `2 ^ 64` is zero
after two such steps, so three suffice. -/
def shrink : Nat → Binary64 → Nat → Binary64
  | 0, x, _ => x
  | steps + 1, x, k =>
    if k ≤ 308 then (x.div (binaryTenPower k)).getD x
    else if x.isZero then x
    else shrink steps ((x.div (binaryTenPower 308)).getD x) (k - 308)

/-- The number `± significand * 10 ^ exponent`, by one conversion and one product
or quotient, each rounded; `none` when it is too large. -/
def scaleDecimal (negative : Bool) (significand : Nat) (exponent : Int) : Option Binary64 :=
  let x := (Binary64.nearest false significand 1).getD default
  let signed (x : Binary64) : Binary64 := { x with negative := negative }
  if exponent < 0 then some (signed (shrink 3 x (-exponent).toNat))
  else if x.isZero then some (signed x)
  else if 308 < exponent then none
  else (x.mul (binaryTenPower exponent.toNat)).map signed

abbrev NumberRead := Except Stop (JsonNumber × List Char)

/-- Ends a number that is not an exact integer. -/
def finishBinary (negative : Bool) (significand : Nat) (exponent : Int) (rest : List Char) :
    NumberRead :=
  match scaleDecimal negative significand exponent with
  | some x => .ok (.binary x, rest)
  | none => .error ⟨.numberOutOfRange, .at rest⟩

/-- The limit of an exponent's digits. -/
def exponentLimit : Nat := 2 ^ 31

/-- Reads the digits of an exponent as long as it stays below `2 ^ 31`. -/
def readExponentDigits (value : Nat) : List Char → Nat × List Char
  | [] => (value, [])
  | c :: cs =>
    if c.isDigit then
      let longer := value * 10 + Text.digitValue c
      if longer < exponentLimit then readExponentDigits longer cs else (value, c :: cs)
    else (value, c :: cs)

/-- The text that follows an exponent's sign, and whether that was a minus. -/
def readSign : List Char → Bool × List Char
  | '+' :: cs => (false, cs)
  | '-' :: cs => (true, cs)
  | cs => (false, cs)

/-- Reads an exponent, from after its letter, and ends the number. -/
def readExponent (negative : Bool) (significand : Nat) (start : Int) (cs : List Char) :
    NumberRead :=
  let (minus, cs) := readSign cs
  match cs with
  | [] => .error ⟨.endInValue, .at []⟩
  | c :: cs =>
    if c.isDigit then
      let (value, rest) := readExponentDigits (Text.digitValue c) cs
      let exponent := if minus then start - value else start + value
      match rest with
      | d :: after =>
        if d.isDigit then
          -- The exponent is too large to be counted.
          if significand ≠ 0 ∧ !minus then .error ⟨.numberOutOfRange, .at after⟩
          else .ok (.binary ⟨negative, 0, Binary64.minExponent⟩, after.dropWhile Char.isDigit)
        else finishBinary negative significand exponent rest
      | [] => finishBinary negative significand exponent rest
    else .error ⟨.invalidNumber, .at cs⟩

/-- Reads what may follow a number's digits: an exponent, or nothing. -/
def readNumberEnd (negative : Bool) (significand : Nat) (exponent : Int) (cs : List Char) :
    NumberRead :=
  match cs with
  | 'e' :: rest => readExponent negative significand exponent rest
  | 'E' :: rest => readExponent negative significand exponent rest
  | _ => finishBinary negative significand exponent cs

def readFraction (negative : Bool) (significand : Nat) (start : Int) (cs : List Char) :
    NumberRead :=
  let (value, taken, rest) := readWordDigits significand 0 cs
  match rest with
  | c :: _ =>
    if c.isDigit then
      -- Further digits would not fit and are passed over.
      readNumberEnd negative value (start - taken) (rest.dropWhile Char.isDigit)
    else if taken = 0 then .error ⟨.invalidNumber, .next rest⟩
    else readNumberEnd negative value (start - taken) rest
  | [] =>
    if taken = 0 then .error ⟨.endInValue, .next []⟩
    else readNumberEnd negative value (start - taken) []

/-- Ends an integer whose digits all fit. -/
def finishInteger (negative : Bool) (value : Nat) (rest : List Char) : NumberRead :=
  if !negative then .ok (.natural value, rest)
  else if value = 0 ∨ 2 ^ 63 < value then
    .ok (.binary ((Binary64.nearest true value 1).getD default), rest)
  else .ok (.negative value, rest)

/-- Reads what may follow an integer's digits. -/
def readAfterInteger (negative : Bool) (value : Nat) (cs : List Char) : NumberRead :=
  match cs with
  | '.' :: rest => readFraction negative value 0 rest
  | 'e' :: rest => readExponent negative value 0 rest
  | 'E' :: rest => readExponent negative value 0 rest
  | _ => finishInteger negative value cs

def readNumber (negative : Bool) : List Char → NumberRead
  | [] => .error ⟨.endInValue, .at []⟩
  | c :: cs =>
    if c = '0' then
      match cs with
      | d :: _ =>
        if d.isDigit then .error ⟨.invalidNumber, .next cs⟩ else readAfterInteger negative 0 cs
      | [] => readAfterInteger negative 0 cs
    else if c.isDigit then
      let (value, _, rest) := readWordDigits (Text.digitValue c) 0 cs
      match rest with
      | d :: _ =>
        if d.isDigit then
          -- The digits do not fit: the rest only count.
          let further := rest.takeWhile Char.isDigit
          match rest.dropWhile Char.isDigit with
          | '.' :: fraction =>
            match fraction with
            | f :: _ =>
              if f.isDigit then
                readNumberEnd negative value further.length (fraction.dropWhile Char.isDigit)
              else .error ⟨.invalidNumber, .next fraction⟩
            | [] => .error ⟨.endInValue, .next []⟩
          | after => readNumberEnd negative value further.length after
        else readAfterInteger negative value rest
      | [] => readAfterInteger negative value rest
    else .error ⟨.invalidNumber, .at cs⟩

/-! ## Strings -/

/-- Reads four hexadecimal digits. -/
def readHex4 (cs : List Char) : Except Stop (Nat × List Char) :=
  if byteCount (cs.take 4) < 4 then .error ⟨.endInString, .at []⟩
  else
    match cs with
    | a :: b :: c :: d :: rest =>
      match Text.hexValue? a, Text.hexValue? b, Text.hexValue? c, Text.hexValue? d with
      | some a, some b, some c, some d => .ok (((a * 16 + b) * 16 + c) * 16 + d, rest)
      | _, _, _, _ => .error ⟨.invalidEscape, ⟨cs, 4⟩⟩
    | _ => .error ⟨.invalidEscape, ⟨cs, 4⟩⟩

def simpleEscape? (c : Char) : Option Char :=
  if c = '"' ∨ c = '\\' ∨ c = '/' then some c
  else if c = 'b' then some '\x08'
  else if c = 'f' then some '\x0c'
  else if c = 'n' then some '\n'
  else if c = 'r' then some '\r'
  else if c = 't' then some '\t'
  else none

/-- Whether a unit is the first half of a surrogate pair. -/
def isHighSurrogate (n : Nat) : Bool := 0xd800 ≤ n && n ≤ 0xdbff

/-- Whether a unit is the second half of a surrogate pair. -/
def isLowSurrogate (n : Nat) : Bool := 0xdc00 ≤ n && n ≤ 0xdfff

/-- One part of a string: a character, or a unit that stands for none, with the
fault that this is. -/
inductive StringPart
  | char (c : Char)
  | lone (stop : Stop)

/-- Reads an escape with four digits, from after its `u`. A first half of a pair
takes the second half with it. -/
def readUnicodeEscape (cs : List Char) : Except Stop (StringPart × List Char) := do
  let (n, rest) ← readHex4 cs
  if isLowSurrogate n then return (.lone ⟨.loneSurrogate, .at rest⟩, rest)
  if !isHighSurrogate n then return (.char (Char.ofNat n), rest)
  match rest with
  | [] => .error ⟨.endInString, .at []⟩
  | '\\' :: [] => .error ⟨.endInString, .at []⟩
  | '\\' :: 'u' :: low =>
    let (m, after) ← readHex4 low
    if isLowSurrogate m then
      return (.char (Char.ofNat (0x10000 + (n - 0xd800) * 0x400 + (m - 0xdc00))), after)
    return (.lone ⟨.loneSurrogate, .at after⟩, after)
  | '\\' :: other => return (.lone ⟨.endOfHexEscape, .next other⟩, rest)
  | other => return (.lone ⟨.endOfHexEscape, .next other⟩, rest)

/-- Adds a character in front of a string that was read. -/
def pushFront (c : Char) (s : Except Stop (List Char)) : Except Stop (List Char) := s.map (c :: ·)

/-- Reads a string, from after its first quote. The outer fault is one of notation;
the inner one says that a unit of the string stands for no character. -/
def readString : Nat → List Char → Except Stop (Except Stop (List Char) × List Char)
  | 0, cs => .error ⟨.endInString, .at cs⟩
  | _ + 1, [] => .error ⟨.endInString, .at []⟩
  | fuel + 1, c :: cs =>
    if c = '"' then .ok (.ok [], cs)
    else if c = '\\' then
      match cs with
      | [] => .error ⟨.endInString, .at []⟩
      | e :: rest =>
        if e = 'u' then do
          let (part, rest) ← readUnicodeEscape rest
          let (s, after) ← readString fuel rest
          match part with
          | .char c => return (pushFront c s, after)
          | .lone stop => return (.error stop, after)
        else
          match simpleEscape? e with
          | some c => do
            let (s, after) ← readString fuel rest
            return (pushFront c s, after)
          | none => .error ⟨.invalidEscape, .at rest⟩
    else if c.toNat < 0x20 then .error ⟨.controlCharacter, .next (c :: cs)⟩
    else do
      let (s, after) ← readString fuel cs
      return (pushFront c s, after)

def stringRead (s : Except Stop (List Char)) : Except Stop String := s.map String.ofList

/-! ## Values -/

/-- What is left to read, unless reading cannot go on. -/
abbrev Left := Option (List Char)

/-- Reads a scalar whose first character `c` has been looked at. -/
def readScalar (fuel : Nat) (c : Char) (cs : List Char) : Outline × Left :=
  let word (w : String) (result : List Char → Outline) : Outline × Left :=
    match readWord w.toList cs with
    | .ok rest => (result rest, some rest)
    | .error stop => (.broken stop, none)
  let number (read : NumberRead) : Outline × Left :=
    match read with
    | .ok (n, rest) => (.number (.ok n) rest, some rest)
    | .error stop =>
      -- A number that is only too large does not hinder reading on.
      if stop.fault = .numberOutOfRange then
        let rest := stop.spot.unread.dropWhile Char.isDigit
        (.number (.error stop) rest, some rest)
      else (.broken stop, none)
  if c = 'n' then word "ull" .null
  else if c = 't' then word "rue" (.bool true)
  else if c = 'f' then word "alse" (.bool false)
  else if c = '-' then number (readNumber true cs)
  else if c.isDigit then number (readNumber false (c :: cs))
  else if c = '"' then
    match readString fuel cs with
    | .ok (s, rest) => (.string (stringRead s) rest, some rest)
    | .error stop => (.broken stop, none)
  else (.broken ⟨.expectedValue, .next (c :: cs)⟩, none)

mutual

def readValue : Nat → List Char → Outline × Left
  | 0, cs => (.broken ⟨.tooDeep, .next cs⟩, none)
  | fuel + 1, cs =>
    match skipBlank cs with
    | [] => (.broken ⟨.endInValue, .next []⟩, none)
    | c :: rest =>
      if c = '[' then
        match skipBlank rest with
        | [] => (.array (c :: rest) (.done (.faulty .endInList [])), none)
        | ']' :: after => (.array (c :: rest) (.done (.closed after)), some after)
        | inner =>
          let (items, left) := readItems fuel inner
          (.array (c :: rest) items, left)
      else if c = '{' then
        match skipBlank rest with
        | [] => (.object (c :: rest) (.done (.faulty .endInObject [])), none)
        | '}' :: after => (.object (c :: rest) (.done (.closed after)), some after)
        | inner =>
          let (members, left) := readMembers fuel inner
          (.object (c :: rest) members, left)
      else readScalar (cs.length + 1) c rest

def readItems : Nat → List Char → Items × Left
  | 0, cs => (.done (.faulty .tooDeep cs), none)
  | fuel + 1, cs =>
    match readValue fuel cs with
    | (item, none) => (.more cs item (.done (.faulty .endInList [])), none)
    | (item, some rest) =>
      match skipBlank rest with
      | [] => (.more cs item (.done (.faulty .endInList [])), none)
      | ']' :: after => (.more cs item (.done (.closed after)), some after)
      | ',' :: rest =>
        match skipBlank rest with
        | [] => (.more cs item (.done (.faulty .endInValue [])), none)
        | ']' :: after => (.more cs item (.done (.faulty .trailingComma (']' :: after))), none)
        | inner =>
          let (items, left) := readItems fuel inner
          (.more cs item items, left)
      | other => (.more cs item (.done (.faulty .expectedCommaInList other)), none)

def readMembers : Nat → List Char → Members × Left
  | 0, cs => (.done (.faulty .tooDeep cs), none)
  | fuel + 1, cs =>
    match cs with
    | '"' :: rest =>
      match readString (cs.length + 1) rest with
      | .error stop => (.more ⟨.error stop, [], []⟩ (.broken stop) (.done .counted), none)
      | .ok (name, rest) =>
        let colon := skipBlank rest
        match colon with
        | ':' :: rest =>
          match readValue fuel rest with
          | (value, none) =>
            (.more ⟨stringRead name, colon, []⟩ value (.done (.faulty .endInObject [])), none)
          | (value, some rest) =>
            let next := skipBlank rest
            let key : Key := ⟨stringRead name, colon, next⟩
            match next with
            | [] => (.more key value (.done (.faulty .endInObject [])), none)
            | '}' :: after => (.more key value (.done (.closed after)), some after)
            | ',' :: rest =>
              match skipBlank rest with
              | [] => (.more key value (.done (.faulty .endInValue [])), none)
              | '}' :: after =>
                (.more key value (.done (.faulty .trailingComma ('}' :: after))), none)
              | inner =>
                let (members, left) := readMembers fuel inner
                (.more key value members, left)
            | other => (.more key value (.done (.faulty .expectedCommaInObject other)), none)
        | other =>
          let stop : Stop :=
            ⟨if other.isEmpty then .endInObject else .expectedColon, .next other⟩
          (.more ⟨stringRead name, other, []⟩ (.broken stop) (.done .counted), none)
    | _ => (.done (.faulty .keyNotString cs), none)

end

/-- The outline of a text, and what is left after its value. -/
def readText (text : List Char) : Outline × Left := readValue (text.length + 2) text

end ClusterAudit.Json
