-- SUMMARY: Reading values out of an outline, with the place of every fault.
import ClusterAudit.Json.Reader
import ClusterAudit.Json.Decode

/-!
# Located faults

A fault of decoding carries the place where it shows. This module turns an
outline into a value, skips the parts that nobody asks for, and says for every
part of an outline where a misfit is reported.
-/

namespace ClusterAudit.Json

/-! ## Faults -/

/-- What stops the decoding of an outline. -/
inductive DecodeFault
  | unreadable (stop : Stop)
  | misfit (cause : Misfit) (spot : Spot)
deriving Repr

/-- What is wrong, without the place. -/
def DecodeFault.message : DecodeFault → String
  | .unreadable stop => stop.fault.message
  | .misfit cause _ => cause.message

def DecodeFault.spot : DecodeFault → Spot
  | .unreadable stop => stop.spot
  | .misfit _ spot => spot

/-- What is wrong, with line and column in the text that was read. -/
def DecodeFault.messageIn (text : List Char) (fault : DecodeFault) : String :=
  let (line, column) := fault.spot.lineColumn text
  fault.message ++ s!" at line {line} column {column}"

/-- A part that was read, or the stop that hindered it. -/
def unstopped {α : Type} : Except Stop α → Except DecodeFault α
  | .ok value => .ok value
  | .error stop => .error (.unreadable stop)

/-! ## Ends -/

/-- Whether the items or members end well. -/
def Close.check : Close → Except DecodeFault Unit
  | .closed _ => .ok ()
  | .counted => .ok ()
  | .faulty fault unread => .error (.unreadable ⟨fault, .next unread⟩)

/-- The place of a fault that shows when the end is reached. -/
def Close.spot : Close → Spot
  | .closed after => .at after
  | .counted => .at []
  | .faulty _ unread => .at unread

/-- The place of a fault that shows after a member's value: behind the closing bracket if that
follows. -/
def Key.afterValue (key : Key) : Spot :=
  match key.next with
  | '}' :: after => .at after
  | next => .at next

/-- The place of a fault of a whole array: behind its bracket if it is empty, else before
its first item. -/
def insideArray (start : List Char) : Spot :=
  match skipBlank (start.drop 1) with
  | ']' :: after => .at after
  | ',' :: after => .at (skipBlank after)
  | inner => .at inner

/-! ## Whole values -/

/-- How deep arrays and objects may be nested, counted down from here. -/
def nestingLimit : Nat := 128

/-- The fault of an array or object that is nested too deep. -/
def tooDeep (start : List Char) : DecodeFault := .unreadable ⟨.tooDeep, .next start⟩

mutual

/-- The value of an outline, nested less than `depth`. -/
def Outline.value (depth : Nat) : Outline → Except DecodeFault Json
  | .null _ => .ok .null
  | .bool b _ => .ok (.bool b)
  | .number n _ => (unstopped n).map .number
  | .string s _ => (unstopped s).map .string
  | .array start items =>
    if depth ≤ 1 then .error (tooDeep start)
    else do return .array (← items.values (depth - 1))
  | .object start members =>
    if depth ≤ 1 then .error (tooDeep start)
    else do return .object (← members.values (depth - 1))
  | .broken stop => .error (.unreadable stop)

def Items.values (depth : Nat) : Items → Except DecodeFault (List Json)
  | .done close => do
    close.check
    return []
  | .more _ item rest => do
    let value ← item.value depth
    return value :: (← rest.values depth)

def Members.values (depth : Nat) : Members → Except DecodeFault (List (String × Json))
  | .done close => do
    close.check
    return []
  | .more key item rest => do
    let name ← unstopped key.name
    let value ← item.value depth
    return (name, value) :: (← rest.values depth)

end

mutual

/-- What an outline says, with null in place of what cannot be read. -/
def Outline.gist : Outline → Json
  | .null _ => .null
  | .bool b _ => .bool b
  | .number n _ => match n with | .ok n => .number n | .error _ => .null
  | .string s _ => match s with | .ok s => .string s | .error _ => .null
  | .array _ items => .array items.gists
  | .object _ members => .object (sortMembers members.gists)
  | .broken _ => .null

def Items.gists : Items → List Json
  | .done _ => []
  | .more _ item rest => item.gist :: rest.gists

/-- What members say, as far as they have a name. -/
def Members.gists : Members → List (String × Json)
  | .done _ => []
  | .more key item rest =>
    match key.name with
    | .ok name => (name, item.gist) :: rest.gists
    | .error _ => rest.gists

end

/-! ## Skipping -/

/-- A stop as it shows in a part that is passed over. -/
def skippedStop (stop : Stop) : DecodeFault :=
  if stop.fault = .controlCharacter then
    .unreadable { stop with spot := { stop.spot with ahead := 0 } }
  else .unreadable stop

/-- Whether items that are passed over end well. -/
def Close.skipItems : Close → Except DecodeFault Unit
  | .faulty .trailingComma unread => .error (.unreadable ⟨.expectedValue, .next unread⟩)
  | close => close.check

/-- Whether members that are passed over end well. -/
def Close.skipMembers : Close → Except DecodeFault Unit
  | .faulty .trailingComma unread => .error (.unreadable ⟨.keyNotString, .next unread⟩)
  | .faulty .endInValue unread => .error (.unreadable ⟨.endInObject, .next unread⟩)
  | close => close.check

/-- Whether a key that is passed over can be read; what its escapes stand for does not matter. -/
def skipKey (key : Key) : Except DecodeFault Unit :=
  match key.name with
  | .ok _ => .ok ()
  | .error stop =>
    if stop.fault = .loneSurrogate ∨ stop.fault = .endOfHexEscape then .ok ()
    else .error (skippedStop stop)

mutual

/-- Passes over a value, of which only the notation is looked at. -/
def Outline.skip : Outline → Except DecodeFault Unit
  | .array _ items => items.skip
  | .object _ members => members.skip
  | .broken stop => .error (skippedStop stop)
  | _ => .ok ()

def Items.skip : Items → Except DecodeFault Unit
  | .done close => close.skipItems
  | .more _ item rest => do
    item.skip
    rest.skip

def Members.skip : Members → Except DecodeFault Unit
  | .done close => close.skipMembers
  | .more key item rest => do
    skipKey key
    item.skip
    rest.skip

end

/-! ## Misfits -/

/-- The fault of a value that is not what is expected. -/
def Outline.mismatch (expected : String) : Outline → DecodeFault
  | .null after => .misfit (.invalidType "null" expected) (.at after)
  | .bool b after => .misfit (.invalidType (describeBool b) expected) (.at after)
  | .number (.ok n) after => .misfit (.invalidType (describeNumber n) expected) (.at after)
  | .number (.error stop) _ => .unreadable stop
  | .string (.ok s) after => .misfit (.invalidType (describeString s) expected) (.at after)
  | .string (.error stop) _ => .unreadable stop
  | .array start _ => .misfit (.invalidType "sequence" expected) (.at start)
  | .object start _ => .misfit (.invalidType "map" expected) (.at start)
  | .broken stop => .unreadable stop

/-! ## Texts -/

/-- Refuses anything but blanks after a text's value. -/
def checkEnd (left : Left) : Except DecodeFault Unit :=
  match left with
  | none => .ok ()
  | some rest =>
    match skipBlank rest with
    | [] => .ok ()
    | more => .error (.unreadable ⟨.trailingText, .next more⟩)

/-- The value of a text, with the members of every object sorted. -/
def parse (text : List Char) : Except DecodeFault Json := do
  let (outline, left) := readText text
  let value ← outline.value nestingLimit
  checkEnd left
  return value.sorted

end ClusterAudit.Json
