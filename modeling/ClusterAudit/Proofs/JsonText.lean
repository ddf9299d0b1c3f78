-- SUMMARY: A JSON text that was written can be read back.
import ClusterAudit.Json.Located
import ClusterAudit.Proofs.JsonScalars

/-!
# Reading JSON text back

The compact and the indented text of a value differ in their blanks alone: both are
written by `Json.write`, in a `Layout`. What is written in any layout is read as the value,
provided that its numbers are integers that fit their words and that it is not nested too
deep: `parse_compact` and `parse_pretty`.
-/

namespace ClusterAudit.Json

open ClusterAudit.Text

/-! ## Values -/

/-- All numbers of a value satisfy `p`, and it is nested less than `depth`. -/
inductive Within (p : JsonNumber → Prop) : Nat → Json → Prop
  | null {depth : Nat} : Within p depth .null
  | bool {depth : Nat} (b : Bool) : Within p depth (.bool b)
  | number {depth : Nat} {n : JsonNumber} (h : p n) : Within p depth (.number n)
  | string {depth : Nat} (s : String) : Within p depth (.string s)
  | array {depth : Nat} {items : List Json} (h : ∀ item ∈ items, Within p (depth + 1) item) :
    Within p (depth + 2) (.array items)
  | object {depth : Nat} {members : List (String × Json)}
    (h : ∀ member ∈ members, Within p (depth + 1) member.2) : Within p (depth + 2) (.object members)

/-! ## Layouts -/

/-- How a value is laid out: what stands before an item at a level, and after a colon. -/
structure Layout where
  gap : Nat → List Char
  space : List Char
  isJsonBlank_of_mem_gap : ∀ level, ∀ c ∈ gap level, isJsonBlank c = true
  isJsonBlank_of_mem_space : ∀ c ∈ space, isJsonBlank c = true

/-- The layout without any blank. -/
def Layout.dense : Layout where
  gap _ := []
  space := []
  isJsonBlank_of_mem_gap _ := List.forall_mem_nil _
  isJsonBlank_of_mem_space := List.forall_mem_nil _

/-- The layout with a line for each item. -/
def Layout.lines : Layout where
  gap := newLine
  space := [' ']
  isJsonBlank_of_mem_gap level c hc := by
    obtain rfl | hc := List.mem_cons.mp hc
    · rfl
    · rw [List.eq_of_mem_replicate hc]
      rfl
  isJsonBlank_of_mem_space c hc := by
    rw [List.mem_singleton.mp hc]
    rfl

mutual

/-- The value in a layout. -/
def write (layout : Layout) (level : Nat) : Json → List Char
  | .null => "null".toList
  | .bool b => printBool b
  | .number n => printNumber n
  | .string s => printString s
  | .array [] => ['[', ']']
  | .array (item :: rest) =>
    '[' :: (writeItems layout (level + 1) (item :: rest) ++ (layout.gap level ++ [']']))
  | .object [] => ['{', '}']
  | .object (member :: rest) =>
    '{' :: (writeMembers layout (level + 1) (member :: rest) ++ (layout.gap level ++ ['}']))

/-- Items with a comma between any two. -/
def writeItems (layout : Layout) (level : Nat) : List Json → List Char
  | [] => []
  | [item] => layout.gap level ++ item.write layout level
  | item :: rest =>
    layout.gap level ++ (item.write layout level ++ ',' :: writeItems layout level rest)

/-- Members with a comma between any two. -/
def writeMembers (layout : Layout) (level : Nat) : List (String × Json) → List Char
  | [] => []
  | [(name, value)] =>
    layout.gap level ++ (printString name ++ ':' :: (layout.space ++ value.write layout level))
  | (name, value) :: rest =>
    layout.gap level ++ (printString name ++
      ':' :: (layout.space ++ (value.write layout level ++ ',' :: writeMembers layout level rest)))

end

mutual

/-- The compact text is the one without blanks. -/
theorem printCompact_eq_write (level : Nat) :
    (value : Json) → value.printCompact = value.write .dense level
  | .null | .bool _ | .number _ | .string _ => by rw [printCompact, write]
  | .array [] => by rw [printCompact, write, printItems]; rfl
  | .array (item :: rest) => by
    rw [printCompact, write, printItems_eq_writeItems (level + 1)]
    rfl
  | .object [] => by rw [printCompact, write, printMembers]; rfl
  | .object (member :: rest) => by
    rw [printCompact, write, printMembers_eq_writeMembers (level + 1)]
    rfl

theorem printItems_eq_writeItems (level : Nat) :
    (items : List Json) → printItems items = writeItems .dense level items
  | [] => by rw [printItems, writeItems]
  | [item] => by
    rw [printItems, writeItems, printCompact_eq_write level]
    rfl
  | item :: next :: rest => by
    rw [printItems, writeItems, printCompact_eq_write level, printItems_eq_writeItems level]
    · rfl
    all_goals simp

theorem printMembers_eq_writeMembers (level : Nat) :
    (members : List (String × Json)) → printMembers members = writeMembers .dense level members
  | [] => by rw [printMembers, writeMembers]
  | [(name, value)] => by
    rw [printMembers, writeMembers, printCompact_eq_write level]
    rfl
  | (name, value) :: next :: rest => by
    rw [printMembers, writeMembers, printCompact_eq_write level, printMembers_eq_writeMembers level]
    · rfl
    all_goals simp

end

mutual

/-- The indented text is the one with a line for each item. -/
theorem printPretty_eq_write (level : Nat) :
    (value : Json) → value.printPretty level = value.write .lines level
  | .null | .bool _ | .number _ | .string _ => by rw [printPretty, write]
  | .array [] | .object [] => by rw [printPretty, write]
  | .array (item :: rest) => by
    rw [printPretty, write, prettyItems_eq_writeItems, List.append_assoc]
    rfl
  | .object (member :: rest) => by
    rw [printPretty, write, prettyMembers_eq_writeMembers, List.append_assoc]
    rfl

theorem prettyItems_eq_writeItems (level : Nat) :
    (items : List Json) → prettyItems level items = writeItems .lines level items
  | [] => by rw [prettyItems, writeItems]
  | [item] => by
    rw [prettyItems, writeItems, printPretty_eq_write]
    rfl
  | item :: next :: rest => by
    rw [prettyItems, writeItems, printPretty_eq_write, prettyItems_eq_writeItems, List.append_assoc]
    · rfl
    all_goals simp

theorem prettyMembers_eq_writeMembers (level : Nat) :
    (members : List (String × Json)) →
      prettyMembers level members = writeMembers .lines level members
  | [] => by rw [prettyMembers, writeMembers]
  | [(name, value)] => by
    rw [prettyMembers, writeMembers, printPretty_eq_write, List.append_assoc]
    rfl
  | (name, value) :: next :: rest => by
    rw [prettyMembers, writeMembers, printPretty_eq_write, prettyMembers_eq_writeMembers,
      List.append_assoc]
    · rfl
    all_goals simp

end

theorem writeItems_cons (layout : Layout) (level : Nat) (item next : Json) (rest : List Json) :
    writeItems layout level (item :: next :: rest) = layout.gap level ++
      (item.write layout level ++ ',' :: writeItems layout level (next :: rest)) := by
  rw [writeItems]
  simp

theorem writeMembers_cons (layout : Layout) (level : Nat) (name : String) (value : Json)
    (next : String × Json) (rest : List (String × Json)) :
    writeMembers layout level ((name, value) :: next :: rest) = layout.gap level ++
      (printString name ++ ':' :: (layout.space ++
        (value.write layout level ++ ',' :: writeMembers layout level (next :: rest)))) := by
  rw [writeMembers]
  simp

/-! ## Steps of reading -/

section Steps

variable {fuel : Nat} {text start rest inner after : List Char}

theorem readItems_last {item : Outline} (hitem : readValue fuel text = (item, some rest))
    (hend : skipBlank rest = ']' :: after) :
    readItems (fuel + 1) text = (.more text item (.done (.closed after)), some after) := by
  rw [readItems]
  simp only [hitem, hend]

theorem readItems_more {item : Outline} {items : Items} {left : Left}
    (hitem : readValue fuel text = (item, some rest)) (hcomma : skipBlank rest = ',' :: after)
    (hstarts : StartsValue (skipBlank after))
    (hitems : readItems fuel (skipBlank after) = (items, left)) :
    readItems (fuel + 1) text = (.more text item items, left) := by
  obtain ⟨c, cs, hcs, -, hc, -⟩ := hstarts
  rw [readItems]
  simp only [hitem, hcomma]
  rw [hcs] at hitems ⊢
  split
  · contradiction
  · rename_i heq
    exact absurd (List.cons.inj heq).1 hc
  · simp only [hitems]

theorem readValue_array {items : Items} {left : Left} (hstart : skipBlank text = '[' :: rest)
    (hstarts : StartsValue (skipBlank rest))
    (hitems : readItems fuel (skipBlank rest) = (items, left)) :
    readValue (fuel + 1) text = (.array ('[' :: rest) items, left) := by
  obtain ⟨c, cs, hcs, -, hc, -⟩ := hstarts
  rw [readValue]
  simp only [hstart, if_pos]
  rw [hcs] at hitems ⊢
  split
  · contradiction
  · rename_i heq
    exact absurd (List.cons.inj heq).1 hc
  · simp only [hitems]

/-- A member starts with its name and a colon. -/
theorem readString_member (name : String) (rest : List Char) :
    ∃ cs, printString name ++ ':' :: rest = '"' :: cs ∧
      readString (('"' :: cs).length + 1) cs = .ok (.ok name.toList, ':' :: rest) := by
  refine ⟨name.toList.flatMap escapeChar ++ '"' :: ':' :: rest, ?_, readString_printString ?_ _⟩
  · rw [printString, List.cons_append, List.append_assoc, List.singleton_append]
  · rw [List.length_cons, List.length_append]
    omega

theorem readMembers_last (name : String) {value : Outline}
    (hvalue : readValue fuel text = (value, some rest)) (hend : skipBlank rest = '}' :: after) :
    readMembers (fuel + 1) (printString name ++ ':' :: text) =
      (.more ⟨.ok name, ':' :: text, '}' :: after⟩ value (.done (.closed after)),
        some after) := by
  obtain ⟨cs, hcs, hname⟩ := readString_member name text
  have hcolon : skipBlank (':' :: text) = ':' :: text := rfl
  rw [hcs, readMembers]
  simp only [hname, hcolon, hvalue, hend, stringRead, Except.map, String.ofList_toList]

theorem readMembers_more (name : String) {value : Outline} {members : Members} {left : Left}
    (hvalue : readValue fuel text = (value, some rest)) (hcomma : skipBlank rest = ',' :: after)
    (hstarts : StartsValue (skipBlank after))
    (hmembers : readMembers fuel (skipBlank after) = (members, left)) :
    readMembers (fuel + 1) (printString name ++ ':' :: text) =
      (.more ⟨.ok name, ':' :: text, ',' :: after⟩ value members, left) := by
  obtain ⟨c, ds, hds, -, -, hc⟩ := hstarts
  obtain ⟨cs, hcs, hname⟩ := readString_member name text
  have hcolon : skipBlank (':' :: text) = ':' :: text := rfl
  rw [hcs, readMembers]
  simp only [hname, hcolon, hvalue, hcomma, stringRead, Except.map, String.ofList_toList]
  rw [hds] at hmembers ⊢
  split
  · contradiction
  · rename_i heq
    exact absurd (List.cons.inj heq).1 hc
  · simp only [hmembers]

theorem readValue_object {members : Members} {left : Left}
    (hstart : skipBlank text = '{' :: rest) (hstarts : StartsValue (skipBlank rest))
    (hmembers : readMembers fuel (skipBlank rest) = (members, left)) :
    readValue (fuel + 1) text = (.object ('{' :: rest) members, left) := by
  obtain ⟨c, cs, hcs, -, -, hc⟩ := hstarts
  rw [readValue]
  simp only [hstart, if_pos, show ('{' : Char) ≠ '[' by decide, if_false]
  rw [hcs] at hmembers ⊢
  split
  · contradiction
  · rename_i heq
    exact absurd (List.cons.inj heq).1 hc
  · simp only [hmembers]

theorem readValue_scalar {c : Char} {cs : List Char} (hstart : skipBlank text = c :: cs)
    (hc : c ≠ '[' ∧ c ≠ '{') :
    readValue (fuel + 1) text = readScalar (text.length + 1) c cs := by
  rw [readValue]
  simp only [hstart, if_neg hc.1, if_neg hc.2]

end Steps

/-! ## Items and members -/

/-- What is written of a value is read as this value, whatever stands around it. -/
structure ReadsBack (layout : Layout) (depth : Nat) (value : Json) : Prop where
  starts : ∀ level, StartsValue (value.write layout level)
  reads : ∀ level front rest {fuel : Nat}, (∀ c ∈ front, isJsonBlank c = true) →
    Stops continuesNumber rest → (value.write layout level).length < fuel →
    ∃ outline, readValue fuel (front ++ (value.write layout level ++ rest)) = (outline, some rest) ∧
      outline.value depth = .ok value

section Parts

variable {layout : Layout} {depth fuel : Nat}

theorem skipBlank_gap (layout : Layout) (level : Nat) {text : List Char} (h : StartsValue text) :
    skipBlank (layout.gap level ++ text) = text :=
  skipBlank_append (layout.isJsonBlank_of_mem_gap level) h.stops

/-- The end of an array or object ends a number. -/
theorem stops_gap (layout : Layout) (level : Nat) {c : Char} (hc : continuesNumber c = false)
    (rest : List Char) : Stops continuesNumber (layout.gap level ++ c :: rest) :=
  stops_continuesNumber_append (layout.isJsonBlank_of_mem_gap level) (stops_cons hc rest)

theorem startsValue_skipBlank_writeItems {item : Json} (h : ReadsBack layout depth item)
    (level : Nat) (items : List Json) (tail : List Char) :
    StartsValue (skipBlank (writeItems layout level (item :: items) ++ tail)) := by
  have hstarts := fun text => (h.starts level).append text
  cases items with
  | nil =>
    rw [writeItems, List.append_assoc, skipBlank_gap layout level (hstarts _)]
    exact hstarts _
  | cons next items =>
    rw [writeItems_cons, List.append_assoc, List.append_assoc,
      skipBlank_gap layout level (hstarts _)]
    exact hstarts _

theorem startsValue_skipBlank_writeMembers (layout : Layout) (level : Nat) (member : String × Json)
    (members : List (String × Json)) (tail : List Char) :
    StartsValue (skipBlank (writeMembers layout level (member :: members) ++ tail)) := by
  obtain ⟨name, value⟩ := member
  have hstarts := startsValue_printString name
  cases members with
  | nil =>
    rw [writeMembers, List.append_assoc, List.append_assoc, skipBlank_gap layout level (hstarts _)]
    exact hstarts _
  | cons next members =>
    rw [writeMembers_cons, List.append_assoc, List.append_assoc,
      skipBlank_gap layout level (hstarts _)]
    exact hstarts _

/-- Written items are read as these items, from the first character of the first up to the
bracket. -/
theorem readItems_writeItems {items : List Json}
    (hitems : ∀ item ∈ items, ReadsBack layout depth item) (hne : items ≠ []) (level : Nat)
    (hfuel : (writeItems layout level items).length + 1 < fuel) (outer : Nat) (after : List Char) :
    ∃ read, readItems fuel
        (skipBlank (writeItems layout level items ++ (layout.gap outer ++ ']' :: after))) =
        (read, some after) ∧ read.values depth = .ok items := by
  induction items generalizing fuel with
  | nil => exact absurd rfl hne
  | cons item items ih =>
    obtain ⟨hitem, hitems⟩ := List.forall_mem_cons.mp hitems
    obtain ⟨fuel, rfl⟩ := Nat.exists_eq_succ_of_ne_zero (Nat.ne_zero_of_lt hfuel)
    have hstarts := fun text => (hitem.starts level).append text
    cases items with
    | nil =>
      rw [writeItems, List.length_append] at hfuel
      rw [writeItems, List.append_assoc, skipBlank_gap layout level (hstarts _)]
      obtain ⟨outline, hread, hvalue⟩ := hitem.reads level [] _ (List.forall_mem_nil _)
        (stops_gap layout outer (c := ']') rfl after) (show _ < fuel by omega)
      have hend : skipBlank (layout.gap outer ++ ']' :: after) = ']' :: after :=
        skipBlank_append (layout.isJsonBlank_of_mem_gap outer) (stops_cons rfl after)
      refine ⟨_, readItems_last hread hend, ?_⟩
      simp only [Items.values, hvalue]
      rfl
    | cons next items =>
      rw [writeItems_cons] at hfuel ⊢
      simp only [List.length_append, List.length_cons] at hfuel
      obtain ⟨read, hreads, hvalues⟩ := ih hitems (List.cons_ne_nil _ _) (show _ < fuel by omega)
      obtain ⟨outline, hread, hvalue⟩ := hitem.reads level [] _ (List.forall_mem_nil _)
        (stops_cons (c := ',') rfl _) (show _ < fuel by omega)
      simp only [List.append_assoc, List.cons_append, skipBlank_gap layout level (hstarts _)]
      refine ⟨_, readItems_more hread rfl ?_ hreads, ?_⟩
      · exact startsValue_skipBlank_writeItems (hitems next List.mem_cons_self) level items _
      · simp only [Items.values, hvalue, hvalues]
        rfl

/-- Written members are read as these members, from the first name up to the bracket. -/
theorem readMembers_writeMembers {members : List (String × Json)}
    (hmembers : ∀ member ∈ members, ReadsBack layout depth member.2) (hne : members ≠ [])
    (level : Nat) (hfuel : (writeMembers layout level members).length + 1 < fuel) (outer : Nat)
    (after : List Char) :
    ∃ read, readMembers fuel
        (skipBlank (writeMembers layout level members ++ (layout.gap outer ++ '}' :: after))) =
        (read, some after) ∧ read.values depth = .ok members := by
  induction members generalizing fuel with
  | nil => exact absurd rfl hne
  | cons member members ih =>
    obtain ⟨name, value⟩ := member
    obtain ⟨hvalue : ReadsBack layout depth value, hmembers⟩ := List.forall_mem_cons.mp hmembers
    obtain ⟨fuel, rfl⟩ := Nat.exists_eq_succ_of_ne_zero (Nat.ne_zero_of_lt hfuel)
    have hstarts := startsValue_printString name
    cases members with
    | nil =>
      rw [writeMembers] at hfuel ⊢
      simp only [List.length_append, List.length_cons] at hfuel
      simp only [List.append_assoc, List.cons_append, skipBlank_gap layout level (hstarts _)]
      obtain ⟨outline, hread, houtline⟩ := hvalue.reads level _ _ layout.isJsonBlank_of_mem_space
        (stops_gap layout outer (c := '}') rfl after) (show _ < fuel by omega)
      have hend : skipBlank (layout.gap outer ++ '}' :: after) = '}' :: after :=
        skipBlank_append (layout.isJsonBlank_of_mem_gap outer) (stops_cons rfl after)
      refine ⟨_, readMembers_last name hread hend, ?_⟩
      simp only [Members.values, houtline]
      rfl
    | cons next members =>
      rw [writeMembers_cons] at hfuel ⊢
      simp only [List.length_append, List.length_cons] at hfuel
      simp only [List.append_assoc, List.cons_append, skipBlank_gap layout level (hstarts _)]
      obtain ⟨read, hreads, hvalues⟩ := ih hmembers (List.cons_ne_nil _ _) (show _ < fuel by omega)
      obtain ⟨outline, hread, houtline⟩ := hvalue.reads level _ _ layout.isJsonBlank_of_mem_space
        (stops_cons (c := ',') rfl _) (show _ < fuel by omega)
      refine ⟨_, readMembers_more name hread rfl ?_ hreads, ?_⟩
      · exact startsValue_skipBlank_writeMembers layout level next members _
      · simp only [Members.values, houtline, hvalues]
        rfl

end Parts

/-! ## Values in any layout -/

section Written

variable {depth : Nat}

/-- A scalar is read back if its first character tells what it is. -/
theorem readsBack_of_readScalar {layout : Layout} {value : Json} (text : List Char)
    (outline : List Char → Outline)
    (hwrite : ∀ level, value.write layout level = text) (hstarts : StartsValue text)
    (hvalue : ∀ rest, (outline rest).value depth = .ok value)
    (hread : ∀ rest fuel, Stops continuesNumber rest → text.length < fuel →
      ∃ c cs, text ++ rest = c :: cs ∧ (c ≠ '[' ∧ c ≠ '{') ∧
        readScalar fuel c cs = (outline rest, some rest)) :
    ReadsBack layout depth value where
  starts level := by
    rw [hwrite]
    exact hstarts
  reads level front rest fuel hfront hrest hfuel := by
    obtain ⟨fuel, rfl⟩ := Nat.exists_eq_succ_of_ne_zero (Nat.ne_zero_of_lt hfuel)
    rw [hwrite]
    obtain ⟨c, cs, hcs, hc, hscalar⟩ := hread rest ((front ++ (text ++ rest)).length + 1) hrest
      (by simp only [List.length_append]; omega)
    have hstart : skipBlank (front ++ (text ++ rest)) = c :: cs := by
      rw [skipBlank_append hfront (hstarts.append rest).stops, hcs]
    exact ⟨outline rest, by rw [readValue_scalar hstart hc, hscalar], hvalue rest⟩

/-- An array is read back if each of its items is. -/
theorem readsBack_array {layout : Layout} {items : List Json}
    (hitems : ∀ item ∈ items, ReadsBack layout (depth + 1) item) :
    ReadsBack layout (depth + 2) (.array items) := by
  have hvalue : ∀ {read : Items} (start : List Char), read.values (depth + 1) = .ok items →
      (Outline.array start read).value (depth + 2) = .ok (.array items) := by
    intro read start hvalues
    simp only [Outline.value, if_neg (show ¬depth + 2 ≤ 1 by omega),
      show depth + 2 - 1 = depth + 1 from rfl, hvalues]
    rfl
  cases items with
  | nil =>
    refine ⟨fun level => ⟨'[', _, by rw [write], by decide⟩, ?_⟩
    intro level front rest fuel hfront _ hfuel
    obtain ⟨fuel, rfl⟩ := Nat.exists_eq_succ_of_ne_zero (Nat.ne_zero_of_lt hfuel)
    have hstart := skipBlank_append hfront (stops_cons (c := '[') rfl (']' :: rest))
    have hinner : skipBlank (']' :: rest) = ']' :: rest := rfl
    refine ⟨.array ('[' :: ']' :: rest) (.done (.closed rest)), ?_, hvalue _ rfl⟩
    rw [write, List.cons_append, List.singleton_append, readValue]
    simp only [hstart, if_pos, hinner]
  | cons item items =>
    refine ⟨fun level => ⟨'[', _, by rw [write], by decide⟩, ?_⟩
    intro level front rest fuel hfront _ hfuel
    obtain ⟨fuel, rfl⟩ := Nat.exists_eq_succ_of_ne_zero (Nat.ne_zero_of_lt hfuel)
    rw [write] at hfuel ⊢
    simp only [List.length_append, List.length_cons, List.length_nil] at hfuel
    simp only [List.append_assoc, List.cons_append, List.nil_append]
    obtain ⟨read, hreads, hvalues⟩ := readItems_writeItems hitems (List.cons_ne_nil _ _) (level + 1)
      (show _ < fuel by omega) level rest
    have hstarts := startsValue_skipBlank_writeItems (hitems item List.mem_cons_self) (level + 1)
      items (layout.gap level ++ ']' :: rest)
    exact ⟨_, readValue_array (skipBlank_append hfront (stops_cons rfl _)) hstarts hreads,
      hvalue _ hvalues⟩

/-- An object is read back if the value of each of its members is. -/
theorem readsBack_object {layout : Layout} {members : List (String × Json)}
    (hmembers : ∀ member ∈ members, ReadsBack layout (depth + 1) member.2) :
    ReadsBack layout (depth + 2) (.object members) := by
  have hvalue : ∀ {read : Members} (start : List Char), read.values (depth + 1) = .ok members →
      (Outline.object start read).value (depth + 2) = .ok (.object members) := by
    intro read start hvalues
    simp only [Outline.value, if_neg (show ¬depth + 2 ≤ 1 by omega),
      show depth + 2 - 1 = depth + 1 from rfl, hvalues]
    rfl
  cases members with
  | nil =>
    refine ⟨fun level => ⟨'{', _, by rw [write], by decide⟩, ?_⟩
    intro level front rest fuel hfront _ hfuel
    obtain ⟨fuel, rfl⟩ := Nat.exists_eq_succ_of_ne_zero (Nat.ne_zero_of_lt hfuel)
    have hstart := skipBlank_append hfront (stops_cons (c := '{') rfl ('}' :: rest))
    have hinner : skipBlank ('}' :: rest) = '}' :: rest := rfl
    refine ⟨.object ('{' :: '}' :: rest) (.done (.closed rest)), ?_, hvalue _ rfl⟩
    rw [write, List.cons_append, List.singleton_append, readValue]
    simp only [hstart, if_pos, hinner, show ('{' : Char) ≠ '[' by decide, if_false]
  | cons member members =>
    refine ⟨fun level => ⟨'{', _, by rw [write], by decide⟩, ?_⟩
    intro level front rest fuel hfront _ hfuel
    obtain ⟨fuel, rfl⟩ := Nat.exists_eq_succ_of_ne_zero (Nat.ne_zero_of_lt hfuel)
    rw [write] at hfuel ⊢
    simp only [List.length_append, List.length_cons, List.length_nil] at hfuel
    simp only [List.append_assoc, List.cons_append, List.nil_append]
    obtain ⟨read, hreads, hvalues⟩ := readMembers_writeMembers hmembers (List.cons_ne_nil _ _)
      (level + 1) (show _ < fuel by omega) level rest
    have hstarts := startsValue_skipBlank_writeMembers layout (level + 1) member members
      (layout.gap level ++ '}' :: rest)
    exact ⟨_, readValue_object (skipBlank_append hfront (stops_cons rfl _)) hstarts hreads,
      hvalue _ hvalues⟩

/-- In any layout, a value is read back if its numbers are integers and its nesting is allowed. -/
theorem Within.readsBack {value : Json} (h : value.Within JsonNumber.IsInteger depth)
    (layout : Layout) : ReadsBack layout depth value := by
  induction h with
  | null =>
    exact readsBack_of_readScalar "null".toList .null (fun level => by rw [write])
      ⟨'n', _, rfl, by decide⟩ (fun rest => rfl) (fun rest _ _ _ => ⟨'n', _, rfl, by decide, rfl⟩)
  | bool b =>
    exact readsBack_of_readScalar (printBool b) (.bool b) (fun level => by rw [write])
      (startsValue_printBool b) (fun rest => rfl) (fun rest fuel _ _ => readScalar_printBool b fuel)
  | @number depth n hn =>
    exact readsBack_of_readScalar (printNumber n) (.number (.ok n)) (fun level => by rw [write])
      (startsValue_printNumber hn) (fun rest => rfl)
      (fun rest fuel hrest _ => readScalar_printNumber hn hrest fuel)
  | string s =>
    exact readsBack_of_readScalar (printString s) (.string (.ok s)) (fun level => by rw [write])
      ⟨'"', _, rfl, by decide⟩ (fun rest => rfl)
      (fun rest fuel _ hfuel => readScalar_printString s hfuel)
  | array _ ih => exact readsBack_array ih
  | object _ ih => exact readsBack_object ih

/-- What is written of a value is read as the value with its members sorted. -/
theorem parse_write {value : Json} (h : value.Within JsonNumber.IsInteger nestingLimit)
    (layout : Layout) (level : Nat) : parse (value.write layout level) = .ok value.sorted := by
  obtain ⟨outline, hread, hvalue⟩ := (h.readsBack layout).reads level [] []
    (List.forall_mem_nil _) stops_nil
    (show _ < (value.write layout level).length + 2 by omega)
  have htext : readText (value.write layout level) = (outline, some []) := by
    rw [readText, ← hread, List.append_nil, List.nil_append]
  simp only [parse, htext, hvalue]
  rfl

theorem parse_compact {value : Json} (h : value.Within JsonNumber.IsInteger nestingLimit) :
    parse value.compact.toList = .ok value.sorted := by
  rw [compact, String.toList_ofList, printCompact_eq_write 0]
  exact parse_write h .dense 0

theorem parse_pretty {value : Json} (h : value.Within JsonNumber.IsInteger nestingLimit) :
    parse value.pretty.toList = .ok value.sorted := by
  rw [pretty, String.toList_ofList, printPretty_eq_write]
  exact parse_write h .lines 0

end Written

end ClusterAudit.Json
