-- SUMMARY: The integers of a JSON text that is read fit their words.
import ClusterAudit.Proofs.JsonRecords
import ClusterAudit.Proofs.JsonText

/-!
# The numbers of a text

An integer is kept exactly only if it fits its word; a reader that meets a greater one turns
it into a binary number. So whatever text is parsed, the integers of its value are within
their limits: `within_of_parse`.
-/

namespace ClusterAudit

/-- A number as the reader makes it: an integer within its limits, or a binary number. -/
def JsonNumber.IsAdmitted : JsonNumber → Prop
  | .natural n => n < 2 ^ 64
  | .negative n => 0 < n ∧ n ≤ 2 ^ 63
  | .binary _ => True

namespace Json

/-! ## Reading a number -/

/-- A number that is read is admitted. -/
def Admits (read : NumberRead) : Prop := ∀ n rest, read = .ok (n, rest) → n.IsAdmitted

section Numbers

variable {negative : Bool} {value : Nat}

theorem admits_error (stop : Stop) : Admits (.error stop) := fun _ _ h => nomatch h

theorem admits_ok {n : JsonNumber} (h : n.IsAdmitted) (rest : List Char) :
    Admits (.ok (n, rest)) := by
  intro m after hread
  cases hread
  exact h

theorem admits_binary (x : Binary64) (rest : List Char) : Admits (.ok (.binary x, rest)) :=
  admits_ok (show JsonNumber.IsAdmitted (.binary x) from trivial) rest

theorem readWordDigits_lt (hvalue : value < 2 ^ 64) (taken : Nat) (cs : List Char) :
    (readWordDigits value taken cs).1 < 2 ^ 64 := by
  induction cs generalizing value taken with
  | nil => exact hvalue
  | cons c cs ih =>
    rw [readWordDigits]
    split
    · simp only
      split
      · rename_i hlonger
        exact ih hlonger _
      · exact hvalue
    · exact hvalue

theorem admits_finishBinary (negative : Bool) (significand : Nat) (exponent : Int)
    (rest : List Char) : Admits (finishBinary negative significand exponent rest) := by
  rw [finishBinary]
  split
  · exact admits_binary _ rest
  · exact admits_error _

theorem admits_finishInteger (hvalue : value < 2 ^ 64) (rest : List Char) :
    Admits (finishInteger negative value rest) := by
  rw [finishInteger]
  split
  · exact admits_ok (show JsonNumber.IsAdmitted (.natural value) from hvalue) rest
  split
  · exact admits_binary _ rest
  · rename_i hlimits
    have hvalue : JsonNumber.IsAdmitted (.negative value) :=
      show 0 < value ∧ value ≤ 2 ^ 63 by omega
    exact admits_ok hvalue rest

theorem admits_readExponent (negative : Bool) (significand : Nat) (start : Int) (cs : List Char) :
    Admits (readExponent negative significand start cs) := by
  unfold readExponent
  simp only
  repeat' split
  all_goals first
    | exact admits_error _
    | exact admits_binary _ _
    | exact admits_finishBinary _ _ _ _

theorem admits_readNumberEnd (negative : Bool) (significand : Nat) (exponent : Int)
    (cs : List Char) : Admits (readNumberEnd negative significand exponent cs) := by
  unfold readNumberEnd
  split
  · exact admits_readExponent _ _ _ _
  · exact admits_readExponent _ _ _ _
  · exact admits_finishBinary _ _ _ _

theorem admits_readFraction (negative : Bool) (significand : Nat) (start : Int) (cs : List Char) :
    Admits (readFraction negative significand start cs) := by
  unfold readFraction
  simp only
  repeat' split
  all_goals first
    | exact admits_error _
    | exact admits_readNumberEnd _ _ _ _

theorem admits_readAfterInteger (hvalue : value < 2 ^ 64) (cs : List Char) :
    Admits (readAfterInteger negative value cs) := by
  unfold readAfterInteger
  split
  · exact admits_readFraction _ _ _ _
  · exact admits_readExponent _ _ _ _
  · exact admits_readExponent _ _ _ _
  · exact admits_finishInteger hvalue _

theorem admits_readNumber (negative : Bool) (cs : List Char) : Admits (readNumber negative cs) := by
  rw [readNumber.eq_def]
  cases cs with
  | nil => exact admits_error _
  | cons c cs =>
    simp only
    split
    · repeat' split
      all_goals first
        | exact admits_error _
        | exact admits_readAfterInteger (by decide) _
    split
    · rename_i hdigit
      have hword := readWordDigits_lt
        ((Text.digitValue_lt hdigit).trans (show 10 < 2 ^ 64 by decide)) 0 cs
      repeat' split
      all_goals first
        | exact admits_error _
        | exact admits_readNumberEnd _ _ _ _
        | exact admits_readAfterInteger hword _
    · exact admits_error _

end Numbers

/-! ## Outlines -/

mutual

/-- All numbers of an outline satisfy `p`. -/
def Outline.Holds (p : JsonNumber → Prop) : Outline → Prop
  | .number (.ok n) _ => p n
  | .array _ items => items.Holds p
  | .object _ members => members.Holds p
  | _ => True

/-- All numbers of the items satisfy `p`. -/
def Items.Holds (p : JsonNumber → Prop) : Items → Prop
  | .done _ => True
  | .more _ item rest => item.Holds p ∧ rest.Holds p

/-- All numbers of the members satisfy `p`. -/
def Members.Holds (p : JsonNumber → Prop) : Members → Prop
  | .done _ => True
  | .more _ value rest => value.Holds p ∧ rest.Holds p

end

theorem holds_readScalar (fuel : Nat) (c : Char) (cs : List Char) :
    (readScalar fuel c cs).1.Holds JsonNumber.IsAdmitted := by
  have hnumber : ∀ {n rest negative text}, readNumber negative text = .ok (n, rest) →
      (Outline.number (.ok n) rest).Holds JsonNumber.IsAdmitted := by
    intro n rest negative text hread
    exact admits_readNumber negative text n rest hread
  unfold readScalar
  simp only
  repeat' split
  all_goals first
    | exact hnumber ‹_›
    | trivial

section Steps

variable {fuel : Nat}

theorem holds_readValue_succ
    (hitems : ∀ cs, (readItems fuel cs).1.Holds JsonNumber.IsAdmitted)
    (hmembers : ∀ cs, (readMembers fuel cs).1.Holds JsonNumber.IsAdmitted) (cs : List Char) :
    (readValue (fuel + 1) cs).1.Holds JsonNumber.IsAdmitted := by
  rw [readValue]
  split
  · trivial
  split
  · split
    · trivial
    · trivial
    · exact hitems _
  split
  · split
    · trivial
    · trivial
    · exact hmembers _
  · exact holds_readScalar _ _ _

theorem holds_readItems_succ
    (hvalue : ∀ cs, (readValue fuel cs).1.Holds JsonNumber.IsAdmitted)
    (hitems : ∀ cs, (readItems fuel cs).1.Holds JsonNumber.IsAdmitted) (cs : List Char) :
    (readItems (fuel + 1) cs).1.Holds JsonNumber.IsAdmitted := by
  have hitem := hvalue cs
  rw [readItems]
  split
  · rename_i heq
    rw [heq] at hitem
    exact ⟨hitem, trivial⟩
  · rename_i heq
    rw [heq] at hitem
    split
    · exact ⟨hitem, trivial⟩
    · exact ⟨hitem, trivial⟩
    · split
      · exact ⟨hitem, trivial⟩
      · exact ⟨hitem, trivial⟩
      · exact ⟨hitem, hitems _⟩
    · exact ⟨hitem, trivial⟩

theorem holds_readMembers_succ
    (hvalue : ∀ cs, (readValue fuel cs).1.Holds JsonNumber.IsAdmitted)
    (hmembers : ∀ cs, (readMembers fuel cs).1.Holds JsonNumber.IsAdmitted) (cs : List Char) :
    (readMembers (fuel + 1) cs).1.Holds JsonNumber.IsAdmitted := by
  rw [readMembers.eq_def]
  simp only
  split
  · split
    · exact ⟨trivial, trivial⟩
    · split
      · rename_i text _
        have hmember := hvalue text
        split
        · rename_i heq
          rw [heq] at hmember
          exact ⟨hmember, trivial⟩
        · rename_i heq
          rw [heq] at hmember
          repeat' split
          all_goals first
            | exact ⟨hmember, trivial⟩
            | exact ⟨hmember, hmembers _⟩
      · exact ⟨trivial, trivial⟩
  · trivial

/-- Whatever is read, the numbers of its outline are admitted. -/
theorem holds_read (fuel : Nat) :
    (∀ cs, (readValue fuel cs).1.Holds JsonNumber.IsAdmitted) ∧
      (∀ cs, (readItems fuel cs).1.Holds JsonNumber.IsAdmitted) ∧
      ∀ cs, (readMembers fuel cs).1.Holds JsonNumber.IsAdmitted := by
  induction fuel with
  | zero => exact ⟨fun cs => trivial, fun cs => trivial, fun cs => trivial⟩
  | succ fuel ih =>
    obtain ⟨hvalue, hitems, hmembers⟩ := ih
    exact ⟨holds_readValue_succ hitems hmembers, holds_readItems_succ hvalue hitems,
      holds_readMembers_succ hvalue hmembers⟩

end Steps

/-! ## Values -/

mutual

/-- The value of an outline has its numbers, and is nested as deep as is allowed. -/
theorem Outline.within_value {p : JsonNumber → Prop} :
    ∀ {outline : Outline} {depth : Nat} {value : Json}, outline.Holds p →
      outline.value depth = .ok value → value.Within p depth
  | .null _, depth, value, _, h => by
    cases h
    exact .null
  | .bool b _, depth, value, _, h => by
    cases h
    exact .bool b
  | .number (.ok n) _, depth, value, hp, h => by
    cases h
    exact .number hp
  | .number (.error stop) _, depth, value, _, h => nomatch h
  | .string (.ok s) _, depth, value, _, h => by
    cases h
    exact .string s
  | .string (.error stop) _, depth, value, _, h => nomatch h
  | .array _ items, depth, value, hp, h => by
    rw [Outline.value] at h
    split at h
    · cases h
    · obtain ⟨values, hvalues, h⟩ := exists_of_bind_eq_ok h
      cases h
      obtain ⟨depth, rfl⟩ := Nat.exists_eq_add_of_le (show 2 ≤ depth by omega)
      rw [Nat.add_comm]
      refine .array (Items.within_values hp ?_)
      rwa [show 2 + depth - 1 = depth + 1 by omega] at hvalues
  | .object _ members, depth, value, hp, h => by
    rw [Outline.value] at h
    split at h
    · cases h
    · obtain ⟨values, hvalues, h⟩ := exists_of_bind_eq_ok h
      cases h
      obtain ⟨depth, rfl⟩ := Nat.exists_eq_add_of_le (show 2 ≤ depth by omega)
      rw [Nat.add_comm]
      refine .object (Members.within_values hp ?_)
      rwa [show 2 + depth - 1 = depth + 1 by omega] at hvalues
  | .broken stop, depth, value, _, h => nomatch h

theorem Items.within_values {p : JsonNumber → Prop} :
    ∀ {items : Items} {depth : Nat} {values : List Json}, items.Holds p →
      items.values depth = .ok values → ∀ value ∈ values, value.Within p depth
  | .done close, depth, values, _, h => by
    obtain ⟨_, -, h⟩ := exists_of_bind_eq_ok h
    cases h
    exact List.forall_mem_nil _
  | .more _ item rest, depth, values, hp, h => by
    obtain ⟨value, hvalue, h⟩ := exists_of_bind_eq_ok h
    obtain ⟨values, hvalues, h⟩ := exists_of_bind_eq_ok h
    cases h
    exact List.forall_mem_cons.mpr
      ⟨Outline.within_value hp.1 hvalue, Items.within_values hp.2 hvalues⟩

theorem Members.within_values {p : JsonNumber → Prop} :
    ∀ {members : Members} {depth : Nat} {values : List (String × Json)}, members.Holds p →
      members.values depth = .ok values → ∀ member ∈ values, member.2.Within p depth
  | .done close, depth, values, _, h => by
    obtain ⟨_, -, h⟩ := exists_of_bind_eq_ok h
    cases h
    exact List.forall_mem_nil _
  | .more key item rest, depth, values, hp, h => by
    obtain ⟨name, -, h⟩ := exists_of_bind_eq_ok h
    obtain ⟨value, hvalue, h⟩ := exists_of_bind_eq_ok h
    obtain ⟨values, hvalues, h⟩ := exists_of_bind_eq_ok h
    cases h
    exact List.forall_mem_cons.mpr
      ⟨Outline.within_value hp.1 hvalue, Members.within_values hp.2 hvalues⟩

end

/-- Sorting the members keeps the numbers and the nesting. -/
theorem Within.sorted {p : JsonNumber → Prop} {depth : Nat} {value : Json}
    (h : value.Within p depth) : value.sorted.Within p depth := by
  induction h with
  | null => exact .null
  | bool b => exact .bool b
  | number hn => exact .number hn
  | string s => exact .string s
  | array _ ih =>
    rw [Json.sorted, sortedItems_eq_map]
    exact .array (List.forall_mem_map.mpr ih)
  | object _ ih =>
    rw [Json.sorted, sortedMembers_eq_map]
    refine .object fun member hmember => ?_
    obtain ⟨unsorted, hunsorted, rfl⟩ := List.mem_map.mp (mem_of_mem_sortMembers hmember)
    exact ih unsorted hunsorted

/-- Whatever text is parsed, the integers of its value are within their limits. -/
theorem within_of_parse {text : List Char} {value : Json} (h : parse text = .ok value) :
    value.Within JsonNumber.IsAdmitted nestingLimit := by
  have hholds : (readText text).1.Holds JsonNumber.IsAdmitted := (holds_read _).1 text
  rw [parse] at h
  generalize readText text = read at h hholds
  obtain ⟨outline, left⟩ := read
  obtain ⟨whole, hwhole, h⟩ := exists_of_bind_eq_ok h
  obtain ⟨_, -, h⟩ := exists_of_bind_eq_ok h
  cases h
  exact (Outline.within_value hholds hwhole).sorted

end Json

end ClusterAudit
