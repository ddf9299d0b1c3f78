-- SUMMARY: What passes the check against a shape, shape by shape, and what is then found in it.
import ClusterAudit.Json.Shape
import ClusterAudit.Proofs.JsonRecords

/-!
# Values of a shape

For each kind of shape, the first part of this module says which outlines pass the check. What is
made of an outline that has passed is a value that the shape admits, and the second part says what
is found in such a value: a record has the fields that must be there, and each field that it has is
admitted by the shape of the field.
-/

namespace ClusterAudit.Json

variable {schema : Schema} {depth : Nat}

abbrev RecordFields := List (String × Presence × Shape)

variable {fields : RecordFields} {title : String}

/-! ## What passes the check -/

section Check

variable {outline : Outline} {start : List Char} {items : Items} {members : Members}

theorem deeper_eq_ok_iff {inner : Except DecodeFault Unit} :
    deeper depth start inner = .ok () ↔ 1 < depth ∧ inner = .ok () := by
  unfold deeper
  split
  · simp only [reduceCtorEq, false_iff]
    omega
  · rw [and_iff_right (by omega)]

theorem check_text_iff :
    outline.check schema depth .text = .ok () ↔ ∃ s after, outline = .string (.ok s) after := by
  cases outline with
  | string s after => cases s <;> simp [Outline.check, Shape.base, Outline.checkScalar]
  | _ => simp [Outline.check, Shape.base, Outline.checkScalar]

theorem check_nullable_iff {shape : Shape} (hbase : shape.base = shape) :
    outline.check schema depth (.nullable shape) = .ok () ↔
      (∃ after, outline = .null after) ∨ outline.check schema depth shape = .ok () := by
  have hnullable : (Shape.nullable shape).base = shape.base := hbase.symm
  cases outline with
  | null after => simp [Outline.check]
  | _ => simp only [Outline.check, hnullable, reduceCtorEq, exists_false, false_or]

theorem check_integer_iff {kind : String} {low high : Int} :
    outline.check schema depth (.integer kind low high) = .ok () ↔
      ∃ n i after, outline = .number (.ok n) after ∧ n.integer? = some i ∧ low ≤ i ∧ i ≤ high := by
  cases outline with
  | number n after =>
    simp only [Outline.check, Shape.base, Outline.checkScalar]
    cases n with
    | error stop => simp [Outline.checkInteger]
    | ok n =>
      simp only [Outline.checkInteger]
      cases hinteger : n.integer? with
      | none => simp [hinteger]
      | some i => by_cases hlimits : low ≤ i ∧ i ≤ high <;> simp [hinteger, hlimits]
  | _ => simp [Outline.check, Shape.base, Outline.checkScalar, Outline.checkInteger]

theorem check_list_iff {item : Shape} :
    outline.check schema depth (.list item) = .ok () ↔
      ∃ start items, outline = .array start items ∧ 1 < depth ∧
        items.checkEach schema (depth - 1) item = .ok () := by
  cases outline <;> simp [Outline.check, Shape.base, Outline.checkScalar, deeper_eq_ok_iff]

theorem check_openRecord_iff :
    outline.check schema depth (.openRecord title fields) = .ok () ↔
      ∃ start members, outline = .object start members ∧ 1 < depth ∧
        members.checkRecord schema (depth - 1) true fields [] = .ok () := by
  cases outline <;> simp [Outline.check, Shape.base, Outline.checkScalar, deeper_eq_ok_iff]

theorem check_closedRecord_iff :
    outline.check schema depth (.closedRecord title fields) = .ok () ↔
      1 < depth ∧
        ((∃ start members, outline = .object start members ∧
          members.checkRecord schema (depth - 1) false fields [] = .ok ()) ∨
        ∃ start items, outline = .array start items ∧
          items.checkFields schema (depth - 1) title fields 0 = .ok ()) := by
  cases outline <;> simp [Outline.check, Shape.base, Outline.checkScalar, deeper_eq_ok_iff]

/-- Two checks, one after the other. -/
theorem bind_eq_ok_iff {first second : Except DecodeFault Unit} :
    (first >>= fun _ => second) = .ok () ↔ first = .ok () ∧ second = .ok () := by
  cases first <;> simp [bind, Except.bind]

theorem checkEach_more_iff {item : Outline} {shape : Shape} :
    Items.checkEach schema depth shape (.more start item items) = .ok () ↔
      item.check schema depth shape = .ok () ∧ items.checkEach schema depth shape = .ok () := by
  rw [Items.checkEach, bind_eq_ok_iff]

theorem checkFields_done_iff {close : Close} {taken : Nat} :
    Items.checkFields schema depth title fields taken (.done close) = .ok () ↔
      close.check = .ok () ∧ ∀ field ∈ fields.drop taken, field.2.1 = .never := by
  rw [Items.checkFields, bind_eq_ok_iff, checkComplete]
  refine and_congr_right fun _ => ?_
  split
  · rename_i place hplace
    obtain ⟨hlt, hpresence, -⟩ := List.findIdx?_eq_some_iff_getElem.mp hplace
    simp only [reduceCtorEq, false_iff, not_forall]
    exact ⟨_, List.getElem_mem hlt, by simpa using hpresence⟩
  · rename_i hnone
    simpa [List.findIdx?_eq_none_iff] using hnone

theorem checkFields_more_iff {item : Outline} {taken : Nat} :
    Items.checkFields schema depth title fields taken (.more start item items) = .ok () ↔
      ∃ field, fields[taken]? = some field ∧ item.check schema depth field.2.2 = .ok () ∧
        items.checkFields schema depth title fields (taken + 1) = .ok () := by
  rw [Items.checkFields]
  cases fields[taken]? with
  | none => simp
  | some field =>
    simp only [Option.some.injEq, exists_eq_left', bind_eq_ok_iff]

theorem checkRecord_done_iff {isOpen : Bool} {seen : List String} {close : Close} :
    Members.checkRecord schema depth isOpen fields seen (.done close) = .ok () ↔
      close.check = .ok () ∧ ∀ field ∈ fields, field.2.1 = .always → field.1 ∈ seen := by
  rw [Members.checkRecord, bind_eq_ok_iff, checkPresent]
  refine and_congr_right fun _ => ?_
  split
  · rename_i name presence shape hfind
    have hmem := List.mem_of_find?_eq_some hfind
    have hmissing := List.find?_some hfind
    simp only [reduceCtorEq, false_iff, not_forall]
    simp at hmissing
    exact ⟨_, hmem, hmissing.1, hmissing.2⟩
  · rename_i hnone
    simpa [List.find?_eq_none] using hnone

/-- A member that is passed over, or that is checked as a field not seen before. -/
def PassesAs (schema : Schema) (depth : Nat) (isOpen : Bool) (fields : RecordFields)
    (seen : List String) (name : String) (outline : Outline) : Prop :=
  match field? fields name with
  | none => if isOpen then ∃ value, outline.value depth = .ok value else outline.skip = .ok ()
  | some field => name ∉ seen ∧ outline.check schema depth field.2 = .ok ()

theorem checkRecord_more_iff {isOpen : Bool} {seen : List String} {key : Key} {item : Outline} :
    Members.checkRecord schema depth isOpen fields seen (.more key item members) = .ok () ↔
      ∃ name, key.name = .ok name ∧ PassesAs schema depth isOpen fields seen name item ∧
        members.checkRecord schema depth isOpen fields (name :: seen) = .ok () := by
  rw [Members.checkRecord]
  cases key.name with
  | error stop => simp [unstopped, bind, Except.bind]
  | ok name =>
    simp only [unstopped, Except.ok.injEq, exists_eq_left', PassesAs, bind, Except.bind]
    cases field? fields name with
    | none =>
      cases isOpen with
      | true => cases item.value depth <;> simp [Except.map]
      | false => cases item.skip <;> simp
    | some field =>
      by_cases hseen : name ∈ seen
      · simp [hseen]
      · cases hcheck : item.check schema depth field.2 <;> simp [hseen, hcheck]

end Check

/-! ## What is found in a value -/

/-- The value is made of an outline that passes the check against the shape. -/
def Shape.Admits (schema : Schema) (shape : Shape) (value : Json) : Prop :=
  ∃ (depth : Nat) (outline : Outline),
    outline.check schema depth shape = .ok () ∧ outline.gist = value

/-- A value that was parsed is admitted. -/
theorem Shape.admits_of_parse {shape : Shape} {text : List Char} {value : Json}
    (h : shape.parse schema text = .ok value) : shape.Admits schema value := by
  rw [Shape.parse] at h
  obtain ⟨_, hcheck, h⟩ := exists_of_bind_eq_ok h
  obtain ⟨_, -, h⟩ := exists_of_bind_eq_ok h
  cases h
  exact ⟨_, _, hcheck, rfl⟩

section Admits

variable {value : Json}

theorem Shape.admits_text (h : Shape.text.Admits schema value) : ∃ s, value = .string s := by
  obtain ⟨depth, outline, hcheck, rfl⟩ := h
  obtain ⟨s, after, rfl⟩ := check_text_iff.mp hcheck
  exact ⟨s, rfl⟩

theorem Shape.admits_nullable {shape : Shape} (hbase : shape.base = shape)
    (h : (Shape.nullable shape).Admits schema value) :
    value = .null ∨ shape.Admits schema value := by
  obtain ⟨depth, outline, hcheck, rfl⟩ := h
  obtain ⟨after, rfl⟩ | hcheck := (check_nullable_iff hbase).mp hcheck
  · exact .inl rfl
  · exact .inr ⟨depth, outline, hcheck, rfl⟩

theorem Shape.admits_integer {kind : String} {low high : Int}
    (h : (Shape.integer kind low high).Admits schema value) :
    ∃ n i, value = .number n ∧ n.integer? = some i ∧ low ≤ i ∧ i ≤ high := by
  obtain ⟨depth, outline, hcheck, rfl⟩ := h
  obtain ⟨n, i, after, rfl, hlimits⟩ := check_integer_iff.mp hcheck
  exact ⟨n, i, rfl, hlimits⟩

theorem admits_of_mem_gists {item : Shape} : ∀ {items : Items} {depth : Nat},
    items.checkEach schema depth item = .ok () → ∀ value ∈ items.gists, item.Admits schema value
  | .done _, _, _ => List.forall_mem_nil _
  | .more _ outline rest, _, h => by
    obtain ⟨hitem, hrest⟩ := checkEach_more_iff.mp h
    exact List.forall_mem_cons.mpr ⟨⟨_, outline, hitem, rfl⟩, admits_of_mem_gists hrest⟩

theorem Shape.admits_list {item : Shape} (h : (Shape.list item).Admits schema value) :
    ∃ items, value = .array items ∧ ∀ x ∈ items, item.Admits schema x := by
  obtain ⟨depth, outline, hcheck, rfl⟩ := h
  obtain ⟨start, items, rfl, -, hitems⟩ := check_list_iff.mp hcheck
  exact ⟨_, rfl, admits_of_mem_gists hitems⟩

end Admits

/-! ## What is found in a record -/

section Records

variable {isOpen : Bool} {members : List (String × Json)} {name : String} {value : Json}

theorem mem_of_field? {α : Type} {fields : List (String × α)} {field : α}
    (h : field? fields name = some field) : (name, field) ∈ fields := by
  obtain ⟨⟨other, _⟩, hfind, rfl⟩ := Option.map_eq_some_iff.mp h
  have hname : other = name := by simpa using List.find?_some hfind
  exact hname ▸ List.mem_of_find?_eq_some hfind

theorem isSome_lookup_foldl (front : List (String × Json)) :
    (lookup name
        (members.foldl (fun sorted (name, value) => insertMember name value sorted) front)).isSome ↔
      name ∈ members.map Prod.fst ∨ (lookup name front).isSome := by
  induction members generalizing front with
  | nil => simp
  | cons first rest ih =>
    obtain ⟨other, value⟩ := first
    rw [List.foldl_cons, ih, lookup_insertMember, List.map_cons, List.mem_cons]
    by_cases hname : other = name
    · simp [hname]
    · rw [if_neg hname, or_assoc, or_iff_right (Ne.symm hname)]

/-- The members of a record have the shapes of its fields, and none is missing that must be
there. -/
structure HasMembers (schema : Schema) (fields : RecordFields) (members : List (String × Json)) :
    Prop where
  admits : ∀ name field value, field? fields name = some field → lookup name members = some value →
    field.2.Admits schema value
  present : ∀ field ∈ fields, field.2.1 = .always → (lookup field.1 members).isSome

/-- A field that must be there is, with a value of its shape. -/
theorem HasMembers.exists_lookup {shape : Shape} (h : HasMembers schema fields members)
    (name : String) (hfield : field? fields name = some (.always, shape)) :
    ∃ value, lookup name members = some value ∧ shape.Admits schema value := by
  obtain ⟨value, hvalue⟩ := Option.isSome_iff_exists.mp (h.present _ (mem_of_field? hfield) rfl)
  exact ⟨value, hvalue, h.admits name _ value hfield hvalue⟩

theorem admits_of_checkRecord : ∀ {members : Members} {seen : List String},
    members.checkRecord schema depth isOpen fields seen = .ok () →
    (∀ member ∈ members.gists, ∀ field, field? fields member.1 = some field →
      field.2.Admits schema member.2) ∧
    ∀ field ∈ fields, field.2.1 = .always →
      field.1 ∈ seen ∨ field.1 ∈ members.gists.map Prod.fst
  | .done _, _, h =>
    ⟨List.forall_mem_nil _,
      fun field hfield halways => .inl ((checkRecord_done_iff.mp h).2 field hfield halways)⟩
  | .more key item rest, seen, h => by
    obtain ⟨name, hname, hpasses, hrest⟩ := checkRecord_more_iff.mp h
    obtain ⟨hadmits, hpresent⟩ := admits_of_checkRecord hrest
    simp only [Members.gists, hname]
    refine ⟨List.forall_mem_cons.mpr ⟨fun field hfield => ?_, hadmits⟩, ?_⟩
    · rw [PassesAs, hfield] at hpasses
      exact ⟨depth, item, hpasses.2, rfl⟩
    · intro field hfield halways
      rw [List.map_cons, List.mem_cons, or_left_comm, ← or_assoc, ← List.mem_cons]
      exact hpresent field hfield halways

theorem hasMembers_of_checkRecord {members : Members}
    (h : members.checkRecord schema depth isOpen fields [] = .ok ()) :
    HasMembers schema fields (sortMembers members.gists) := by
  obtain ⟨hadmits, hpresent⟩ := admits_of_checkRecord h
  refine ⟨fun name field value hfield hlookup => ?_, fun field hfield halways => ?_⟩
  · exact hadmits _ (mem_of_mem_sortMembers (mem_of_field? hlookup)) field hfield
  · have hname := (hpresent field hfield halways).resolve_left List.not_mem_nil
    exact (isSome_lookup_foldl []).mpr (.inl hname)

theorem Shape.admits_openRecord (h : (Shape.openRecord title fields).Admits schema value) :
    ∃ members, value = .object members ∧ HasMembers schema fields members := by
  obtain ⟨depth, outline, hcheck, rfl⟩ := h
  obtain ⟨start, members, rfl, -, hmembers⟩ := check_openRecord_iff.mp hcheck
  exact ⟨_, rfl, hasMembers_of_checkRecord hmembers⟩

/-- The items have the shapes of the first fields, and the others need not be in arrays. -/
def HasItems (schema : Schema) (fields : RecordFields) (items : List Json) : Prop :=
  ∃ front back, fields = front ++ back ∧
    List.Forall₂ (fun field value => field.2.2.Admits schema value) front items ∧
    ∀ field ∈ back, field.2.1 = .never

/-- If the last field must be in arrays, then all must be. -/
theorem HasItems.forall₂ {last : String × Presence × Shape} {items : List Json}
    (h : HasItems schema fields items) (hlast : fields.getLast? = some last)
    (hpresence : last.2.1 ≠ .never) :
    List.Forall₂ (fun field value => field.2.2.Admits schema value) fields items := by
  obtain ⟨front, back, rfl, hfront, hback⟩ := h
  obtain rfl | ⟨before, other, rfl⟩ := back.eq_nil_or_concat
  · rwa [List.append_nil]
  · rw [List.concat_eq_append, ← List.append_assoc, List.getLast?_concat] at hlast
    obtain rfl : other = last := Option.some.inj hlast
    exact absurd (hback other (by simp)) hpresence

theorem hasItems_of_checkFields : ∀ {items : Items} {taken : Nat},
    items.checkFields schema depth title fields taken = .ok () →
    HasItems schema (fields.drop taken) items.gists
  | .done _, taken, h => ⟨[], fields.drop taken, rfl, .nil, (checkFields_done_iff.mp h).2⟩
  | .more _ item rest, taken, h => by
    obtain ⟨field, hfield, hitem, hrest⟩ := checkFields_more_iff.mp h
    obtain ⟨front, back, hsplit, hfront, hback⟩ := hasItems_of_checkFields hrest
    refine ⟨field :: front, back, ?_, .cons ⟨depth, item, hitem, rfl⟩ hfront, hback⟩
    obtain ⟨hlt, rfl⟩ := List.getElem?_eq_some_iff.mp hfield
    rw [List.cons_append, ← hsplit, List.drop_eq_getElem_cons hlt]

theorem Shape.admits_closedRecord (h : (Shape.closedRecord title fields).Admits schema value) :
    (∃ members, value = .object members ∧ HasMembers schema fields members) ∨
      ∃ items, value = .array items ∧ HasItems schema fields items := by
  obtain ⟨depth, outline, hcheck, rfl⟩ := h
  obtain ⟨-, ⟨start, members, rfl, hmembers⟩ | ⟨start, items, rfl, hitems⟩⟩ :=
    check_closedRecord_iff.mp hcheck
  · exact .inl ⟨_, rfl, hasMembers_of_checkRecord hmembers⟩
  · exact .inr ⟨_, rfl, hasItems_of_checkFields hitems⟩

end Records

end ClusterAudit.Json
