-- SUMMARY: A text whose value has a shape passes the check against it.
import ClusterAudit.Proofs.Shapes
import Mathlib.Data.List.Forall2

/-!
# Accepting values

The check against a shape is more lenient than the reader of values, since it passes over the
members that nobody asks for. So a text that can be read passes the check as soon as its value is
accepted, and the value is what is made of it, but for the order of its members.
-/

namespace ClusterAudit.Json

variable {schema : Schema} {depth : Nat} {outline : Outline} {items : Items} {members : Members}

/-! ## Reading values -/

/-- The value that is read from an outline, if it is nested less than `depth`. -/
inductive Outline.Reads (depth : Nat) : Outline → Json → Prop
  | null {after : List Char} : Reads depth (.null after) .null
  | bool {b : Bool} {after : List Char} : Reads depth (.bool b after) (.bool b)
  | number {n : JsonNumber} {after : List Char} : Reads depth (.number (.ok n) after) (.number n)
  | string {s : String} {after : List Char} : Reads depth (.string (.ok s) after) (.string s)
  | array {start : List Char} {items : Items} {values : List Json} (hdepth : 1 < depth)
      (hvalues : items.values (depth - 1) = .ok values) :
      Reads depth (.array start items) (.array values)
  | object {start : List Char} {members : Members} {values : List (String × Json)}
      (hdepth : 1 < depth) (hvalues : members.values (depth - 1) = .ok values) :
      Reads depth (.object start members) (.object values)

theorem Outline.reads_of_value {value : Json} (h : outline.value depth = .ok value) :
    outline.Reads depth value := by
  cases outline with
  | null after =>
    cases h
    exact .null
  | bool b after =>
    cases h
    exact .bool
  | number n after =>
    cases n <;> cases h
    exact .number
  | string s after =>
    cases s <;> cases h
    exact .string
  | array start items =>
    rw [Outline.value] at h
    split at h
    · cases h
    · obtain ⟨values, hvalues, h⟩ := exists_of_bind_eq_ok h
      cases h
      exact .array (by omega) hvalues
  | object start members =>
    rw [Outline.value] at h
    split at h
    · cases h
    · obtain ⟨values, hvalues, h⟩ := exists_of_bind_eq_ok h
      cases h
      exact .object (by omega) hvalues
  | broken stop => cases h

theorem Items.values_done_eq_ok_iff {close : Close} {values : List Json} :
    (Items.done close).values depth = .ok values ↔ close.check = .ok () ∧ values = [] := by
  rw [Items.values]
  cases close.check <;> simp [bind, Except.bind, pure, Except.pure, eq_comm]

theorem Items.values_more_eq_ok_iff {start : List Char} {values : List Json} :
    (Items.more start outline items).values depth = .ok values ↔
      ∃ value rest, outline.value depth = .ok value ∧ items.values depth = .ok rest ∧
        values = value :: rest := by
  rw [Items.values]
  cases outline.value depth <;> cases items.values depth <;>
    simp [bind, Except.bind, pure, Except.pure, eq_comm]

theorem Members.values_done_eq_ok_iff {close : Close} {values : List (String × Json)} :
    (Members.done close).values depth = .ok values ↔ close.check = .ok () ∧ values = [] := by
  rw [Members.values]
  cases close.check <;> simp [bind, Except.bind, pure, Except.pure, eq_comm]

theorem Members.values_more_eq_ok_iff {key : Key} {values : List (String × Json)} :
    (Members.more key outline members).values depth = .ok values ↔
      ∃ name value rest, key.name = .ok name ∧ outline.value depth = .ok value ∧
        members.values depth = .ok rest ∧ values = (name, value) :: rest := by
  rw [Members.values]
  cases key.name <;> cases outline.value depth <;> cases members.values depth <;>
    simp [unstopped, bind, Except.bind, pure, Except.pure, eq_comm]

/-- An end that is well is well to who passes over it. -/
theorem Close.skip_of_check {close : Close} (h : close.check = .ok ()) :
    close.skipItems = .ok () ∧ close.skipMembers = .ok () := by
  cases close with
  | closed after | counted => exact ⟨rfl, rfl⟩
  | faulty fault unread => cases h

mutual

/-- What can be read can be passed over, and it says its value with the members sorted. -/
theorem Outline.skip_of_value {outline : Outline} {depth : Nat} {value : Json}
    (h : outline.value depth = .ok value) :
    outline.skip = .ok () ∧ outline.gist = value.sorted := by
  match outline, value, Outline.reads_of_value h with
  | .null _, _, .null => exact ⟨rfl, rfl⟩
  | .bool _ _, _, .bool => exact ⟨rfl, rfl⟩
  | .number _ _, _, .number => exact ⟨rfl, rfl⟩
  | .string _ _, _, .string => exact ⟨rfl, rfl⟩
  | .array _ items, _, .array _ hvalues =>
    obtain ⟨hskip, hgists⟩ := Items.skip_of_values hvalues
    exact ⟨hskip, by rw [Outline.gist, hgists, sorted]⟩
  | .object _ members, _, .object _ hvalues =>
    obtain ⟨hskip, hgists⟩ := Members.skip_of_values hvalues
    exact ⟨hskip, by rw [Outline.gist, hgists, sorted]⟩

theorem Items.skip_of_values : ∀ {items : Items} {depth : Nat} {values : List Json},
    items.values depth = .ok values → items.skip = .ok () ∧ items.gists = sortedItems values
  | .done close, _, _, h => by
    obtain ⟨hclose, rfl⟩ := Items.values_done_eq_ok_iff.mp h
    exact ⟨(Close.skip_of_check hclose).1, rfl⟩
  | .more _ item rest, _, _, h => by
    obtain ⟨value, values, hvalue, hvalues, rfl⟩ := Items.values_more_eq_ok_iff.mp h
    obtain ⟨hitem, hgist⟩ := Outline.skip_of_value hvalue
    obtain ⟨hrest, hgists⟩ := Items.skip_of_values hvalues
    exact ⟨bind_eq_ok_iff.mpr ⟨hitem, hrest⟩, by rw [Items.gists, hgist, hgists, sortedItems]⟩

theorem Members.skip_of_values :
    ∀ {members : Members} {depth : Nat} {values : List (String × Json)},
      members.values depth = .ok values →
        members.skip = .ok () ∧ members.gists = sortedMembers values
  | .done close, _, _, h => by
    obtain ⟨hclose, rfl⟩ := Members.values_done_eq_ok_iff.mp h
    exact ⟨(Close.skip_of_check hclose).2, rfl⟩
  | .more key item rest, _, _, h => by
    obtain ⟨name, value, values, hname, hvalue, hvalues, rfl⟩ :=
      Members.values_more_eq_ok_iff.mp h
    obtain ⟨hitem, hgist⟩ := Outline.skip_of_value hvalue
    obtain ⟨hrest, hgists⟩ := Members.skip_of_values hvalues
    have hkey : skipKey key = .ok () := by rw [skipKey, hname]
    refine ⟨bind_eq_ok_iff.mpr ⟨hkey, bind_eq_ok_iff.mpr ⟨hitem, hrest⟩⟩, ?_⟩
    simp only [Members.gists, hname, hgist, hgists, sortedMembers]

end

/-! ## Accepted values -/

/-- Whatever a value is read from passes the check against a shape. -/
def Shape.Accepts (schema : Schema) (depth : Nat) (shape : Shape) (value : Json) : Prop :=
  ∀ outline : Outline, outline.value depth = .ok value → outline.check schema depth shape = .ok ()

theorem Shape.accepts_text (s : String) : Shape.text.Accepts schema depth (.string s) := by
  intro outline h
  cases Outline.reads_of_value h with
  | string => exact check_text_iff.mpr ⟨_, _, rfl⟩

theorem Shape.accepts_null {shape : Shape} (hbase : shape.base = shape) :
    (Shape.nullable shape).Accepts schema depth .null := by
  intro outline h
  cases Outline.reads_of_value h with
  | null => exact (check_nullable_iff hbase).mpr (.inl ⟨_, rfl⟩)

theorem Shape.Accepts.nullable {shape : Shape} (hbase : shape.base = shape) {value : Json}
    (h : shape.Accepts schema depth value) : (Shape.nullable shape).Accepts schema depth value :=
  fun outline hvalue => (check_nullable_iff hbase).mpr (.inr (h outline hvalue))

theorem checkFields_of_values {fields : RecordFields} {title : String} :
    ∀ {items : Items} {taken : Nat} {values : List Json}, items.values depth = .ok values →
      List.Forall₂ (fun field value => field.2.2.Accepts schema depth value) (fields.drop taken)
        values →
      items.checkFields schema depth title fields taken = .ok ()
  | .done close, taken, _, hvalues, h => by
    obtain ⟨hclose, rfl⟩ := Items.values_done_eq_ok_iff.mp hvalues
    rw [List.forall₂_nil_right_iff] at h
    exact checkFields_done_iff.mpr ⟨hclose, by simp [h]⟩
  | .more _ item rest, taken, _, hvalues, h => by
    obtain ⟨value, values, hvalue, hrest, rfl⟩ := Items.values_more_eq_ok_iff.mp hvalues
    obtain ⟨field, back, haccepts, hback, hfields⟩ := List.forall₂_cons_right_iff.mp h
    have hfield : fields[taken]? = some field := by
      rw [← List.head?_drop, hfields, List.head?_cons]
    have hdrop : back = fields.drop (taken + 1) := by
      rw [← List.tail_drop, hfields, List.tail_cons]
    exact checkFields_more_iff.mpr
      ⟨field, hfield, haccepts item hvalue, checkFields_of_values hrest (hdrop ▸ hback)⟩

theorem checkEach_of_values {shape : Shape} :
    ∀ {items : Items} {values : List Json}, items.values depth = .ok values →
      (∀ value ∈ values, shape.Accepts schema depth value) →
      items.checkEach schema depth shape = .ok ()
  | .done close, _, hvalues, _ => (Items.values_done_eq_ok_iff.mp hvalues).1
  | .more _ item rest, _, hvalues, h => by
    obtain ⟨value, values, hvalue, hrest, rfl⟩ := Items.values_more_eq_ok_iff.mp hvalues
    obtain ⟨haccepts, h⟩ := List.forall_mem_cons.mp h
    exact checkEach_more_iff.mpr ⟨haccepts item hvalue, checkEach_of_values hrest h⟩

-- By induction on the members; names are seen whether or not they name a field, so none may occur
-- twice.
theorem checkRecord_of_values {isOpen : Bool} {fields : RecordFields} :
    ∀ {members : Members} {seen : List String} {values : List (String × Json)},
      members.values depth = .ok values → (values.map Prod.fst).Nodup →
      (∀ member ∈ values, member.1 ∉ seen ∧
        ∀ field, field? fields member.1 = some field → field.2.Accepts schema depth member.2) →
      (∀ field ∈ fields, field.2.1 = .always →
        field.1 ∈ seen ∨ field.1 ∈ values.map Prod.fst) →
      members.checkRecord schema depth isOpen fields seen = .ok ()
  | .done close, seen, _, hvalues, _, _, hpresent => by
    obtain ⟨hclose, rfl⟩ := Members.values_done_eq_ok_iff.mp hvalues
    refine checkRecord_done_iff.mpr ⟨hclose, fun field hfield halways => ?_⟩
    exact (hpresent field hfield halways).resolve_right List.not_mem_nil
  | .more key item rest, seen, _, hvalues, hnames, haccepts, hpresent => by
    obtain ⟨name, value, values, hname, hvalue, hrest, rfl⟩ :=
      Members.values_more_eq_ok_iff.mp hvalues
    obtain ⟨hfirst, hnames⟩ := List.nodup_cons.mp hnames
    obtain ⟨⟨hseen, haccept⟩, haccepts⟩ := List.forall_mem_cons.mp haccepts
    refine checkRecord_more_iff.mpr ⟨name, hname, ?_, checkRecord_of_values hrest hnames ?_ ?_⟩
    · rw [PassesAs]
      cases hfield : field? fields name with
      | none =>
        cases isOpen with
        | true => exact ⟨value, hvalue⟩
        | false => exact (Outline.skip_of_value hvalue).1
      | some field => exact ⟨hseen, haccept field hfield item hvalue⟩
    · refine fun member hmember => ⟨?_, (haccepts member hmember).2⟩
      rw [List.mem_cons, not_or]
      have hlater : member.1 ∈ values.map Prod.fst := List.mem_map_of_mem hmember
      exact ⟨fun hsame => hfirst (hsame ▸ hlater), (haccepts member hmember).1⟩
    · intro field hfield halways
      have hfield := hpresent field hfield halways
      rwa [List.map_cons, List.mem_cons, or_left_comm, ← or_assoc, ← List.mem_cons] at hfield

theorem lookup_of_mem {name : String} {value : Json} {members : List (String × Json)}
    (hnames : (members.map Prod.fst).Nodup) (h : (name, value) ∈ members) :
    lookup name members = some value := by
  induction members with
  | nil => cases h
  | cons first rest ih =>
    obtain ⟨other, was⟩ := first
    obtain ⟨hfirst, hnames⟩ := List.nodup_cons.mp hnames
    rw [lookup_cons]
    obtain hsame | hrest := List.mem_cons.mp h
    · cases hsame
      rw [if_pos rfl]
    · have hlater : name ∈ rest.map Prod.fst := List.mem_map_of_mem hrest
      have hother : other ≠ name := by
        rintro rfl
        exact hfirst hlater
      rw [if_neg hother, ih hnames hrest]

/-- No member of an object has the name of another. -/
def HasDistinctNames : Json → Prop
  | .object members => (members.map Prod.fst).Nodup
  | _ => True

/-- Under a name there is the same value after the members were sorted. -/
theorem lookup_sorted {name : String} {members : List (String × Json)}
    (hnames : HasDistinctNames (.object members)) :
    lookup name (sortMembers (sortedMembers members)) = (lookup name members).map sorted := by
  have hsame : (sortedMembers members).map Prod.fst = members.map Prod.fst := by
    simp [sortedMembers_eq_map, Function.comp_def]
  rw [lookup_sortMembers (hsame ▸ hnames), sortedMembers_eq_map]
  simp [lookup, List.find?_map, Function.comp_def]

section Records

variable {fields : RecordFields} {title : String}

theorem Shape.accepts_array {values : List Json}
    (h : List.Forall₂ (fun field value => field.2.2.Accepts schema (depth - 1) value) fields
      values) :
    (Shape.closedRecord title fields).Accepts schema depth (.array values) := by
  intro outline hvalue
  cases Outline.reads_of_value hvalue with
  | array hdepth hvalues =>
    exact check_closedRecord_iff.mpr
      ⟨hdepth, .inr ⟨_, _, rfl, checkFields_of_values hvalues h⟩⟩

theorem Shape.accepts_list {item : Shape} {values : List Json}
    (h : ∀ value ∈ values, item.Accepts schema (depth - 1) value) :
    (Shape.list item).Accepts schema depth (.array values) := by
  intro outline hvalue
  cases Outline.reads_of_value hvalue with
  | array hdepth hvalues =>
    exact check_list_iff.mpr ⟨_, _, rfl, hdepth, checkEach_of_values hvalues h⟩

/-- The members of an object are accepted in the fields of a record, and none is missing that must
be there. -/
structure Fits (schema : Schema) (depth : Nat) (fields : RecordFields)
    (members : List (String × Json)) : Prop where
  names : HasDistinctNames (.object members)
  accepts : ∀ field ∈ fields, ∀ value, lookup field.1 members = some value →
    field.2.2.Accepts schema depth value
  present : ∀ field ∈ fields, field.2.1 = .always → (lookup field.1 members).isSome

theorem Fits.checkRecord {isOpen : Bool} {values : List (String × Json)}
    (h : Fits schema depth fields values) (hvalues : members.values depth = .ok values) :
    members.checkRecord schema depth isOpen fields [] = .ok () := by
  refine checkRecord_of_values hvalues h.names ?_ ?_
  · refine fun member hmember => ⟨List.not_mem_nil, fun field hfield => ?_⟩
    exact h.accepts _ (mem_of_field? hfield) member.2 (lookup_of_mem h.names hmember)
  · intro field hfield halways
    obtain ⟨value, hlookup⟩ := Option.isSome_iff_exists.mp (h.present field hfield halways)
    exact .inr (List.mem_map_of_mem (mem_of_field? hlookup))

theorem Shape.accepts_object {values : List (String × Json)}
    (h : Fits schema (depth - 1) fields values) :
    (Shape.closedRecord title fields).Accepts schema depth (.object values) := by
  intro outline hvalue
  cases Outline.reads_of_value hvalue with
  | object hdepth hvalues =>
    exact check_closedRecord_iff.mpr ⟨hdepth, .inl ⟨_, _, rfl, h.checkRecord hvalues⟩⟩

theorem Shape.accepts_openRecord {values : List (String × Json)}
    (h : Fits schema (depth - 1) fields values) :
    (Shape.openRecord title fields).Accepts schema depth (.object values) := by
  intro outline hvalue
  cases Outline.reads_of_value hvalue with
  | object hdepth hvalues =>
    exact check_openRecord_iff.mpr ⟨_, _, rfl, hdepth, h.checkRecord hvalues⟩

end Records

/-! ## Texts of values -/

/-- The text is that of a value, with the members of every object as they stand in it. -/
def IsTextOf (text : List Char) (value : Json) : Prop :=
  (readText text).1.value nestingLimit = .ok value ∧ checkEnd (readText text).2 = .ok ()

/-- The text of a value that a shape accepts is parsed as that value. -/
theorem Shape.parse_of_accepts {shape : Shape} {text : List Char} {value : Json}
    (h : IsTextOf text value) (haccepts : shape.Accepts schema nestingLimit value) :
    shape.parse schema text = .ok value.sorted := by
  obtain ⟨hvalue, hend⟩ := h
  simp only [Shape.parse, haccepts _ hvalue, hend, (Outline.skip_of_value hvalue).2]
  rfl

end ClusterAudit.Json
