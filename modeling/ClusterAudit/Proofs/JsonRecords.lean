-- SUMMARY: A record can be read after the members of its objects were sorted.
import ClusterAudit.Json.Decode
import ClusterAudit.Proofs.Scanning

/-!
# Sorted records

A value that was read from a text has the members of its objects sorted by name. As long
as no name occurs twice, this changes neither which members there are nor what is found
under a name, and so it does not matter to the reader of a record.
-/

namespace ClusterAudit.Json

/-! ## Sorted values -/

theorem sortedItems_eq_map (items : List Json) : sortedItems items = items.map sorted := by
  induction items with
  | nil => rw [sortedItems, List.map_nil]
  | cons item items ih => rw [sortedItems, ih, List.map_cons]

theorem sortedMembers_eq_map (members : List (String × Json)) :
    sortedMembers members = members.map fun member => (member.1, member.2.sorted) := by
  induction members with
  | nil => rw [sortedMembers, List.map_nil]
  | cons member members ih => rw [sortedMembers, ih, List.map_cons]

section Members

variable {name : String} {value : Json} {member : String × Json} {members : List (String × Json)}

theorem mem_insertMember (h : member ∈ insertMember name value members) :
    member = (name, value) ∨ member ∈ members := by
  induction members with
  | nil => exact .inl (List.mem_singleton.mp h)
  | cons first rest ih =>
    rw [insertMember] at h
    split at h
    · obtain h | h := List.mem_cons.mp h
      · exact .inl h
      · exact .inr (List.mem_cons_of_mem _ h)
    split at h
    · exact List.mem_cons.mp h
    · obtain h | h := List.mem_cons.mp h
      · exact .inr (h ▸ List.mem_cons_self)
      · exact (ih h).imp_right (List.mem_cons_of_mem _)

theorem mem_foldl_insertMember {front : List (String × Json)}
    (h : member ∈
      members.foldl (fun sorted (name, value) => insertMember name value sorted) front) :
    member ∈ members ∨ member ∈ front := by
  induction members generalizing front with
  | nil => exact .inr h
  | cons first rest ih =>
    obtain h | h := ih h
    · exact .inl (List.mem_cons_of_mem _ h)
    · obtain rfl | h := mem_insertMember h
      · exact .inl List.mem_cons_self
      · exact .inr h

/-- Sorting brings in no members. -/
theorem mem_of_mem_sortMembers (h : member ∈ sortMembers members) : member ∈ members :=
  (mem_foldl_insertMember h).resolve_right List.not_mem_nil

theorem lookup_cons (other : String) :
    lookup name ((other, value) :: members) =
      if other = name then some value else lookup name members := by
  rw [lookup, List.find?_cons]
  split
  · rename_i h
    rw [if_pos (beq_iff_eq.mp h)]
    rfl
  · rename_i h
    rw [if_neg (beq_eq_false_iff_ne.mp h)]
    rfl

theorem lookup_insertMember (other : String) (value : Json) (members : List (String × Json)) :
    lookup name (insertMember other value members) =
      if other = name then some value else lookup name members := by
  induction members with
  | nil => rw [insertMember, lookup_cons]
  | cons first rest ih =>
    obtain ⟨old, was⟩ := first
    rw [insertMember]
    split
    · subst old
      rw [lookup_cons, lookup_cons]
      split <;> rfl
    split
    · rw [lookup_cons]
    · rename_i hne _
      rw [lookup_cons, ih, lookup_cons]
      -- Of the two names at most one is the one that is looked up.
      by_cases hold : old = name
      · rw [if_pos hold, if_neg (fun h => hne (h.trans hold.symm)), if_pos hold]
      · rw [if_neg hold, if_neg hold]

theorem lookup_eq_none (h : name ∉ members.map Prod.fst) : lookup name members = none := by
  induction members with
  | nil => rfl
  | cons first rest ih =>
    rw [List.map_cons, List.mem_cons, not_or] at h
    rw [lookup_cons, if_neg (Ne.symm h.1), ih h.2]

theorem lookup_foldl_insertMember (hnames : (members.map Prod.fst).Nodup)
    (front : List (String × Json)) :
    lookup name
        (members.foldl (fun sorted (name, value) => insertMember name value sorted) front) =
      (lookup name members).or (lookup name front) := by
  induction members generalizing front with
  | nil => rfl
  | cons first rest ih =>
    obtain ⟨other, value⟩ := first
    obtain ⟨hfirst, hrest⟩ := List.nodup_cons.mp hnames
    rw [List.foldl_cons, ih hrest, lookup_insertMember, lookup_cons]
    split
    · subst other
      rw [lookup_eq_none hfirst]
      rfl
    · rfl

/-- Sorting members of different names does not change what is found under a name. -/
theorem lookup_sortMembers (hnames : (members.map Prod.fst).Nodup) :
    lookup name (sortMembers members) = lookup name members := by
  rw [sortMembers, lookup_foldl_insertMember hnames]
  exact Option.or_none

theorem exists_mem_of_lookup (h : lookup name members = some value) :
    ∃ member ∈ members, member.2 = value := by
  obtain ⟨member, hfind, hvalue⟩ := Option.map_eq_some_iff.mp h
  exact ⟨member, List.mem_of_find?_eq_some hfind, hvalue⟩

end Members

/-! ## Reading records -/

section Records

variable {α : Type} {members : List (String × Json)}

/-- Members pass the check if each of them does. -/
theorem checkMembers_eq_ok_iff {rules : List FieldRule} :
    checkMembers rules members = .ok () ↔
      ∀ member ∈ members, ∀ rule, rules.find? (·.name == member.1) = some rule →
        rule.accepts member.2 = .ok () := by
  induction members with
  | nil => exact ⟨fun _ => List.forall_mem_nil _, fun _ => rfl⟩
  | cons member members ih =>
    obtain ⟨name, value⟩ := member
    rw [List.forall_mem_cons, ← ih, checkMembers]
    cases hrule : rules.find? (·.name == name) with
    | none =>
      exact ⟨fun h => ⟨fun _ hsome => (nomatch hsome), h⟩, fun h => h.2⟩
    | some rule =>
      constructor
      · intro h
        obtain ⟨_, haccepts, hrest⟩ := exists_of_bind_eq_ok h
        refine ⟨fun other hsome => ?_, hrest⟩
        cases hsome
        exact haccepts
      · intro h
        simp only [h.1 rule rfl]
        exact h.2

/-- Sorting does not make the check fail. -/
theorem checkMembers_sortMembers {rules : List FieldRule}
    (h : checkMembers rules members = .ok ()) : checkMembers rules (sortMembers members) = .ok () :=
  checkMembers_eq_ok_iff.mpr fun member hmember =>
    checkMembers_eq_ok_iff.mp h member (mem_of_mem_sortMembers hmember)

theorem required_sortMembers (hnames : (members.map Prod.fst).Nodup) (name : String)
    (decode : Json → Decoded α) :
    required (sortMembers members) name decode = required members name decode := by
  rw [required, required, lookup_sortMembers hnames]

theorem optional_sortMembers (hnames : (members.map Prod.fst).Nodup) (name : String) (absent : α)
    (decode : Json → Decoded α) :
    optional (sortMembers members) name absent decode = optional members name absent decode := by
  rw [optional, optional, lookup_sortMembers hnames]

/-- A list is read back if each of its items is. -/
theorem asList_map {β : Type} {write : β → Json} {read : Json → Decoded β} {xs : List β}
    (h : ∀ x ∈ xs, read (write x).sorted = .ok x) :
    asList read (Json.array (xs.map write)).sorted = .ok xs := by
  rw [sorted, sortedItems_eq_map, asList, List.map_map]
  induction xs with
  | nil => rfl
  | cons x xs ih =>
    obtain ⟨hx, hxs⟩ := List.forall_mem_cons.mp h
    rw [List.map_cons, List.mapM_cons, Function.comp_apply, hx, ih hxs]
    rfl

end Records

end ClusterAudit.Json
