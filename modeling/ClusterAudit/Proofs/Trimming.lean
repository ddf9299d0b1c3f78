-- SUMMARY: What is dropped from the ends of a text, and what is left of it.
import ClusterAudit.Proofs.Scanning
import ClusterAudit.Text.Blank

/-!
# Trimming

What is dropped from an end of a text is a stretch of characters of one kind, and what is left
does not end in this kind. This says already which part of the text is left.
-/

namespace ClusterAudit.Text

variable {p : Char → Bool} {cs part : List Char}

/-! ## The end of a text -/

theorem exists_dropEndWhile_append (p : Char → Bool) (cs : List Char) :
    ∃ tail, cs = dropEndWhile p cs ++ tail ∧ ∀ c ∈ tail, p c = true := by
  refine ⟨(cs.reverse.takeWhile p).reverse, ?_, fun c hc => ?_⟩
  · rw [dropEndWhile, ← List.reverse_append, List.takeWhile_append_dropWhile, List.reverse_reverse]
  · exact List.mem_takeWhile_imp (List.mem_reverse.mp hc)

theorem stops_dropWhile (p : Char → Bool) (cs : List Char) : Stops p (cs.dropWhile p) := by
  intro c hc
  have hhead := List.head?_dropWhile_not p cs
  rw [hc] at hhead
  exact hhead

/-- What is left of a text is the part before its last stretch of such characters. -/
theorem dropEndWhile_eq_iff :
    dropEndWhile p cs = part ↔
      (∃ tail, cs = part ++ tail ∧ ∀ c ∈ tail, p c = true) ∧ ∀ c ∈ part.getLast?, p c = false := by
  constructor
  · rintro rfl
    refine ⟨exists_dropEndWhile_append p cs, fun c hc => ?_⟩
    rw [dropEndWhile, List.getLast?_reverse] at hc
    exact stops_dropWhile p cs.reverse c hc
  · rintro ⟨⟨tail, rfl, htail⟩, hlast⟩
    have hstops : Stops p part.reverse := fun c hc => hlast c (by rwa [List.head?_reverse] at hc)
    have hnone : tail.reverse.dropWhile p = [] :=
      List.dropWhile_eq_nil_iff.mpr fun c hc => htail c (List.mem_reverse.mp hc)
    rw [dropEndWhile, List.reverse_append, dropWhile_append_of_stops _ hstops, hnone,
      List.nil_append, List.reverse_reverse]

theorem dropEndWhile_idem (p : Char → Bool) (cs : List Char) :
    dropEndWhile p (dropEndWhile p cs) = dropEndWhile p cs :=
  dropEndWhile_eq_iff.mpr
    ⟨⟨[], (List.append_nil _).symm, List.forall_mem_nil _⟩, (dropEndWhile_eq_iff.mp rfl).2⟩

/-! ## Both ends -/

/-- The part of the text without the characters of a kind around it. -/
structure IsStripped (p : Char → Bool) (text part : List Char) : Prop where
  split : ∃ front back, text = front ++ (part ++ back) ∧ ∀ c ∈ front ++ back, p c = true
  head : ∀ c ∈ part.head?, p c = false
  last : ∀ c ∈ part.getLast?, p c = false

theorem strip_eq_iff {text : List Char} :
    dropEndWhile p (text.dropWhile p) = part ↔ IsStripped p text part := by
  constructor
  · intro h
    obtain ⟨⟨back, hback, hkind⟩, hlast⟩ := dropEndWhile_eq_iff.mp h
    have hfront : ∀ c ∈ text.takeWhile p, p c = true := fun _ => List.mem_takeWhile_imp
    have hsplit : text = text.takeWhile p ++ (part ++ back) := by
      rw [← hback, List.takeWhile_append_dropWhile]
    have hhead : Stops p part :=
      Stops.of_prefix (stops_dropWhile p text) ⟨back, hback.symm⟩
    refine ⟨⟨_, back, hsplit, ?_⟩, hhead, hlast⟩
    exact fun c hc => (List.mem_append.mp hc).elim (hfront c) (hkind c)
  · rintro ⟨⟨front, back, rfl, hkind⟩, hhead, hlast⟩
    have hfront : front.dropWhile p = [] :=
      List.dropWhile_eq_nil_iff.mpr fun c hc => hkind c (List.mem_append_left _ hc)
    have hback : ∀ c ∈ back, p c = true := fun c hc => hkind c (List.mem_append_right _ hc)
    rw [dropEndWhile_eq_iff]
    refine ⟨?_, hlast⟩
    cases part with
    | nil =>
      refine ⟨[], ?_, List.forall_mem_nil _⟩
      exact List.dropWhile_eq_nil_iff.mpr hkind
    | cons d part =>
      have hstops : Stops p (d :: part ++ back) := hhead
      refine ⟨back, ?_, hback⟩
      rw [dropWhile_append_of_stops _ hstops, hfront, List.nil_append]

/-! ## Blanks -/

/-- The part of the text without the blanks around it. -/
structure IsTrimmed (text part : List Char) : Prop where
  split : ∃ front back, text = front ++ (part ++ back) ∧ ∀ c ∈ front ++ back, isBlank c = true
  head : ∀ c ∈ part.head?, isBlank c = false
  last : ∀ c ∈ part.getLast?, isBlank c = false

theorem trim_eq_iff {text : List Char} : trim text = part ↔ IsTrimmed text part := by
  rw [trim, trimStart, strip_eq_iff]
  exact ⟨fun h => ⟨h.split, h.head, h.last⟩, fun h => ⟨h.split, h.head, h.last⟩⟩

/-- Something is left of a text that holds more than blanks. -/
theorem trim_ne_nil {text : List Char} (h : ∃ c ∈ text, isBlank c = false) : trim text ≠ [] := by
  intro hnil
  obtain ⟨⟨front, back, hsplit, hblank⟩, -⟩ := trim_eq_iff.mp hnil
  obtain ⟨c, hc, hvisible⟩ := h
  rw [hsplit, List.nil_append] at hc
  rw [hblank c hc] at hvisible
  cases hvisible

end ClusterAudit.Text
