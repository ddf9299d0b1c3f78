-- SUMMARY: What the scan for error states tells: how many pods, how bad, and which come first.
import ClusterAudit.Proofs.ErrorStates
import ClusterAudit.Proofs.Severity

/-!
# The report of the scan

Status and message of the scan depend on the pods only through the number of those in an error
state, and its lines are about the first of these, as many as there is room for. So the order of
the pods matters for the lines alone, the other pods do not matter at all, and no pod that comes
in addition makes the scan look better.
-/

namespace ClusterAudit

/-! ## Items that are kept -/

/-- The item at a place among those that are kept is one with so many of them in front. -/
theorem getElem?_filter_eq_some_iff {α : Type} {p : α → Bool} {items : List α} {place : Nat}
    {a : α} :
    (items.filter p)[place]? = some a ↔
      ∃ before after, items = before ++ a :: after ∧ before.countP p = place ∧ p a = true := by
  constructor
  · intro h
    obtain ⟨hlt, hget⟩ := List.getElem?_eq_some_iff.mp h
    have hsplit : items.filter p =
        (items.filter p).take place ++ a :: (items.filter p).drop (place + 1) := by
      rw [← hget, ← List.drop_eq_getElem_cons hlt, List.take_append_drop]
    obtain ⟨before, rest, rfl, hbefore, hrest⟩ := List.filter_eq_append_iff.mp hsplit
    obtain ⟨skipped, after, rfl, hskipped, ha, -⟩ := List.filter_eq_cons_iff.mp hrest
    refine ⟨before ++ skipped, after, by simp, ?_, ha⟩
    have hnone : skipped.countP p = 0 := List.countP_eq_zero.mpr hskipped
    rw [List.countP_append, hnone, List.countP_eq_length_filter, hbefore, List.length_take]
    omega
  · rintro ⟨before, after, rfl, rfl, ha⟩
    rw [List.filter_append, List.filter_cons_of_pos ha, List.countP_eq_length_filter,
      List.getElem?_append_right (Nat.le_refl _), Nat.sub_self]
    rfl

/-! ## Pods in an error state -/

/-- How many pods are in an error state. -/
def brokenCount (pods : List Pod) : Nat := pods.countP Pod.isBroken

/-- The line that tells of a pod with its display status. -/
def Pod.lineWith (p : Pod) (text : String) : String :=
  p.metadata.shownNs ++ "/" ++ p.metadata.shownName ++ ": " ++ text

/-- The line tells of the pod in an error state that has so many of them in front. -/
def IsErrorLine (pods : List Pod) (place : Nat) (line : String) : Prop :=
  ∃ before p after text, pods = before ++ p :: after ∧ brokenCount before = place ∧
    p.Displays text ∧ MarksError text ∧ line = p.lineWith text

theorem Pod.isBroken_iff_displays {p : Pod} :
    p.isBroken = true ↔ ∃ text, p.Displays text ∧ MarksError text := by
  rw [Pod.isBroken, isErrorState_iff]
  constructor
  · exact fun h => ⟨p.display, Pod.display_eq_iff.mp rfl, h⟩
  · rintro ⟨text, hdisplays, hmarks⟩
    rwa [Pod.display_eq_iff.mpr hdisplays]

theorem isErrorLine_iff {pods : List Pod} {place : Nat} {line : String} :
    IsErrorLine pods place line ↔
      ∃ p, (pods.filter Pod.isBroken)[place]? = some p ∧ line = p.lineWith p.display := by
  simp only [getElem?_filter_eq_some_iff]
  constructor
  · rintro ⟨before, p, after, text, hpods, hplace, hdisplays, hmarks, rfl⟩
    have hbroken := Pod.isBroken_iff_displays.mpr ⟨text, hdisplays, hmarks⟩
    rw [← Pod.display_eq_iff.mpr hdisplays]
    exact ⟨p, ⟨before, after, hpods, hplace, hbroken⟩, rfl⟩
  · rintro ⟨p, ⟨before, after, hpods, hplace, hbroken⟩, rfl⟩
    exact ⟨before, p, after, p.display, hpods, hplace, Pod.display_eq_iff.mp rfl,
      isErrorState_iff.mp hbroken, rfl⟩

namespace Check

/-! ## The parts of the outcome -/

theorem judgeErrorStates_eq (pods : List Pod) :
    judgeErrorStates pods =
      { status :=
          if brokenCount pods = 0 then .pass else if brokenCount pods < 10 then .warn else .fail
        message :=
          if brokenCount pods = 0 then "No pods in error states"
          else toString (brokenCount pods) ++ " pods in error states"
        details :=
          ((pods.filter Pod.isBroken).take detailLimit).map fun p => p.lineWith p.display } := by
  have hcount : (pods.filter Pod.isBroken).length = brokenCount pods :=
    List.countP_eq_length_filter.symm
  simp only [judgeErrorStates, hcount, brokenLimit]
  by_cases hnone : brokenCount pods = 0
  · have hempty : pods.filter Pod.isBroken = [] := List.length_eq_zero_iff.mp (hcount.trans hnone)
    simp only [if_pos hnone, hempty]
    rfl
  · by_cases hfew : brokenCount pods < 10
    · simp only [if_neg hnone, if_pos hfew]
      rfl
    · simp only [if_neg hnone, if_neg hfew]
      rfl

/-- Status and message go by the number of pods in an error state. -/
theorem judgeErrorStates_congr {pods pods' : List Pod} (h : brokenCount pods' = brokenCount pods) :
    (judgeErrorStates pods').status = (judgeErrorStates pods).status ∧
      (judgeErrorStates pods').message = (judgeErrorStates pods).message := by
  simp only [judgeErrorStates_eq, h, and_self]

/-- More pods in an error state do not look better. -/
theorem rank_judgeErrorStates_le {pods pods' : List Pod}
    (h : brokenCount pods ≤ brokenCount pods') :
    (judgeErrorStates pods).rank ≤ (judgeErrorStates pods').rank := by
  simp only [Outcome.rank, judgeErrorStates_eq]
  by_cases hnone : brokenCount pods = 0
  · rw [if_pos hnone]
    exact Nat.zero_le _
  · rw [if_neg hnone, if_neg (show brokenCount pods' ≠ 0 by omega)]
    by_cases hfew : brokenCount pods < 10
    · rw [if_pos hfew]
      split <;> decide
    · have hmany : ¬brokenCount pods' < 10 := by omega
      exact Nat.le_of_eq (by rw [if_neg hfew, if_neg hmany])

/-! ## The report -/

/-- What the scan tells of some pods. -/
structure ReportsErrors (pods : List Pod) (o : Outcome) : Prop where
  pass_iff : o.status = .pass ↔ brokenCount pods = 0
  warn_iff : o.status = .warn ↔ 1 ≤ brokenCount pods ∧ brokenCount pods ≤ 9
  fail_iff : o.status = .fail ↔ 10 ≤ brokenCount pods
  message_eq : 1 ≤ brokenCount pods →
    o.message = toString (brokenCount pods) ++ " pods in error states"
  length_details : o.details.length = min (brokenCount pods) 5
  /-- The lines are about the first pods in an error state, in their order. -/
  getElem_details : ∀ place line,
    o.details[place]? = some line ↔ place < 5 ∧ IsErrorLine pods place line

theorem reportsErrors_judgeErrorStates (pods : List Pod) :
    ReportsErrors pods (judgeErrorStates pods) where
  pass_iff := by
    rw [judgeErrorStates_eq]
    split
    · simp [*]
    · split <;> simp [*]
  warn_iff := by
    rw [judgeErrorStates_eq]
    split
    · simp [*]
    · split <;> simp <;> omega
  fail_iff := by
    rw [judgeErrorStates_eq]
    split
    · simp [*]
    · split <;> simp <;> omega
  message_eq hsome := by
    rw [judgeErrorStates_eq]
    exact if_neg (Nat.one_le_iff_ne_zero.mp hsome)
  length_details := by
    rw [judgeErrorStates_eq, List.length_map, List.length_take, brokenCount,
      List.countP_eq_length_filter, Nat.min_comm]
    rfl
  getElem_details place line := by
    rw [judgeErrorStates_eq, List.getElem?_map, List.getElem?_take, isErrorLine_iff]
    by_cases hplace : place < 5
    · rw [detailLimit, if_pos hplace, Option.map_eq_some_iff]
      simp only [hplace, true_and, @eq_comm _ line]
    · simp [detailLimit, hplace]

/-- The scan tells how many pods are in an error state, by a status with two limits and by its
message, and which come first. The order of the pods does not change status and message, pods that
are in no error state change nothing, and more pods do not make it look better. -/
theorem scan_is_graded_by_count (pods : List Pod) :
    ReportsErrors pods (judgeErrorStates pods) ∧
    (∀ pods', pods.Perm pods' →
      (judgeErrorStates pods').status = (judgeErrorStates pods).status ∧
        (judgeErrorStates pods').message = (judgeErrorStates pods).message) ∧
    (∀ pods', Gains (fun p => p.isBroken = false) pods pods' ∨
        Gains (fun p => p.isBroken = false) pods' pods →
      judgeErrorStates pods' = judgeErrorStates pods) ∧
    ∀ more, (judgeErrorStates pods).rank ≤ (judgeErrorStates (pods ++ more)).rank := by
  refine ⟨reportsErrors_judgeErrorStates pods, ?_, ?_, ?_⟩
  · intro pods' hperm
    exact judgeErrorStates_congr (hperm.countP_eq _).symm
  · intro pods' hgains
    have hfilter : pods'.filter Pod.isBroken = pods.filter Pod.isBroken := by
      rcases hgains with hgains | hgains
      · exact hgains.filter_eq fun _ hfine => hfine
      · exact (hgains.filter_eq fun _ hfine => hfine).symm
    simp only [judgeErrorStates, hfilter]
  · intro more
    refine rank_judgeErrorStates_le ?_
    rw [brokenCount, brokenCount, List.countP_append]
    exact Nat.le_add_right _ _

/-- Six pods that cannot be pulled behind one that runs: turned around, and with another pod that
runs between them. -/
theorem scan_is_graded_by_count_pulling :
    let running : Pod := { status := some { phase := some "Running" } }
    let pulling : Pod :=
      { metadata := { name := some "web", ns := some "shop" }
        status := some { reason := some "ImagePullBackOff" } }
    let pods := running :: List.replicate 6 pulling
    let pods' := pulling :: running :: List.replicate 5 pulling
    pods.Perm pods.reverse ∧ Gains (fun p => p.isBroken = false) pods' (running :: pods') ∧
      (judgeErrorStates pods.reverse).status = .warn ∧
      (judgeErrorStates pods.reverse).message = "6 pods in error states" ∧
      judgeErrorStates (running :: pods') = judgeErrorStates pods' ∧
      (judgeErrorStates pods).details =
        List.replicate 5 "shop/web: ImagePullBackOff" := by
  intro running pulling pods pods'
  have hrunning : running.isBroken = false := by decide
  have hgains : Gains (fun p => p.isBroken = false) pods' (running :: pods') :=
    .gain hrunning (.refl _ _)
  have hperm : pods.Perm pods.reverse := pods.reverse_perm.symm
  obtain ⟨hstatus, hmessage⟩ := (scan_is_graded_by_count pods).2.1 _ hperm
  have hsame := (scan_is_graded_by_count pods').2.2.1 _ (.inl hgains)
  exact ⟨hperm, hgains, hstatus.trans (by decide), hmessage.trans (by decide), hsame, by decide⟩

end Check

end ClusterAudit
