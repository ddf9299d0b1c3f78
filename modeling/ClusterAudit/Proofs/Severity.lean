-- SUMMARY: The verdict grows with the severity of the outcomes and does not depend on their order.
import ClusterAudit.Proofs.Reports
import Mathlib.Data.List.Forall2

/-!
# Severity

The verdict is drawn from two counts with two limits, so an outcome that gets worse
may lower one count while it raises the other. What never falls is how many outcomes
are at least as bad as a warning, and how many are failures. The exit code is monotone
in these two numbers, and each law of the verdict follows from what an operation on
lists does to them.
-/

namespace ClusterAudit

/-! ## Ranks -/

/-- How bad an outcome of a status is. What only informs is no worse than a pass. -/
def Status.rank : Status → Nat
  | .pass => 0
  | .info => 0
  | .warn => 1
  | .fail => 2

/-- How bad an outcome is. -/
def Outcome.rank (o : Outcome) : Nat := o.status.rank

/-- How many outcomes are at least so bad. -/
def severeCount (rank : Nat) (os : List Outcome) : Nat := os.countP fun o => rank ≤ o.rank

@[simp] theorem severeCount_nil (rank : Nat) : severeCount rank [] = 0 := rfl

@[simp] theorem severeCount_cons (rank : Nat) (o : Outcome) (os : List Outcome) :
    severeCount rank (o :: os) = severeCount rank os + if rank ≤ o.rank then 1 else 0 := by
  simp [severeCount, List.countP_cons]

@[simp] theorem severeCount_append (rank : Nat) (os os' : List Outcome) :
    severeCount rank (os ++ os') = severeCount rank os + severeCount rank os' :=
  List.countP_append

theorem severeCount_le_of_sublist {os os' : List Outcome} (h : os.Sublist os') (rank : Nat) :
    severeCount rank os ≤ severeCount rank os' :=
  h.countP_le

/-- What holds of the items of one list goes over to those of the other, so no fewer are counted. -/
theorem countP_le_of_forall₂ {α β : Type} {p : α → Bool} {q : β → Bool} {as : List α}
    {bs : List β} (h : List.Forall₂ (fun a b => p a = true → q b = true) as bs) :
    as.countP p ≤ bs.countP q := by
  induction h with
  | nil => exact Nat.le_refl 0
  | @cons a b as bs himp _ ih =>
    rw [List.countP_cons, List.countP_cons]
    by_cases ha : p a = true
    · rw [if_pos ha, if_pos (himp ha)]
      exact Nat.succ_le_succ ih
    · rw [if_neg ha]
      exact Nat.le_trans ih (Nat.le_add_right _ _)

/-- Outcomes that are worse one by one are worse in number. -/
theorem severeCount_le_of_forall₂ {os os' : List Outcome}
    (h : List.Forall₂ (fun o o' => o.rank ≤ o'.rank) os os') (rank : Nat) :
    severeCount rank os ≤ severeCount rank os' := by
  refine countP_le_of_forall₂ (h.imp fun o o' hrank => ?_)
  simp only [decide_eq_true_iff]
  exact fun hsevere => Nat.le_trans hsevere hrank

/-! ## Tallies -/

namespace Tally

/-- The sum of two tallies, count by count. -/
instance : Add Tally where
  add t t' :=
    ⟨t.total + t'.total, t.passed + t'.passed, t.failed + t'.failed, t.warned + t'.warned⟩

theorem add_def (t t' : Tally) :
    t + t' =
      ⟨t.total + t'.total, t.passed + t'.passed, t.failed + t'.failed, t.warned + t'.warned⟩ :=
  rfl

/-- A tally whose total is the sum of its counts is known by its counts. -/
theorem IsBalanced.eq_of_countOf {t t' : Tally} (h : t.IsBalanced) (h' : t'.IsBalanced)
    (hcounts : ∀ status, status ≠ .info → t.countOf status = t'.countOf status) : t = t' := by
  obtain ⟨total, passed, failed, warned⟩ := t
  obtain ⟨total', passed', failed', warned'⟩ := t'
  obtain rfl : passed = passed' := hcounts .pass (by decide)
  obtain rfl : failed = failed' := hcounts .fail (by decide)
  obtain rfl : warned = warned' := hcounts .warn (by decide)
  have htotal : total = total' := Eq.trans h h'.symm
  rw [htotal]

/-- The order of the outcomes does not count. -/
theorem ofOutcomes_eq_of_perm {os os' : List Outcome} (h : os.Perm os') :
    ofOutcomes os = ofOutcomes os' := by
  refine (isBalanced_ofOutcomes os).eq_of_countOf (isBalanced_ofOutcomes os') ?_
  intro status hstatus
  rw [countOf_ofOutcomes os hstatus, countOf_ofOutcomes os' hstatus]
  exact h.countP_eq _

theorem ofOutcomes_append (os os' : List Outcome) :
    ofOutcomes (os ++ os') = ofOutcomes os + ofOutcomes os' := by
  have hsum : (ofOutcomes os + ofOutcomes os').IsBalanced := by
    have h := isBalanced_ofOutcomes os
    have h' := isBalanced_ofOutcomes os'
    simp only [IsBalanced, add_def] at h h' ⊢
    omega
  refine (isBalanced_ofOutcomes _).eq_of_countOf hsum fun status hstatus => ?_
  have hadd : (ofOutcomes os + ofOutcomes os').countOf status =
      (ofOutcomes os).countOf status + (ofOutcomes os').countOf status := by
    cases status <;> rfl
  rw [hadd, countOf_ofOutcomes _ hstatus, countOf_ofOutcomes os hstatus,
    countOf_ofOutcomes os' hstatus, List.countP_append]

/-- The failures are the outcomes of the highest rank, and with the warnings those of any. -/
theorem failed_warned_ofOutcomes (os : List Outcome) :
    (ofOutcomes os).failed = severeCount 2 os ∧
      (ofOutcomes os).failed + (ofOutcomes os).warned = severeCount 1 os := by
  induction os with
  | nil => exact ⟨rfl, rfl⟩
  | cons o os ih =>
    have hone : (ofOutcomes [o]).failed = severeCount 2 [o] ∧
        (ofOutcomes [o]).failed + (ofOutcomes [o]).warned = severeCount 1 [o] := by
      obtain ⟨status, _, _⟩ := o
      cases status <;> exact ⟨rfl, rfl⟩
    have htally : ofOutcomes (o :: os) = ofOutcomes [o] + ofOutcomes os := ofOutcomes_append [o] os
    have hcount (rank : Nat) : severeCount rank (o :: os) =
        severeCount rank [o] + severeCount rank os := severeCount_append rank [o] os
    simp only [htally, add_def, hcount]
    omega

end Tally

/-! ## Verdicts -/

namespace Verdict

/-- The exit code depends on the failures, and on the failures together with the warnings. -/
theorem exitCode_ofCounts_le {failed warned failed' warned' : Nat} (hfailed : failed ≤ failed')
    (hsum : failed + warned ≤ failed' + warned') :
    (ofCounts failed warned).exitCode ≤ (ofCounts failed' warned').exitCode := by
  unfold ofCounts warningLimit failureLimit
  split_ifs <;> simp only [exitCode] <;> omega

theorem exitCode_injective : Function.Injective exitCode := by
  intro v v' h
  cases v <;> cases v' <;> simp_all [exitCode]

end Verdict

/-- The verdict on recorded outcomes. -/
def verdictOn (os : List Outcome) : Verdict := (Tally.ofOutcomes os).verdict

/-- No fewer outcomes of each rank that counts give no lower exit code. -/
theorem exitCode_verdictOn_le {os os' : List Outcome}
    (h : ∀ rank, 0 < rank → severeCount rank os ≤ severeCount rank os') :
    (verdictOn os).exitCode ≤ (verdictOn os').exitCode := by
  obtain ⟨hfailed, hsum⟩ := Tally.failed_warned_ofOutcomes os
  obtain ⟨hfailed', hsum'⟩ := Tally.failed_warned_ofOutcomes os'
  refine Verdict.exitCode_ofCounts_le ?_ ?_
  · rw [hfailed, hfailed']
    exact h 2 (by decide)
  · rw [hsum, hsum']
    exact h 1 (by decide)

/-- An outcome that is no worse than a pass does not change the verdict, wherever it stands. -/
theorem verdictOn_insert {o : Outcome} (h : o.rank = 0) (before after : List Outcome) :
    verdictOn (before ++ o :: after) = verdictOn (before ++ after) := by
  have hcount (rank : Nat) (hrank : 0 < rank) :
      severeCount rank (before ++ o :: after) = severeCount rank (before ++ after) := by
    rw [severeCount_append, severeCount_append, severeCount_cons, if_neg (by omega), Nat.add_zero]
  refine Verdict.exitCode_injective (Nat.le_antisymm ?_ ?_)
  · exact exitCode_verdictOn_le fun rank hrank => Nat.le_of_eq (hcount rank hrank)
  · exact exitCode_verdictOn_le fun rank hrank => Nat.le_of_eq (hcount rank hrank).symm

/-- The verdict is monotone in severity, blind to order and to what is no worse than a pass, and
drawn from a tally that adds up over the parts of a run. -/
theorem verdict_follows_severity (os os' shuffled before after : List Outcome) (o : Outcome) :
    (List.Forall₂ (fun o o' => o.rank ≤ o'.rank) os os' →
      (verdictOn os).exitCode ≤ (verdictOn os').exitCode) ∧
    (verdictOn (before ++ after)).exitCode ≤ (verdictOn (before ++ o :: after)).exitCode ∧
    (o.rank = 0 → verdictOn (before ++ o :: after) = verdictOn (before ++ after)) ∧
    (os.Perm shuffled →
      Tally.ofOutcomes os = Tally.ofOutcomes shuffled ∧ verdictOn os = verdictOn shuffled) ∧
    Tally.ofOutcomes (os ++ os') = Tally.ofOutcomes os + Tally.ofOutcomes os' := by
  refine ⟨fun h => ?_, ?_, fun h => ?_, fun h => ?_, Tally.ofOutcomes_append os os'⟩
  · exact exitCode_verdictOn_le fun rank _ => severeCount_le_of_forall₂ h rank
  · have hsublist : (before ++ after).Sublist (before ++ o :: after) :=
      (List.sublist_cons_self o after).append_left before
    exact exitCode_verdictOn_le fun rank _ => severeCount_le_of_sublist hsublist rank
  · exact verdictOn_insert h before after
  · have htally := Tally.ofOutcomes_eq_of_perm h
    exact ⟨htally, congrArg Tally.verdict htally⟩

/-- Three warnings that become failures take a run from healthy to critical. -/
theorem verdict_follows_severity_escalated :
    let mild := [Outcome.warn "a", .pass "b", .warn "c", .info "d", .warn "e"]
    let grave := [Outcome.fail "a", .warn "b", .fail "c", .info "d", .fail "e"]
    let shuffled := [Outcome.warn "e", .warn "a", .pass "b", .warn "c", .info "d"]
    List.Forall₂ (fun o o' => o.rank ≤ o'.rank) mild grave ∧
    (verdictOn mild).exitCode ≤ (verdictOn grave).exitCode ∧
    (verdictOn mild).exitCode = 0 ∧ (verdictOn grave).exitCode = 2 ∧
    (Outcome.info "f").rank = 0 ∧
    verdictOn (mild ++ .info "f" :: grave) = verdictOn (mild ++ grave) ∧
    mild.Perm shuffled ∧ verdictOn mild = verdictOn shuffled := by
  intro mild grave shuffled
  have hworse : List.Forall₂ (fun o o' => o.rank ≤ o'.rank) mild grave := by
    simp [mild, grave, Outcome.rank, Status.rank, Outcome.warn, Outcome.pass, Outcome.info,
      Outcome.fail]
  have hshuffled : mild.Perm shuffled := by decide
  obtain ⟨hle, -, hinsert, hperm, -⟩ :=
    verdict_follows_severity mild grave shuffled mild grave (.info "f")
  exact ⟨hworse, hle hworse, rfl, rfl, rfl, hinsert rfl, hshuffled, (hperm hshuffled).2⟩

end ClusterAudit
