-- SUMMARY: The share of passed outcomes is a percentage, and how it moves with one more outcome.
import ClusterAudit.Number.Power
import ClusterAudit.Proofs.Severity

/-!
# The success rate

The rate is a quotient, rounded down, of a product that has to fit into a word of 64 bits. What it
says of a tally is told here by two inequalities between products of the counts, so that the rates
before and after one more outcome can be compared although their divisors differ. Both need that a
tally adds up. The product fits for exactly so many passed outcomes: behind this limit a tally has
no rate that could be wrong.
-/

namespace ClusterAudit

namespace Tally

variable {t : Tally} {rate rate' : Nat} {o : Outcome}

/-! ## Percentages -/

/-- A hundredfold of so many outcomes still fits into a word of 64 bits. -/
def rateLimit : Nat := (2 ^ 64 - 1) / 100

/-- The share of the passed outcomes in percent, rounded down. -/
structure IsPercentage (t : Tally) (rate : Nat) : Prop where
  le_share : rate * t.total ≤ 100 * t.passed
  share_lt : 100 * t.passed < (rate + 1) * t.total

theorem hundredfold_lt_iff : t.passed * 100 < 2 ^ 64 ↔ t.passed ≤ rateLimit := by
  unfold rateLimit
  omega

theorem successRate_of_le (hlimit : t.passed ≤ rateLimit) :
    t.successRate = .ok (if 0 < t.total then some (t.passed * 100 / t.total) else none) := by
  unfold successRate wordProduct
  rw [if_pos (hundredfold_lt_iff.mpr hlimit)]
  split <;> rfl

/-- Behind the limit, no rate is calculated at all. -/
theorem successRate_of_lt (hlimit : rateLimit < t.passed) (htotal : 0 < t.total) :
    t.successRate = .error .product := by
  have hlarge : ¬t.passed * 100 < 2 ^ 64 := fun h =>
    Nat.not_le.mpr hlimit (hundredfold_lt_iff.mp h)
  unfold successRate wordProduct
  rw [if_pos htotal, if_neg hlarge]
  rfl

theorem isPercentage_div (htotal : 0 < t.total) :
    t.IsPercentage (t.passed * 100 / t.total) where
  le_share := by
    rw [Nat.mul_comm 100]
    exact Nat.div_mul_le_self _ _
  share_lt := by
    rw [Nat.mul_comm 100, Nat.mul_comm (_ + 1)]
    exact Nat.lt_mul_div_succ _ htotal

/-- Up to the limit, a rate is shown if anything was counted, and it is the percentage. -/
theorem exists_successRate (hlimit : t.passed ≤ rateLimit) (htotal : 0 < t.total) :
    ∃ rate, t.successRate = .ok (some rate) ∧ t.IsPercentage rate := by
  refine ⟨_, ?_, isPercentage_div htotal⟩
  rw [successRate_of_le hlimit, if_pos htotal]

theorem isPercentage_of_successRate (hlimit : t.passed ≤ rateLimit)
    (h : t.successRate = .ok (some rate)) : 0 < t.total ∧ t.IsPercentage rate := by
  have htotal : 0 < t.total := by
    refine Nat.pos_of_ne_zero fun hnone => ?_
    simp [successRate_of_le hlimit, hnone] at h
  obtain ⟨_, hrate, hpercentage⟩ := exists_successRate hlimit htotal
  obtain rfl := Option.some.inj (Except.ok.inj (hrate.symm.trans h))
  exact ⟨htotal, hpercentage⟩

namespace IsPercentage

theorem le_hundred (h : t.IsPercentage rate) (htotal : 0 < t.total) (hpassed : t.passed ≤ t.total) :
    rate ≤ 100 := by
  refine Nat.le_of_mul_le_mul_right (c := t.total) ?_ htotal
  calc rate * t.total ≤ 100 * t.passed := h.le_share
    _ ≤ 100 * t.total := Nat.mul_le_mul_left 100 hpassed

/-- All of a hundred percent is reached only if everything has passed. -/
theorem eq_hundred_iff (h : t.IsPercentage rate) (htotal : 0 < t.total)
    (hpassed : t.passed ≤ t.total) : rate = 100 ↔ t.passed = t.total := by
  constructor
  · rintro rfl
    have hshare := h.le_share
    omega
  · intro hall
    have hshare := h.share_lt
    rw [hall] at hshare
    have hlow : 100 < rate + 1 := Nat.lt_of_mul_lt_mul_right hshare
    have hhigh := h.le_hundred htotal hpassed
    omega

/-- One more outcome that passed does not lower the percentage. -/
theorem le_of_pass {t' : Tally} (h : t.IsPercentage rate) (h' : t'.IsPercentage rate')
    (hrate : rate ≤ 100) (htotal : t'.total = t.total + 1) (hpassed : t'.passed = t.passed + 1) :
    rate ≤ rate' := by
  have hless : rate * (t.total + 1) < (rate' + 1) * (t.total + 1) := by
    calc rate * (t.total + 1) = rate * t.total + rate := Nat.mul_succ _ _
      _ ≤ 100 * t.passed + 100 := Nat.add_le_add h.le_share hrate
      _ = 100 * t'.passed := by rw [hpassed, Nat.mul_succ]
      _ < (rate' + 1) * (t.total + 1) := htotal ▸ h'.share_lt
  exact Nat.le_of_lt_succ (Nat.lt_of_mul_lt_mul_right hless)

/-- One more outcome that did not pass does not raise the percentage. -/
theorem le_of_not_pass {t' : Tally} (h : t.IsPercentage rate) (h' : t'.IsPercentage rate')
    (htotal : t'.total = t.total + 1) (hpassed : t'.passed = t.passed) : rate' ≤ rate := by
  have hless : rate' * (t.total + 1) < (rate + 1) * (t.total + 1) := by
    calc rate' * (t.total + 1) ≤ 100 * t'.passed := htotal ▸ h'.le_share
      _ = 100 * t.passed := by rw [hpassed]
      _ < (rate + 1) * t.total := h.share_lt
      _ ≤ (rate + 1) * (t.total + 1) := Nat.mul_le_mul_left _ (Nat.le_succ _)
  exact Nat.le_of_lt_succ (Nat.lt_of_mul_lt_mul_right hless)

end IsPercentage

/-! ## Rates of recorded outcomes -/

theorem IsBalanced.passed_le (h : t.IsBalanced) : t.passed ≤ t.total := by
  unfold IsBalanced at h
  omega

theorem counts_record_of_pass (ho : o.status = .pass) :
    (t.record o).total = t.total + 1 ∧ (t.record o).passed = t.passed + 1 := by
  simp only [record, recordStatus, ho, and_self]

theorem counts_record_of_not_pass (ho : o.status = .fail ∨ o.status = .warn) :
    (t.record o).total = t.total + 1 ∧ (t.record o).passed = t.passed := by
  obtain ho | ho := ho <;> simp only [record, recordStatus, ho, and_self]

/-- A rate that is sound for a tally. -/
structure IsSoundRate (t : Tally) (rate : Nat) : Prop where
  percentage : t.IsPercentage rate
  le_hundred : rate ≤ 100
  eq_hundred_iff : rate = 100 ↔ t.failed = 0 ∧ t.warned = 0

/-- How the rate of a tally moves with one more outcome. -/
structure MovesRate (t : Tally) (rate : Nat) : Prop where
  /-- There is no rate to compare with if the tally has come to the limit and all have passed. -/
  pass : ∀ o : Outcome, o.status = .pass →
    (∃ rate', (t.record o).successRate = .ok (some rate') ∧ rate ≤ rate') ∨
      t.passed = rateLimit ∧ (t.record o).successRate = .error .product
  fail_or_warn : ∀ o : Outcome, o.status = .fail ∨ o.status = .warn →
    ∃ rate', (t.record o).successRate = .ok (some rate') ∧ rate' ≤ rate
  info : ∀ o : Outcome, o.status = .info → (t.record o).successRate = .ok (some rate)

theorem isSoundRate_of_successRate (hbalanced : t.IsBalanced) (hlimit : t.passed ≤ rateLimit)
    (h : t.successRate = .ok (some rate)) : t.IsSoundRate rate := by
  obtain ⟨htotal, hpercentage⟩ := isPercentage_of_successRate hlimit h
  have hpassed := hbalanced.passed_le
  refine ⟨hpercentage, hpercentage.le_hundred htotal hpassed, ?_⟩
  rw [hpercentage.eq_hundred_iff htotal hpassed]
  unfold IsBalanced at hbalanced
  omega

theorem movesRate_of_successRate (hbalanced : t.IsBalanced) (hlimit : t.passed ≤ rateLimit)
    (h : t.successRate = .ok (some rate)) : t.MovesRate rate := by
  obtain ⟨htotal, hpercentage⟩ := isPercentage_of_successRate hlimit h
  have hrate := hpercentage.le_hundred htotal hbalanced.passed_le
  refine ⟨fun o ho => ?_, fun o ho => ?_, fun o ho => ?_⟩
  · obtain ⟨hmore, hpassed⟩ := counts_record_of_pass ho (t := t)
    obtain hend | hbelow := Nat.eq_or_lt_of_le hlimit
    · exact .inr ⟨hend, successRate_of_lt (by omega) (by omega)⟩
    · obtain ⟨rate', hrate', hpercentage'⟩ :=
        @exists_successRate (t.record o) (by omega) (by omega)
      exact .inl ⟨rate', hrate', hpercentage.le_of_pass hpercentage' hrate hmore hpassed⟩
  · obtain ⟨hmore, hpassed⟩ := counts_record_of_not_pass ho (t := t)
    obtain ⟨rate', hrate', hpercentage'⟩ := @exists_successRate (t.record o) (by omega) (by omega)
    exact ⟨rate', hrate', hpercentage.le_of_not_pass hpercentage' hmore hpassed⟩
  · simpa only [record, recordStatus, ho] using h

theorem ofOutcomes_cons (o : Outcome) (os : List Outcome) :
    ofOutcomes (o :: os) = ofOutcomes [o] + ofOutcomes os :=
  ofOutcomes_append [o] os

/-- The total of a tally is how many of its outcomes count. -/
theorem total_ofOutcomes (os : List Outcome) :
    (ofOutcomes os).total = os.countP Outcome.isCounted := by
  induction os with
  | nil => rfl
  | cons o os ih =>
    have hone : (ofOutcomes [o]).total = if o.isCounted then 1 else 0 := by
      obtain ⟨status, _, _⟩ := o
      cases status <;> rfl
    rw [ofOutcomes_cons, List.countP_cons, ← ih, ← hone, Nat.add_comm]
    rfl

/-- Of recorded outcomes, so few that a hundredfold of them fits into a word, the rate is always
calculated, and there is one if any of them counts. It is the percentage of those that passed,
rounded down, and reaches a hundred if nothing failed and nothing warned. One more outcome moves it
the right way. -/
theorem rate_is_sound_percentage (os : List Outcome) (hlimit : (ofOutcomes os).total ≤ rateLimit) :
    ∃ rate?, (ofOutcomes os).successRate = .ok rate? ∧
      (rate? = none ↔ ∀ o ∈ os, o.isCounted = false) ∧
      ∀ rate, rate? = some rate →
        (ofOutcomes os).IsSoundRate rate ∧ (ofOutcomes os).MovesRate rate := by
  have hbalanced := isBalanced_ofOutcomes os
  have hpassed : (ofOutcomes os).passed ≤ rateLimit := Nat.le_trans hbalanced.passed_le hlimit
  have hcalculated := successRate_of_le hpassed
  refine ⟨_, hcalculated, ?_, fun rate hrate => ?_⟩
  · have hnothing : (ofOutcomes os).total = 0 ↔ ∀ o ∈ os, o.isCounted = false := by
      rw [total_ofOutcomes, List.countP_eq_zero]
      simp only [Bool.not_eq_true]
    rw [← hnothing, ite_eq_right_iff]
    simp only [reduceCtorEq, imp_false, Nat.not_lt, Nat.le_zero]
  · rw [hrate] at hcalculated
    exact ⟨isSoundRate_of_successRate hbalanced hpassed hcalculated,
      movesRate_of_successRate hbalanced hpassed hcalculated⟩

/-- Two of three outcomes that count have passed: one more of each kind. -/
theorem rate_is_sound_percentage_two_of_three :
    let os : List Outcome := [.pass "a", .info "b", .warn "c", .pass "d"]
    (ofOutcomes os).total ≤ rateLimit ∧ (ofOutcomes os).IsSoundRate 66 ∧
    (∃ rate, ((ofOutcomes os).record (.pass "e")).successRate = .ok (some rate) ∧ 66 ≤ rate) ∧
    (∃ rate, ((ofOutcomes os).record (.fail "e")).successRate = .ok (some rate) ∧ rate ≤ 66) ∧
    ((ofOutcomes os).record (.info "e")).successRate = .ok (some 66) := by
  intro os
  have hlimit : (ofOutcomes os).total ≤ rateLimit := by decide
  obtain ⟨rate?, hcalculated, -, hrate⟩ := rate_is_sound_percentage os hlimit
  have hrate? : rate? = some 66 := by
    have hsame := hcalculated.symm.trans (successRate_of_le (t := ofOutcomes os) (by decide))
    exact (Except.ok.inj hsame).trans (by decide)
  obtain ⟨hsound, hmoves⟩ := hrate 66 hrate?
  have hpass := (hmoves.pass (.pass "e") rfl).resolve_right fun hend => absurd hend.1 (by decide)
  exact ⟨hlimit, hsound, hpass, hmoves.fail_or_warn _ (.inl rfl), hmoves.info _ rfl⟩

end Tally

end ClusterAudit
