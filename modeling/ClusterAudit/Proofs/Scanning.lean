-- SUMMARY: Reading up to a character at which reading stops, and reading digits.
import ClusterAudit.Text.Digit
import Mathlib.Data.List.TakeWhile
import Mathlib.Tactic.Common

/-!
# Scanning

A reader takes characters as long as they are of a kind. If the text after them starts
with a character of another kind, exactly they are taken. Digits that are taken stand for
`Nat.ofDigitChars`, of which the bounds are collected here.
-/

namespace ClusterAudit

/-- If two steps succeed one after the other, both do. -/
theorem exists_of_bind_eq_ok {ε α β : Type} {x : Except ε α} {f : α → Except ε β} {result : β}
    (h : (x >>= f) = .ok result) : ∃ value, x = .ok value ∧ f value = .ok result := by
  cases x with
  | error fault => cases h
  | ok value => exact ⟨value, rfl, h⟩

namespace Text

/-! ## Taking characters -/

section Taking

variable {p : Char → Bool} {front rest : List Char}

/-- The first character of a text, if there is one, does not satisfy `p`. -/
def Stops (p : Char → Bool) (rest : List Char) : Prop := ∀ c ∈ rest.head?, p c = false

theorem stops_nil : Stops p [] := fun _ hc => nomatch hc

theorem stops_cons {c : Char} (hc : p c = false) (rest : List Char) : Stops p (c :: rest) := by
  intro d hd
  rwa [← Option.some.inj hd]

theorem Stops.takeWhile_eq_nil (h : Stops p rest) : rest.takeWhile p = [] := by
  cases rest with
  | nil => rfl
  | cons c rest => rw [List.takeWhile_cons, h c rfl]; rfl

theorem Stops.dropWhile_eq_self (h : Stops p rest) : rest.dropWhile p = rest := by
  cases rest with
  | nil => rfl
  | cons c rest => rw [List.dropWhile_cons, h c rfl]; rfl

theorem Stops.of_prefix (h : Stops p rest) (hfront : front <+: rest) : Stops p front := by
  obtain ⟨tail, rfl⟩ := hfront
  cases front with
  | nil => exact stops_nil
  | cons d front => exact h

/-- What is taken ends before a text at which it stops. -/
theorem takeWhile_append_of_stops (front : List Char) (h : Stops p rest) :
    (front ++ rest).takeWhile p = front.takeWhile p := by
  induction front with
  | nil => exact h.takeWhile_eq_nil
  | cons c front ih =>
    rw [List.cons_append, List.takeWhile_cons, List.takeWhile_cons, ih]

/-- What is left has the text at its end. -/
theorem dropWhile_append_of_stops (front : List Char) (h : Stops p rest) :
    (front ++ rest).dropWhile p = front.dropWhile p ++ rest := by
  induction front with
  | nil => exact h.dropWhile_eq_self
  | cons c front ih =>
    rw [List.cons_append, List.dropWhile_cons, List.dropWhile_cons, ih]
    split <;> rfl

end Taking

/-! ## Digits -/

section Digits

variable {ds : List Char} {value : Nat}

theorem toList_toString (n : Nat) : (toString n).toList = Nat.toDigits 10 n := by
  rw [Nat.toString_eq_ofList_toDigits, String.toList_ofList]

/-- A number has at least one digit. -/
theorem exists_toDigits_eq_cons (n : Nat) :
    ∃ c cs, Nat.toDigits 10 n = c :: cs ∧ ∀ d ∈ c :: cs, d.isDigit = true := by
  obtain ⟨c, cs, hcs⟩ := List.exists_cons_of_ne_nil (Nat.toDigits_ne_nil (n := n) (b := 10))
  refine ⟨c, cs, hcs, fun d hd => ?_⟩
  exact Nat.isDigit_of_mem_toDigits (n := n) (by decide) (by decide) (hcs ▸ hd)

theorem ne_of_isDigit {c d : Char} (hc : c.isDigit = true) (hd : d.isDigit = false) : c ≠ d := by
  rintro rfl
  rw [hc] at hd
  cases hd

theorem digitValue_lt {c : Char} (h : c.isDigit = true) : digitValue c < 10 := by
  have hle : c.toNat ≤ 57 := by
    simp only [Char.isDigit, Bool.and_eq_true, decide_eq_true_eq] at h
    exact UInt32.le_iff_toNat_le.mp h.2
  have hvalue : digitValue c = c.toNat - 48 := rfl
  omega

theorem ofDigitChars_cons (c : Char) (ds : List Char) (value : Nat) :
    Nat.ofDigitChars 10 (c :: ds) value = Nat.ofDigitChars 10 ds (value * 10 + digitValue c) := by
  rw [Nat.ofDigitChars_cons, Nat.mul_comm]
  rfl

/-- More digits do not make a number smaller. -/
theorem le_ofDigitChars (ds : List Char) (value : Nat) : value ≤ Nat.ofDigitChars 10 ds value := by
  rw [Nat.ofDigitChars_eq_ofDigitChars_zero]
  exact (Nat.le_mul_of_pos_left value (Nat.pow_pos (by decide))).trans (Nat.le_add_right _ _)

/-- Digits stand for less than the power of ten that has a digit more. -/
theorem ofDigitChars_lt (hds : ∀ c ∈ ds, c.isDigit = true) :
    Nat.ofDigitChars 10 ds 0 < 10 ^ ds.length := by
  induction ds with
  | nil => decide
  | cons c ds ih =>
    obtain ⟨hc, hds⟩ := List.forall_mem_cons.mp hds
    have hrest := ih hds
    have hvalue := Nat.mul_le_mul_left (10 ^ ds.length) (Nat.le_of_lt_succ (digitValue_lt hc))
    rw [ofDigitChars_cons, Nat.zero_mul, Nat.zero_add, Nat.ofDigitChars_eq_ofDigitChars_zero,
      List.length_cons, Nat.pow_succ]
    omega

end Digits

end Text

end ClusterAudit
