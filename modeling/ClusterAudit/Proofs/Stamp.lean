-- SUMMARY: The stamp of an instant can be read back.
import ClusterAudit.Proofs.Scanning
import ClusterAudit.Time.Stamp

/-!
# Reading stamps back

The reader of stamps is lenient, and what it gives always lies in the calendar: such an
instant is `Instant.IsAdmitted`. Its stamp has one written form, which the reader
takes apart number by number: `Stamp.parse_stamp`. So a stamp of any form is turned into
one that stays as it is.
-/

namespace ClusterAudit

open ClusterAudit.Text

/-! ## Instants -/

/-- An instant of the calendar, the leap second of any minute included. -/
structure Instant.IsAdmitted (t : Instant) : Prop where
  date_valid : t.date.isValid = true
  hour_lt : t.hour < 24
  minute_lt : t.minute < 60
  second_lt : t.second < 60
  nano_lt : t.nano < 1000000000 ∨ t.second = 59 ∧ t.nano < 2000000000

/-! ## Padded numbers -/

section Padded

variable {width n : Nat}

theorem toList_padded (width n : Nat) :
    (padded width n).toList =
      List.replicate (width - (Nat.toDigits 10 n).length) '0' ++ Nat.toDigits 10 n := by
  have hlength : (toString n).length = (Nat.toDigits 10 n).length := by
    rw [← toList_toString, String.length_toList]
  simp only [padded, String.toList_append, String.toList_ofList, toList_toString, hlength]

theorem isDigit_of_mem_padded {c : Char} (h : c ∈ (padded width n).toList) : c.isDigit = true := by
  rw [toList_padded, List.mem_append] at h
  obtain hzero | hdigit := h
  · rw [List.eq_of_mem_replicate hzero]
    rfl
  · exact Nat.isDigit_of_mem_toDigits (by decide) (by decide) hdigit

theorem ofDigitChars_padded (width n : Nat) :
    Nat.ofDigitChars 10 (padded width n).toList 0 = n := by
  rw [toList_padded, Nat.ofDigitChars_append, Nat.ofDigitChars_replicate_zero, Nat.mul_zero,
    Nat.ofDigitChars_ten_toDigits]

theorem length_padded (hwidth : 0 < width) (hn : n < 10 ^ width) :
    (padded width n).toList.length = width := by
  have hlength := (Nat.length_toDigits_le_iff (by decide) hwidth).mpr hn
  rw [toList_padded, List.length_append, List.length_replicate]
  omega

theorem padded_ne_nil (width n : Nat) : (padded width n).toList ≠ [] := by
  rw [toList_padded]
  exact List.append_ne_nil_of_right_ne_nil _ Nat.toDigits_ne_nil

end Padded

namespace Stamp

/-! ## Numbers -/

section Numbers

variable {ds rest : List Char} {value width n : Nat}

/-- Digits that fill the width, or are followed by something else, are read as their number. -/
theorem readDigits_append (hds : ∀ c ∈ ds, c.isDigit = true) (hlength : ds.length ≤ width)
    (hend : ds.length = width ∨ Stops Char.isDigit rest)
    (hlimit : Nat.ofDigitChars 10 ds value < numberLimit) :
    readDigits value width (ds ++ rest) = .ok (Nat.ofDigitChars 10 ds value, rest) := by
  induction ds generalizing value width with
  | nil =>
    cases width with
    | zero => rfl
    | succ width =>
      have hstops := hend.resolve_left (by simp)
      cases rest with
      | nil => rfl
      | cons c rest => simp [readDigits, hstops c rfl]
  | cons c ds ih =>
    obtain ⟨hc, hds⟩ := List.forall_mem_cons.mp hds
    obtain ⟨width, rfl⟩ := Nat.exists_eq_add_one_of_ne_zero (n := width) (by simp at hlength; omega)
    rw [List.length_cons] at hlength hend
    rw [ofDigitChars_cons] at hlimit ⊢
    have hvalue := (le_ofDigitChars ds (value * 10 + digitValue c)).trans_lt hlimit
    rw [List.cons_append, readDigits, if_pos hc]
    simp only [if_neg (Nat.not_le.mpr hvalue)]
    exact ih hds (by omega) (hend.imp_left (by omega)) hlimit

theorem readNumber_append (hds : ∀ c ∈ ds, c.isDigit = true) (hsome : ds ≠ [])
    (hlength : ds.length ≤ width) (hend : ds.length = width ∨ Stops Char.isDigit rest)
    (hlimit : Nat.ofDigitChars 10 ds 0 < numberLimit) :
    readNumber width (ds ++ rest) = .ok (Nat.ofDigitChars 10 ds 0, rest) := by
  obtain ⟨c, ds, rfl⟩ := List.exists_cons_of_ne_nil hsome
  rw [List.cons_append, readNumber, if_pos (hds c List.mem_cons_self), ← List.cons_append]
  exact readDigits_append hds hlength hend hlimit

/-- A padded number is read from as many characters as it takes. -/
theorem readNumber_padded (hwidth : 0 < width) (hn : n < 10 ^ width) (hlimit : n < numberLimit)
    (rest : List Char) : readNumber width ((padded width n).toList ++ rest) = .ok (n, rest) := by
  have hlength := length_padded hwidth hn
  rw [readNumber_append (fun c => isDigit_of_mem_padded) (padded_ne_nil width n) hlength.le
    (.inl hlength) (by rwa [ofDigitChars_padded]), ofDigitChars_padded]

/-- A number that something else follows is read whole, however long it is. -/
theorem readNumber_padded_all (hstops : Stops Char.isDigit rest) (hlimit : n < numberLimit) :
    readNumber ((padded width n).toList ++ rest).length ((padded width n).toList ++ rest) =
      .ok (n, rest) := by
  rw [readNumber_append (fun c => isDigit_of_mem_padded) (padded_ne_nil width n)
    (by simp) (.inr hstops) (by rwa [ofDigitChars_padded]), ofDigitChars_padded]

theorem isBlank_of_isDigit {c : Char} (h : c.isDigit = true) : isBlank c = false := by
  simp only [Char.isDigit, Bool.and_eq_true, decide_eq_true_eq, ge_iff_le,
    UInt32.le_iff_toNat_le] at h
  have hlow : 48 ≤ c.toNat := h.1
  have hhigh : c.toNat ≤ 57 := h.2
  simp only [isBlank, Bool.or_eq_false_iff, Bool.and_eq_false_iff, decide_eq_false_iff_not,
    beq_eq_false_iff_ne]
  omega

/-- There are no blanks before a padded number. -/
theorem trimStart_padded (width n : Nat) (rest : List Char) :
    trimStart ((padded width n).toList ++ rest) = (padded width n).toList ++ rest := by
  obtain ⟨c, cs, hcs⟩ := List.exists_cons_of_ne_nil (padded_ne_nil width n)
  have hc : isBlank c = false :=
    isBlank_of_isDigit (isDigit_of_mem_padded (hcs ▸ List.mem_cons_self))
  rw [hcs]
  exact (stops_cons hc (cs ++ rest)).dropWhile_eq_self

/-- A part of two digits is read if it lies between its limits. -/
theorem readPart_padded {low high : Nat} (hlow : low ≤ n) (hhigh : n ≤ high) (hlt : n < 100)
    (rest : List Char) : readPart low high ((padded 2 n).toList ++ rest) = .ok (n, rest) := by
  have hlimit : n < numberLimit := hlt.trans (by decide)
  rw [readPart, trimStart_padded, readNumber_padded (by decide) hlt hlimit]
  exact if_pos ⟨hlow, hhigh⟩

theorem readMark_self {mark : Char} (h : isBlank mark = false) (rest : List Char) :
    readMark mark (mark :: rest) = .ok rest := by
  have hself : trimStart (mark :: rest) = mark :: rest :=
    (stops_cons h rest).dropWhile_eq_self
  rw [readMark, hself]
  exact if_pos rfl

end Numbers

/-! ## Dates -/

theorem readYear_of_isDigit {c : Char} (h : c.isDigit = true) (cs : List Char) :
    readYear (c :: cs) = (readNumber 4 (c :: cs)).map fun read => ((read.1 : Int), read.2) := by
  have hself : trimStart (c :: cs) = c :: cs :=
    (stops_cons (isBlank_of_isDigit h) cs).dropWhile_eq_self
  have hminus : c ≠ '-' := ne_of_isDigit h rfl
  have hplus : c ≠ '+' := ne_of_isDigit h rfl
  rw [readYear, hself]
  simp only [bind, Except.bind]
  split
  · exact absurd (List.cons.inj ‹_›).1 hminus
  · exact absurd (List.cons.inj ‹_›).1 hplus
  · cases readNumber 4 (c :: cs) <;> rfl

theorem readYear_minus (cs : List Char) :
    readYear ('-' :: cs) = (readNumber cs.length cs).map fun read => (-(read.1 : Int), read.2) := by
  change (readNumber cs.length cs).bind _ = _
  cases readNumber cs.length cs <;> rfl

theorem readYear_plus (cs : List Char) :
    readYear ('+' :: cs) = (readNumber cs.length cs).map fun read => ((read.1 : Int), read.2) := by
  change (readNumber cs.length cs).bind _ = _
  cases readNumber cs.length cs <;> rfl

/-- Every year of the calendar is read back, with its sign if it has one. -/
theorem readYear_yearText {year : Int} (hlow : Date.firstYear ≤ year) (hhigh : year ≤ Date.lastYear)
    {rest : List Char} (hstops : Stops Char.isDigit rest) :
    readYear ((Instant.yearText year).toList ++ rest) = .ok (year, rest) := by
  have hlimit : ∀ n < 2 ^ 20, n < numberLimit := fun n hn => hn.trans (by decide)
  simp only [Date.firstYear, Date.lastYear] at hlow hhigh
  unfold Instant.yearText
  split
  · obtain ⟨c, ds, hds⟩ := List.exists_cons_of_ne_nil (padded_ne_nil 4 year.toNat)
    have hc : c.isDigit = true := isDigit_of_mem_padded (hds ▸ List.mem_cons_self)
    have hnumber := readNumber_padded (by decide) (show year.toNat < 10 ^ 4 by omega)
      (hlimit _ (by omega)) rest
    rw [hds, List.cons_append] at hnumber ⊢
    rw [readYear_of_isDigit hc, hnumber]
    simp only [Except.map, Int.toNat_of_nonneg (show 0 ≤ year by omega)]
  split
  · have hsign : "-".toList = ['-'] := rfl
    rw [String.toList_append, hsign, List.append_assoc, List.singleton_append, readYear_minus,
      readNumber_padded_all hstops (hlimit year.natAbs (by omega))]
    simp only [Except.map, Int.ofNat_natAbs_of_nonpos (show year ≤ 0 by omega), Int.neg_neg]
  · have hsign : "+".toList = ['+'] := rfl
    rw [String.toList_append, hsign, List.append_assoc, List.singleton_append, readYear_plus,
      readNumber_padded_all hstops (hlimit year.toNat (by omega))]
    simp only [Except.map, Int.toNat_of_nonneg (show 0 ≤ year by omega)]

/-- A date of the calendar is read back. -/
theorem readDate_dateText {d : Date} (h : d.isValid = true) (rest : List Char) :
    readDate ((Instant.dateText d).toList ++ rest) = .ok (d, rest) := by
  obtain ⟨year, month, day⟩ := d
  simp only [Date.isValid, Bool.and_eq_true, decide_eq_true_eq] at h
  obtain ⟨⟨⟨⟨⟨hfirst, hlast⟩, hmonth⟩, hmonth'⟩, hday⟩, hday'⟩ := h
  have hdays : Date.daysInMonth year month ≤ 31 := by
    unfold Date.daysInMonth
    repeat' split
    all_goals decide
  have hmark (cs : List Char) : Stops Char.isDigit ('-' :: cs) := stops_cons rfl cs
  have htext : (Instant.dateText ⟨year, month, day⟩).toList ++ rest =
      (Instant.yearText year).toList ++ '-' :: ((padded 2 month).toList ++
        '-' :: ((padded 2 day).toList ++ rest)) := by
    simp [Instant.dateText]
  have hword : ¬ (year < -(2 ^ 31) ∨ 2 ^ 31 ≤ year) := by
    simp only [Date.firstYear, Date.lastYear] at hfirst hlast
    omega
  rw [htext, readDate, readYear_yearText hfirst hlast (hmark _)]
  simp only [bind, Except.bind, if_neg hword, readMark_self (show isBlank '-' = false by decide),
    readPart_padded hmonth hmonth' (by omega), readPart_padded hday (hday'.trans hdays) (by omega)]
  rfl

/-! ## Times of day -/

/-- A fraction of some digits stands for as many nanoseconds as nine digits would. -/
theorem readFraction_padded {width n : Nat} (hwidth : 0 < width) (hnine : width ≤ 9)
    (hn : n < 10 ^ width) (rest : List Char) :
    readFraction ('.' :: ((padded width n).toList ++ 'Z' :: rest)) =
      .ok (n * 10 ^ (9 - width), 'Z' :: rest) := by
  have hlength := length_padded hwidth hn
  have hlimit : n < numberLimit :=
    (hn.trans_le (Nat.pow_le_pow_right (by decide) hnine)).trans (by decide)
  have hstops : Stops Char.isDigit ('Z' :: rest) := stops_cons rfl rest
  have hread : readNumber 9 ((padded width n).toList ++ 'Z' :: rest) = .ok (n, 'Z' :: rest) := by
    rw [readNumber_append (fun c => isDigit_of_mem_padded) (padded_ne_nil width n)
      (hlength.trans_le hnine) (.inr hstops) (by rwa [ofDigitChars_padded]), ofDigitChars_padded]
  have htaken : ((padded width n).toList ++ 'Z' :: rest).length - ('Z' :: rest).length = width := by
    rw [List.length_append, hlength, Nat.add_sub_cancel]
  simp only [readFraction, hread, bind, Except.bind, htaken, hstops.dropWhile_eq_self]
  rfl

/-- The fraction of a second is read back, in whatever number of digits it is written. -/
theorem readFraction_fractionText {nanos : Nat} (h : nanos < 1000000000) (rest : List Char) :
    readFraction ((Instant.fractionText nanos).toList ++ 'Z' :: rest) =
      .ok (nanos, 'Z' :: rest) := by
  have hpoint (width n : Nat) : ("." ++ padded width n).toList ++ 'Z' :: rest =
      '.' :: ((padded width n).toList ++ 'Z' :: rest) := by simp
  unfold Instant.fractionText
  split
  · subst nanos
    rfl
  split
  · rw [hpoint, readFraction_padded (by decide) (by decide) (by omega)]
    exact congrArg Except.ok (Prod.ext (by omega) rfl)
  split
  · rw [hpoint, readFraction_padded (by decide) (by decide) (by omega)]
    exact congrArg Except.ok (Prod.ext (by omega) rfl)
  · rw [hpoint, readFraction_padded (by decide) (by decide) (by omega)]
    exact congrArg Except.ok (Prod.ext (by omega) rfl)

/-- The time of day of an admitted instant is read back; a leap second is shown as sixty. -/
theorem readTime_timeText {t : Instant} (h : t.IsAdmitted) (rest : List Char) :
    readTime (t.timeText.toList ++ ((Instant.fractionText t.fraction).toList ++ 'Z' :: rest)) =
      .ok (⟨t.hour, t.minute, t.second, t.nano⟩, 'Z' :: rest) := by
  have hhour := h.hour_lt
  have hminute := h.minute_lt
  have hsecond := h.second_lt
  have hnano := h.nano_lt
  have htext : t.timeText.toList ++ ((Instant.fractionText t.fraction).toList ++ 'Z' :: rest) =
      (padded 2 t.hour).toList ++ ':' :: ((padded 2 t.minute).toList ++
        ':' :: ((padded 2 t.shownSecond).toList ++
          ((Instant.fractionText t.fraction).toList ++ 'Z' :: rest))) := by
    simp [Instant.timeText]
  have hshown : t.shownSecond ≤ 60 := by
    unfold Instant.shownSecond
    omega
  have hfraction : t.fraction < 1000000000 := Nat.mod_lt _ (by decide)
  rw [htext, readTime]
  simp only [bind, Except.bind, readMark_self (show isBlank ':' = false by decide),
    readPart_padded (Nat.zero_le _) (show t.hour ≤ 23 by omega) (by omega),
    readPart_padded (Nat.zero_le _) (show t.minute ≤ 59 by omega) (by omega),
    readPart_padded (Nat.zero_le _) hshown (by omega), readFraction_fractionText hfraction]
  by_cases hleap : t.nano < 1000000000
  · have hplain : t.shownSecond = t.second := by
      unfold Instant.shownSecond
      omega
    have hnanos : t.fraction = t.nano := Nat.mod_eq_of_lt hleap
    rw [hplain, hnanos, if_neg (by omega)]
    rfl
  · obtain ⟨hlast, hlimit⟩ := hnano.resolve_left hleap
    have hsixty : t.shownSecond = 60 := by
      unfold Instant.shownSecond
      omega
    have hnanos : t.fraction + 1000000000 = t.nano := by
      unfold Instant.fraction
      omega
    rw [if_pos hsixty, hnanos, hlast]
    rfl

/-! ## Stamps -/

/-- The stamp of an admitted instant is read back. -/
theorem parse_stamp {t : Instant} (h : t.IsAdmitted) : parse t.stamp = .ok t := by
  have hhour := h.hour_lt
  have hminute := h.minute_lt
  have htext : t.stamp.toList = (Instant.dateText t.date).toList ++ 'T' ::
      (t.timeText.toList ++ ((Instant.fractionText t.fraction).toList ++ ['Z'])) := by
    simp [Instant.stamp]
  have hinstant : toInstant t.date ⟨t.hour, t.minute, t.second, t.nano⟩ 0 = .ok t := by
    have hminutes : ((t.hour * 60 + t.minute : Nat) : Int) - 0 = (t.hour * 60 + t.minute : Nat) :=
      Int.sub_zero _
    have hhours : (t.hour * 60 + t.minute) / 60 = t.hour := by omega
    have hrest : (t.hour * 60 + t.minute) % 60 = t.minute := by omega
    simp only [toInstant, hminutes, Int.toNat_natCast, hhours, hrest, h.date_valid]
    rw [if_neg (by omega), if_pos (by omega)]
    rfl
  have hoffset : readOffset ['Z'] = .ok (0, []) := rfl
  rw [parse, htext, readDate_dateText h.date_valid]
  simp only [bind, Except.bind, readTime_timeText h, h.date_valid]
  rw [if_pos (.inl trivial), hoffset]
  simpa [isBlankText] using hinstant

/-! ## What is read is admitted -/

section Admitted

variable {cs rest : List Char} {value width n : Nat}

theorem exists_digits_of_readDigits (h : readDigits value width cs = .ok (n, rest)) :
    ∃ ds, cs = ds ++ rest ∧ ds.length ≤ width ∧ (∀ c ∈ ds, c.isDigit = true) ∧
      n = Nat.ofDigitChars 10 ds value := by
  induction width generalizing value cs with
  | zero =>
    cases h
    exact ⟨[], rfl, Nat.le_refl 0, List.forall_mem_nil _, Nat.ofDigitChars_nil.symm⟩
  | succ width ih =>
    cases cs with
    | nil =>
      cases h
      exact ⟨[], rfl, Nat.zero_le _, List.forall_mem_nil _, Nat.ofDigitChars_nil.symm⟩
    | cons c cs =>
      rw [readDigits] at h
      split at h
      · rename_i hc
        simp only at h
        split at h
        · cases h
        · obtain ⟨ds, rfl, hlength, hds, rfl⟩ := ih h
          exact ⟨c :: ds, rfl, Nat.succ_le_succ hlength, List.forall_mem_cons.mpr ⟨hc, hds⟩,
            (ofDigitChars_cons c ds value).symm⟩
      · cases h
        exact ⟨[], rfl, Nat.zero_le _, List.forall_mem_nil _, Nat.ofDigitChars_nil.symm⟩

/-- A number of some digits is below the power of ten with a digit more. -/
theorem readNumber_lt (h : readNumber width cs = .ok (n, rest)) :
    rest.length ≤ cs.length ∧ cs.length - rest.length ≤ width ∧
      n < 10 ^ (cs.length - rest.length) := by
  cases cs with
  | nil => cases h
  | cons c cs =>
    rw [readNumber] at h
    split at h
    · obtain ⟨ds, hcs, hlength, hds, rfl⟩ := exists_digits_of_readDigits h
      rw [hcs, List.length_append, Nat.add_sub_cancel]
      exact ⟨Nat.le_add_left _ _, hlength, ofDigitChars_lt hds⟩
    · cases h

theorem le_of_readPart {low high : Nat} (h : readPart low high cs = .ok (n, rest)) :
    low ≤ n ∧ n ≤ high := by
  obtain ⟨⟨found, left⟩, -, hfound⟩ := exists_of_bind_eq_ok h
  simp only at hfound
  split at hfound
  · cases hfound
    assumption
  · cases hfound

/-- A fraction is less than a second. -/
theorem readFraction_lt (h : readFraction cs = .ok (n, rest)) : n < 1000000000 := by
  unfold readFraction at h
  split at h
  · obtain ⟨⟨found, left⟩, hread, hfound⟩ := exists_of_bind_eq_ok h
    obtain ⟨hle, hwidth, hlt⟩ := readNumber_lt hread
    cases hfound
    calc found * 10 ^ (9 - _) < 10 ^ _ * 10 ^ (9 - _) :=
          Nat.mul_lt_mul_of_pos_right hlt (Nat.pow_pos (by decide))
      _ = 10 ^ 9 := by rw [← Nat.pow_add, Nat.add_sub_cancel' hwidth]
  · cases h
    decide

/-- The parts of a time of day lie within their limits. -/
structure TimeOfDay.IsAdmitted (time : TimeOfDay) : Prop where
  hour_lt : time.hour < 24
  minute_lt : time.minute < 60
  second_lt : time.second < 60
  nano_lt : time.nano < 1000000000 ∨ time.second = 59 ∧ time.nano < 2000000000

theorem isAdmitted_of_readTime {time : TimeOfDay} (h : readTime cs = .ok (time, rest)) :
    time.IsAdmitted := by
  obtain ⟨⟨hour, cs₁⟩, hhour, h⟩ := exists_of_bind_eq_ok h
  obtain ⟨cs₂, -, h⟩ := exists_of_bind_eq_ok h
  obtain ⟨⟨minute, cs₃⟩, hminute, h⟩ := exists_of_bind_eq_ok h
  obtain ⟨cs₄, -, h⟩ := exists_of_bind_eq_ok h
  obtain ⟨⟨second, cs₅⟩, hsecond, h⟩ := exists_of_bind_eq_ok h
  obtain ⟨⟨nano, cs₆⟩, hnano, h⟩ := exists_of_bind_eq_ok h
  have hhours := (le_of_readPart hhour).2
  have hminutes := (le_of_readPart hminute).2
  have hseconds := (le_of_readPart hsecond).2
  have hnanos := readFraction_lt hnano
  simp only at h
  split at h
  · cases h
    exact ⟨Nat.lt_succ_of_le hhours, Nat.lt_succ_of_le hminutes, Nat.lt_succ_self 59,
      .inr ⟨rfl, Nat.add_lt_add_right hnanos 1000000000⟩⟩
  · cases h
    exact ⟨Nat.lt_succ_of_le hhours, Nat.lt_succ_of_le hminutes,
      Nat.lt_of_le_of_ne hseconds ‹_›, .inl hnanos⟩

/-- Moving a time to universal time keeps it in the calendar. -/
theorem isAdmitted_of_toInstant {date : Date} {time : TimeOfDay} {offset : Int} {t : Instant}
    (htime : time.IsAdmitted) (hoffset : offset.natAbs < 1440)
    (h : toInstant date time offset = .ok t) : t.IsAdmitted := by
  have hhour := htime.hour_lt
  have hminute := htime.minute_lt
  have hof {day : Date} {minutes : Nat} (hminutes : minutes < 1440)
      (h : (if day.isValid then
        Except.ok ⟨day, minutes / 60, minutes % 60, time.second, time.nano⟩
        else .error Fault.impossible) = .ok t) : t.IsAdmitted := by
    split at h
    · rename_i hvalid
      cases h
      exact ⟨hvalid, by simp only; omega, Nat.mod_lt _ (by decide), htime.second_lt, htime.nano_lt⟩
    · cases h
  simp only [toInstant] at h
  split at h
  · exact hof (by omega) h
  split at h
  · exact hof (by omega) h
  · exact hof (by omega) h

/-- Whatever stamp is read, the instant lies in the calendar. -/
theorem isAdmitted_of_parse {text : String} {t : Instant} (h : parse text = .ok t) :
    t.IsAdmitted := by
  obtain ⟨⟨date, cs⟩, -, h⟩ := exists_of_bind_eq_ok h
  simp only at h
  split at h
  · cases h
  split at h
  · obtain ⟨after, -, h⟩ := exists_of_bind_eq_ok h
    obtain ⟨⟨time, cs'⟩, htime, h⟩ := exists_of_bind_eq_ok h
    obtain ⟨⟨offset, cs''⟩, -, h⟩ := exists_of_bind_eq_ok h
    simp only at h
    split at h
    · cases h
    split at h
    · cases h
    split at h
    · cases h
    · exact isAdmitted_of_toInstant (isAdmitted_of_readTime htime) (Nat.not_le.mp ‹_›) h
  · cases h

end Admitted

end Stamp

end ClusterAudit
