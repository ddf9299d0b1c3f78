-- SUMMARY: A JSON number or string that was written can be read back.
import ClusterAudit.Json.Printer
import ClusterAudit.Json.Reader
import ClusterAudit.Proofs.Scanning

/-!
# Reading JSON scalars back

What is written of a truth value, of an integer that fits its word and of any string is
read as this value, up to the text that follows. A number needs a text that does not go on
with it; a string ends with its own quote.
-/

namespace ClusterAudit

open ClusterAudit.Text

/-- A number that is kept exactly, within its limits. -/
def JsonNumber.IsInteger : JsonNumber → Prop
  | .natural n => n < 2 ^ 64
  | .negative n => 0 < n ∧ n ≤ 2 ^ 63
  | .binary _ => False

namespace Json

/-! ## Numbers -/

/-- Whether a number goes on with a character. -/
def continuesNumber (c : Char) : Bool := c.isDigit || c == '.' || c == 'e' || c == 'E'

section Numbers

variable {ds rest : List Char} {value n : Nat}

theorem stops_isDigit (h : Stops continuesNumber rest) : Stops Char.isDigit rest := by
  intro c hc
  have hends := h c hc
  simp only [continuesNumber, Bool.or_eq_false_iff] at hends
  exact hends.1.1.1

/-- Digits whose number fits a word are read as this number. -/
theorem readWordDigits_append (hds : ∀ c ∈ ds, c.isDigit = true) (hrest : Stops Char.isDigit rest)
    (hlimit : Nat.ofDigitChars 10 ds value < wordLimit) (taken : Nat) :
    readWordDigits value taken (ds ++ rest) =
      (Nat.ofDigitChars 10 ds value, taken + ds.length, rest) := by
  induction ds generalizing value taken with
  | nil =>
    cases rest with
    | nil => rfl
    | cons c rest => simp [readWordDigits, hrest c rfl]
  | cons c ds ih =>
    obtain ⟨hc, hds⟩ := List.forall_mem_cons.mp hds
    rw [ofDigitChars_cons] at hlimit ⊢
    have hlonger := (le_ofDigitChars ds (value * 10 + digitValue c)).trans_lt hlimit
    simp only [List.cons_append, readWordDigits, if_pos hc, if_pos hlonger, ih hds hlimit,
      List.length_cons, Nat.add_comm ds.length 1, Nat.add_assoc]

/-- A number does not start with a zero unless it is zero. -/
theorem head_toDigits_ne_zero (h : n ≠ 0) : ∀ c ∈ (Nat.toDigits 10 n).head?, c ≠ '0' := by
  induction n using Nat.strongRecOn with
  | ind n ih =>
    obtain hlt | hle := Nat.lt_or_ge n 10
    · rw [Nat.toDigits_of_lt_base hlt]
      intro c hc
      rw [← Option.some.inj hc, Ne, Nat.digitChar_eq_zero]
      exact h
    · have hhead := ih (n / 10) (Nat.div_lt_self (by omega) (by decide)) (by omega)
      obtain ⟨d, ds, hds⟩ :=
        List.exists_cons_of_ne_nil (Nat.toDigits_ne_nil (n := n / 10) (b := 10))
      rw [Nat.toDigits_of_base_le (by decide) hle, hds]
      rwa [hds] at hhead

theorem readAfterInteger_eq (negative : Bool) (hrest : Stops continuesNumber rest) :
    readAfterInteger negative value rest = finishInteger negative value rest := by
  unfold readAfterInteger
  split
  · exact absurd (hrest _ rfl) (by decide)
  · exact absurd (hrest _ rfl) (by decide)
  · exact absurd (hrest _ rfl) (by decide)
  · rfl

/-- The digits of a number that fits a word are read as this number. -/
theorem readNumber_toDigits (negative : Bool) (hn : n < 2 ^ 64)
    (hrest : Stops continuesNumber rest) :
    readNumber negative (Nat.toDigits 10 n ++ rest) = finishInteger negative n rest := by
  have hdigits := stops_isDigit hrest
  by_cases hzero : n = 0
  · subst hzero
    rw [Nat.toDigits_zero, List.singleton_append, readNumber.eq_def]
    cases rest with
    | nil => rfl
    | cons d rest =>
      simp only [if_pos, hdigits d rfl, Bool.false_eq_true, if_false]
      exact readAfterInteger_eq negative hrest
  · obtain ⟨c, ds, hds, hall⟩ := exists_toDigits_eq_cons n
    obtain ⟨hc, hall⟩ := List.forall_mem_cons.mp hall
    have hhead : c ≠ '0' := head_toDigits_ne_zero hzero c (by rw [hds]; rfl)
    have hvalue : Nat.ofDigitChars 10 ds (digitValue c) = n := by
      have hwhole : Nat.ofDigitChars 10 (c :: ds) 0 = n := by
        rw [← hds, Nat.ofDigitChars_ten_toDigits]
      rwa [ofDigitChars_cons, Nat.zero_mul, Nat.zero_add] at hwhole
    have hword := readWordDigits_append hall hdigits (hvalue.trans_lt hn) 0
    rw [hvalue] at hword
    rw [hds, List.cons_append, readNumber.eq_def]
    simp only [if_neg hhead, if_pos hc, hword]
    cases rest with
    | nil => rfl
    | cons d rest =>
      simp only [hdigits d rfl, Bool.false_eq_true, if_false]
      exact readAfterInteger_eq negative hrest

end Numbers

/-! ## Strings -/

theorem hexValue?_lowerHexDigit : ∀ n < 16, hexValue? (lowerHexDigit n) = some n := by decide

theorem utf8Size_lowerHexDigit : ∀ n < 16, (lowerHexDigit n).utf8Size = 1 := by decide

section Strings

variable {fuel : Nat}

/-- The four digits of a control character are read as its code. -/
theorem readHex4_control {n : Nat} (h : n < 0x20) (rest : List Char) :
    readHex4 ('0' :: '0' :: lowerHexDigit (n / 16) :: lowerHexDigit (n % 16) :: rest) =
      .ok (n, rest) := by
  have hhigh := hexValue?_lowerHexDigit (n / 16) (by omega)
  have hlow := hexValue?_lowerHexDigit (n % 16) (by omega)
  have hcount : byteCount ['0', '0', lowerHexDigit (n / 16), lowerHexDigit (n % 16)] = 4 := by
    simp [byteCount, utf8Size_lowerHexDigit (n / 16) (by omega),
      utf8Size_lowerHexDigit (n % 16) (by omega), show ('0' : Char).utf8Size = 1 from rfl]
  have hzero : hexValue? '0' = some 0 := rfl
  have hvalue : ((0 * 16 + 0) * 16 + n / 16) * 16 + n % 16 = n := by omega
  simp only [readHex4, List.take_succ_cons, List.take_zero, hcount, hzero, hhigh, hlow, hvalue]
  rfl

/-- The escape of a control character is read as this character. -/
theorem readUnicodeEscape_control {c : Char} (h : c.toNat < 0x20) (rest : List Char) :
    readUnicodeEscape
        ('0' :: '0' :: lowerHexDigit (c.toNat / 16) :: lowerHexDigit (c.toNat % 16) :: rest) =
      .ok (.char c, rest) := by
  have hhigh : isHighSurrogate c.toNat = false := by
    simp only [isHighSurrogate, Bool.and_eq_false_iff, decide_eq_false_iff_not]
    omega
  have hlow : isLowSurrogate c.toNat = false := by
    simp only [isLowSurrogate, Bool.and_eq_false_iff, decide_eq_false_iff_not]
    omega
  rw [readUnicodeEscape, readHex4_control h]
  simp [bind, Except.bind, pure, Except.pure, hhigh, hlow, Char.ofNat_toNat]

/-- A character is written as an escape with one letter, by its code, or as it is. -/
theorem escapeChar_cases (c : Char) :
    (∃ e, escapeChar c = ['\\', e] ∧ e ≠ 'u' ∧ simpleEscape? e = some c) ∨
      (escapeChar c = ['\\', 'u', '0', '0', lowerHexDigit (c.toNat / 16),
        lowerHexDigit (c.toNat % 16)] ∧ c.toNat < 0x20) ∨
      (escapeChar c = [c] ∧ c ≠ '"' ∧ c ≠ '\\' ∧ ¬c.toNat < 0x20) := by
  have hsimple {d : Char} (e : Char) (hd : c = d) (he : e ≠ 'u') (h : simpleEscape? e = some d) :
      ∃ e', ['\\', e] = ['\\', e'] ∧ e' ≠ 'u' ∧ simpleEscape? e' = some c :=
    ⟨e, rfl, he, hd ▸ h⟩
  unfold escapeChar
  split_ifs with hquote hbackslash hb hf hn hr ht hcontrol
  · exact .inl (hsimple '"' hquote (by decide) rfl)
  · exact .inl (hsimple '\\' hbackslash (by decide) rfl)
  · exact .inl (hsimple 'b' hb (by decide) rfl)
  · exact .inl (hsimple 'f' hf (by decide) rfl)
  · exact .inl (hsimple 'n' hn (by decide) rfl)
  · exact .inl (hsimple 'r' hr (by decide) rfl)
  · exact .inl (hsimple 't' ht (by decide) rfl)
  · exact .inr (.inl ⟨rfl, hcontrol⟩)
  · exact .inr (.inr ⟨rfl, hquote, hbackslash, hcontrol⟩)

/-- A written character is read as itself. -/
theorem readString_escapeChar (c : Char) {rest : List Char} {s : Except Stop (List Char)}
    {after : List Char} (h : readString fuel rest = .ok (s, after)) :
    readString (fuel + 1) (escapeChar c ++ rest) = .ok (pushFront c s, after) := by
  obtain ⟨e, hescape, he, hc⟩ | ⟨hescape, hcontrol⟩ | ⟨hescape, hquote, hbackslash, hcontrol⟩ :=
    escapeChar_cases c
  · rw [hescape, List.cons_append, List.singleton_append, readString, if_neg (by decide),
      if_pos rfl]
    simp only [if_neg he, hc, h]
    rfl
  · rw [hescape]
    simp only [List.cons_append, List.nil_append]
    rw [readString, if_neg (by decide), if_pos rfl]
    simp only [if_pos, readUnicodeEscape_control hcontrol, bind, Except.bind, h]
    rfl
  · rw [hescape, List.singleton_append, readString.eq_def]
    simp only [if_neg hquote, if_neg hbackslash, if_neg hcontrol, h]
    rfl

theorem escapeChar_ne_nil (c : Char) : escapeChar c ≠ [] := by
  obtain ⟨e, hescape, -⟩ | ⟨hescape, -⟩ | ⟨hescape, -⟩ := escapeChar_cases c
  all_goals
    rw [hescape]
    exact List.cons_ne_nil _ _

/-- Written characters are read as themselves, up to the quote. -/
theorem readString_flatMap_escapeChar {cs rest : List Char} (hfuel : cs.length < fuel) :
    readString fuel (cs.flatMap escapeChar ++ '"' :: rest) = .ok (.ok cs, rest) := by
  induction cs generalizing fuel with
  | nil =>
    obtain ⟨fuel, rfl⟩ := Nat.exists_eq_succ_of_ne_zero (Nat.ne_zero_of_lt hfuel)
    rfl
  | cons c cs ih =>
    obtain ⟨fuel, rfl⟩ := Nat.exists_eq_succ_of_ne_zero (Nat.ne_zero_of_lt hfuel)
    rw [List.flatMap_cons, List.append_assoc,
      readString_escapeChar c (ih (Nat.lt_of_succ_lt_succ hfuel))]
    rfl

end Strings

/-! ## Starts -/

section Starts

variable {front rest cs : List Char} {c : Char}

/-- The text starts like a value: not with a blank, nor with a bracket that ends an array or
an object. -/
def StartsValue (text : List Char) : Prop :=
  ∃ c cs, text = c :: cs ∧ isJsonBlank c = false ∧ c ≠ ']' ∧ c ≠ '}'

theorem skipBlank_append (hfront : ∀ c ∈ front, isJsonBlank c = true)
    (hrest : Stops isJsonBlank rest) : skipBlank (front ++ rest) = rest := by
  rw [skipBlank, List.dropWhile_append_of_pos hfront, hrest.dropWhile_eq_self]

/-- A number ends before a blank. -/
theorem stops_continuesNumber_append (hfront : ∀ c ∈ front, isJsonBlank c = true)
    (hrest : Stops continuesNumber rest) : Stops continuesNumber (front ++ rest) := by
  cases front with
  | nil => exact hrest
  | cons c front =>
    refine stops_cons ?_ _
    have hc := hfront c List.mem_cons_self
    simp only [isJsonBlank, Bool.or_eq_true, beq_iff_eq] at hc
    obtain ((rfl | rfl) | rfl) | rfl := hc <;> rfl

theorem StartsValue.append (h : StartsValue cs) (rest : List Char) : StartsValue (cs ++ rest) := by
  obtain ⟨c, cs, rfl, hc⟩ := h
  exact ⟨c, cs ++ rest, rfl, hc⟩

theorem StartsValue.stops (h : StartsValue cs) : Stops isJsonBlank cs := by
  obtain ⟨c, cs, rfl, hc, -⟩ := h
  exact stops_cons hc cs

theorem startsValue_of_isDigit (h : c.isDigit = true) (cs : List Char) : StartsValue (c :: cs) := by
  have hne {d : Char} : d.isDigit = false → c ≠ d := ne_of_isDigit h
  refine ⟨c, cs, rfl, ?_, hne rfl, hne rfl⟩
  simp [isJsonBlank, hne (d := ' ') rfl, hne (d := '\n') rfl, hne (d := '\t') rfl,
    hne (d := '\r') rfl]

theorem startsValue_printBool (b : Bool) : StartsValue (printBool b) := by
  cases b <;> exact ⟨_, _, rfl, by decide⟩

theorem startsValue_printString (s : String) (rest : List Char) :
    StartsValue (printString s ++ rest) :=
  ⟨'"', _, rfl, by decide⟩

theorem startsValue_printNumber {n : JsonNumber} (h : n.IsInteger) :
    StartsValue (printNumber n) := by
  cases n with
  | natural n =>
    obtain ⟨c, cs, hcs, hdigits⟩ := exists_toDigits_eq_cons n
    rw [printNumber, toList_toString, hcs]
    exact startsValue_of_isDigit (hdigits c List.mem_cons_self) cs
  | negative n => exact ⟨'-', _, rfl, by decide⟩
  | binary x => exact h.elim

end Starts

/-! ## Scalars -/

section Scalars

variable {rest : List Char}

theorem length_le_flatMap_escapeChar (cs : List Char) :
    cs.length ≤ (cs.flatMap escapeChar).length := by
  induction cs with
  | nil => exact Nat.le_refl 0
  | cons c cs ih =>
    have hc := List.length_pos_iff.mpr (escapeChar_ne_nil c)
    rw [List.flatMap_cons, List.length_append, List.length_cons]
    omega

/-- A written string is read as itself, from after its first quote. -/
theorem readString_printString {s : String} {fuel : Nat}
    (hfuel : (s.toList.flatMap escapeChar).length < fuel) (rest : List Char) :
    readString fuel (s.toList.flatMap escapeChar ++ '"' :: rest) = .ok (.ok s.toList, rest) :=
  readString_flatMap_escapeChar ((length_le_flatMap_escapeChar _).trans_lt hfuel)

theorem readScalar_printBool (b : Bool) (fuel : Nat) :
    ∃ c cs, printBool b ++ rest = c :: cs ∧ (c ≠ '[' ∧ c ≠ '{') ∧
      readScalar fuel c cs = (.bool b rest, some rest) := by
  cases b with
  | false => exact ⟨'f', _, rfl, by decide, rfl⟩
  | true => exact ⟨'t', _, rfl, by decide, rfl⟩

theorem readScalar_printNumber {n : JsonNumber} (h : n.IsInteger)
    (hrest : Stops continuesNumber rest) (fuel : Nat) :
    ∃ c cs, printNumber n ++ rest = c :: cs ∧ (c ≠ '[' ∧ c ≠ '{') ∧
      readScalar fuel c cs = (.number (.ok n) rest, some rest) := by
  cases n with
  | natural n =>
    obtain ⟨c, cs, hcs, hdigits⟩ := exists_toDigits_eq_cons n
    have hc : c.isDigit = true := hdigits c List.mem_cons_self
    have hne {d : Char} : d.isDigit = false → c ≠ d := ne_of_isDigit hc
    refine ⟨c, cs ++ rest, ?_, ⟨hne rfl, hne rfl⟩, ?_⟩
    · rw [printNumber, toList_toString, hcs, List.cons_append]
    · have hread := readNumber_toDigits false h hrest
      rw [hcs, List.cons_append] at hread
      simp only [readScalar, if_neg (hne (d := 'n') rfl), if_neg (hne (d := 't') rfl),
        if_neg (hne (d := 'f') rfl), if_neg (hne (d := '-') rfl), if_pos hc, hread]
      rfl
  | negative n =>
    obtain ⟨hpos, hle⟩ := h
    refine ⟨'-', Nat.toDigits 10 n ++ rest, ?_, by decide, ?_⟩
    · rw [printNumber, toList_toString, List.cons_append]
    · have hread := readNumber_toDigits true (hle.trans_lt (by decide)) hrest
      have hzero : ¬(n = 0 ∨ 2 ^ 63 < n) := by omega
      simp only [finishInteger, Bool.not_true, Bool.false_eq_true, if_false, if_neg hzero] at hread
      simp only [readScalar, hread]
      rfl
  | binary x => exact h.elim

theorem readScalar_printString (s : String) {fuel : Nat}
    (hfuel : (printString s).length < fuel) :
    ∃ c cs, printString s ++ rest = c :: cs ∧ (c ≠ '[' ∧ c ≠ '{') ∧
      readScalar fuel c cs = (.string (.ok s) rest, some rest) := by
  refine ⟨'"', s.toList.flatMap escapeChar ++ '"' :: rest, ?_, by decide, ?_⟩
  · rw [printString, List.cons_append, List.append_assoc, List.singleton_append]
  · have hlength : (s.toList.flatMap escapeChar).length < fuel := by
      simp only [printString, List.length_cons, List.length_append] at hfuel
      omega
    have hread := readString_printString hlength rest
    have hquote : ('"' : Char).isDigit = false := rfl
    simp only [readScalar, hread, hquote, Bool.false_eq_true, if_false, if_pos]
    simp [stringRead, Except.map, String.ofList_toList]

end Scalars

end Json

end ClusterAudit
