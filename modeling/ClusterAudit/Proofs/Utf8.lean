-- SUMMARY: UTF-8 is read back, and nothing else is read.
import ClusterAudit.Text.Utf8
import Mathlib.Tactic.Common

/-!
# Reading UTF-8 back

The first byte of a character tells how many follow, and which second bytes may follow it.
What was encoded passes these tests, so it is read back character by character:
`decode_encode`. Other bytes fail one of them, so whatever is read was encoded:
`decode_eq_ok_iff`.
-/

namespace ClusterAudit.Utf8

theorem toNat_byte {n : Nat} (h : n < 256) : (UInt8.ofNat n).toNat = n :=
  UInt8.toNat_ofNat_of_lt h

theorem toNat_continuation (n : Nat) : (continuation n).toNat = 0x80 + n % 0x40 :=
  toNat_byte (by omega)

@[simp] theorem isContinuation_continuation (n : Nat) : isContinuation (continuation n) = true := by
  simp only [isContinuation, UInt8.le_iff_toNat_le, toNat_continuation, Bool.and_eq_true,
    decide_eq_true_eq]
  exact ⟨Nat.le_add_right _ _, by simp; omega⟩

@[simp] theorem bits_continuation (n : Nat) : bits (continuation n) = n % 0x40 := by
  rw [bits, toNat_continuation]
  omega

theorem toNat_ofNat_of_valid {n : Nat} (h : n < 0xd800 ∨ 0xdfff < n ∧ n < 0x110000) :
    (Char.ofNat n).toNat = n := by
  rw [Char.ofNat, dif_pos (show n.isValidChar from h)]
  rfl

theorem byte_eq {b : UInt8} {n : Nat} (h : b.toNat = n) : UInt8.ofNat n = b := by
  rw [← h, UInt8.ofNat_toNat]

theorem isContinuation_iff {b : UInt8} :
    isContinuation b = true ↔ 0x80 ≤ b.toNat ∧ b.toNat ≤ 0xbf := by
  simp only [isContinuation, UInt8.le_iff_toNat_le, Bool.and_eq_true, decide_eq_true_eq,
    UInt8.reduceToNat]

/-- A continuation byte is known by its bits. -/
theorem continuation_eq {b : UInt8} {n : Nat} (h : isContinuation b = true)
    (hbits : n % 0x40 = bits b) : continuation n = b := by
  obtain ⟨hlow, hhigh⟩ := isContinuation_iff.mp h
  have hvalue : b.toNat % 0x40 = b.toNat - 0x80 := by omega
  rw [continuation, hbits, bits, hvalue]
  exact byte_eq (by omega)

theorem secondOfThree_iff {first b : UInt8} :
    secondOfThree first b = true ↔ isContinuation b = true ∧
      (first.toNat = 0xe0 → 0x20 ≤ bits b) ∧ (first.toNat = 0xed → bits b < 0x20) := by
  have he0 : first = 0xe0 ↔ first.toNat = 0xe0 := UInt8.toNat_inj.symm
  have hed : first = 0xed ↔ first.toNat = 0xed := UInt8.toNat_inj.symm
  simp only [isContinuation_iff, bits, secondOfThree, he0, hed]
  split
  · simp only [UInt8.le_iff_toNat_le, Bool.and_eq_true, decide_eq_true_eq, UInt8.reduceToNat]
    omega
  split
  · simp only [UInt8.le_iff_toNat_le, Bool.and_eq_true, decide_eq_true_eq, UInt8.reduceToNat]
    omega
  · simp only [isContinuation_iff]
    omega

theorem secondOfFour_iff {first b : UInt8} :
    secondOfFour first b = true ↔ isContinuation b = true ∧
      (first.toNat = 0xf0 → 0x10 ≤ bits b) ∧ (first.toNat = 0xf4 → bits b < 0x10) := by
  have hf0 : first = 0xf0 ↔ first.toNat = 0xf0 := UInt8.toNat_inj.symm
  have hf4 : first = 0xf4 ↔ first.toNat = 0xf4 := UInt8.toNat_inj.symm
  simp only [isContinuation_iff, bits, secondOfFour, hf0, hf4]
  split
  · simp only [UInt8.le_iff_toNat_le, Bool.and_eq_true, decide_eq_true_eq, UInt8.reduceToNat]
    omega
  split
  · simp only [UInt8.le_iff_toNat_le, Bool.and_eq_true, decide_eq_true_eq, UInt8.reduceToNat]
    omega
  · simp only [isContinuation_iff]
    omega

theorem secondOfThree_continuation {first : UInt8} {n : Nat}
    (hlow : first.toNat = 0xe0 → 0x20 ≤ n % 0x40) (hhigh : first.toNat = 0xed → n % 0x40 < 0x20) :
    secondOfThree first (continuation n) = true := by
  rw [secondOfThree_iff, bits_continuation]
  exact ⟨isContinuation_continuation n, hlow, hhigh⟩

theorem secondOfFour_continuation {first : UInt8} {n : Nat}
    (hlow : first.toNat = 0xf0 → 0x10 ≤ n % 0x40) (hhigh : first.toNat = 0xf4 → n % 0x40 < 0x10) :
    secondOfFour first (continuation n) = true := by
  rw [secondOfFour_iff, bits_continuation]
  exact ⟨isContinuation_continuation n, hlow, hhigh⟩

/-! ## Characters -/

theorem takePiece_two {first : UInt8} (hlow : 0xc2 ≤ first.toNat) (hhigh : first.toNat ≤ 0xdf)
    (rest : Bytes) : takePiece first rest = takeTwo first rest := by
  unfold takePiece
  rw [if_neg, if_pos]
  · simp only [UInt8.le_iff_toNat_le]
    exact ⟨hlow, hhigh⟩
  · simp only [UInt8.lt_iff_toNat_lt, UInt8.reduceToNat]
    omega

theorem takePiece_three {first : UInt8} (hlow : 0xe0 ≤ first.toNat) (hhigh : first.toNat ≤ 0xef)
    (rest : Bytes) : takePiece first rest = takeThree first rest := by
  unfold takePiece
  rw [if_neg, if_neg, if_pos]
  · simp only [UInt8.le_iff_toNat_le]
    exact ⟨hlow, hhigh⟩
  · simp only [UInt8.le_iff_toNat_le, UInt8.reduceToNat]
    omega
  · simp only [UInt8.lt_iff_toNat_lt, UInt8.reduceToNat]
    omega

theorem takePiece_four {first : UInt8} (hlow : 0xf0 ≤ first.toNat) (hhigh : first.toNat ≤ 0xf4)
    (rest : Bytes) : takePiece first rest = takeFour first rest := by
  unfold takePiece
  rw [if_neg, if_neg, if_neg, if_pos]
  · simp only [UInt8.le_iff_toNat_le]
    exact ⟨hlow, hhigh⟩
  all_goals
    simp only [UInt8.le_iff_toNat_le, UInt8.lt_iff_toNat_lt, UInt8.reduceToNat]
    omega

theorem takeTwo_continuation (first : UInt8) (n : Nat) (rest : Bytes) :
    takeTwo first (continuation n :: rest) =
      .char (Char.ofNat ((first.toNat - 0xc0) * 0x40 + n % 0x40)) rest := by
  simp [takeTwo]

theorem takeThree_continuation {first : UInt8} {m : Nat} (n : Nat) (rest : Bytes)
    (hsecond : secondOfThree first (continuation m) = true) :
    takeThree first (continuation m :: continuation n :: rest) =
      .char (Char.ofNat ((first.toNat - 0xe0) * 0x1000 + m % 0x40 * 0x40 + n % 0x40)) rest := by
  simp [takeThree, hsecond]

theorem takeFour_continuation {first : UInt8} {l : Nat} (m n : Nat) (rest : Bytes)
    (hsecond : secondOfFour first (continuation l) = true) :
    takeFour first (continuation l :: continuation m :: continuation n :: rest) =
      .char (Char.ofNat ((first.toNat - 0xf0) * 0x40000 + l % 0x40 * 0x1000 + m % 0x40 * 0x40
        + n % 0x40)) rest := by
  simp [takeFour, hsecond]

/-- The bytes of a character are read as this character, whatever follows. -/
theorem takePiece_encodeChar (c : Char) :
    ∃ first tail, encodeChar c = first :: tail ∧
      ∀ rest, takePiece first (tail ++ rest) = .char c rest := by
  -- There are no codes of surrogates, which is what the second byte of three is checked for.
  have hvalid : c.toNat < 0xd800 ∨ 0xdfff < c.toNat ∧ c.toNat < 0x110000 := c.valid
  have hc : Char.ofNat c.toNat = c := Char.ofNat_toNat c
  unfold encodeChar
  simp only
  split
  · refine ⟨_, _, rfl, fun rest => ?_⟩
    have hfirst := toNat_byte (n := c.toNat) (by omega)
    simp only [takePiece, UInt8.lt_iff_toNat_lt, hfirst, hc]
    exact if_pos ‹_›
  split
  · refine ⟨_, _, rfl, fun rest => ?_⟩
    have hfirst := toNat_byte (n := 0xc0 + c.toNat / 0x40) (by omega)
    have hcode : (0xc0 + c.toNat / 0x40 - 0xc0) * 0x40 + c.toNat % 0x40 = c.toNat := by omega
    rw [takePiece_two (by omega) (by omega), List.cons_append, takeTwo_continuation, hfirst, hcode,
      hc, List.nil_append]
  split
  · refine ⟨_, _, rfl, fun rest => ?_⟩
    have hfirst := toNat_byte (n := 0xe0 + c.toNat / 0x1000) (by omega)
    have hcode : (0xe0 + c.toNat / 0x1000 - 0xe0) * 0x1000 + c.toNat / 0x40 % 0x40 * 0x40
        + c.toNat % 0x40 = c.toNat := by omega
    rw [takePiece_three (by omega) (by omega), List.cons_append, List.cons_append,
      takeThree_continuation _ _ (secondOfThree_continuation (by omega) (by omega)), hfirst, hcode,
      hc, List.nil_append]
  · refine ⟨_, _, rfl, fun rest => ?_⟩
    have hfirst := toNat_byte (n := 0xf0 + c.toNat / 0x40000) (by omega)
    have hcode : (0xf0 + c.toNat / 0x40000 - 0xf0) * 0x40000 + c.toNat / 0x1000 % 0x40 * 0x1000
        + c.toNat / 0x40 % 0x40 * 0x40 + c.toNat % 0x40 = c.toNat := by omega
    rw [takePiece_four (by omega) (by omega), List.cons_append, List.cons_append, List.cons_append,
      takeFour_continuation _ _ _ (secondOfFour_continuation (by omega) (by omega)), hfirst, hcode,
      hc, List.nil_append]

/-! ## Texts -/

theorem length_encodeChar_pos (c : Char) : 0 < (encodeChar c).length := by
  obtain ⟨first, tail, h, -⟩ := takePiece_encodeChar c
  simp [h]

/-- Decoding from any place and with any fuel that suffices gives the text back. -/
theorem decodeFrom_encode (cs : List Char) {fuel : Nat} (index : Nat)
    (hfuel : cs.length ≤ fuel) : decodeFrom fuel index (encode cs) = .ok cs := by
  induction cs generalizing fuel index with
  | nil => cases fuel <;> rfl
  | cons c cs ih =>
    obtain ⟨first, tail, hchar, htake⟩ := takePiece_encodeChar c
    obtain ⟨fuel, rfl⟩ : ∃ n, fuel = n + 1 := ⟨fuel - 1, by simp at hfuel; omega⟩
    have hbytes : encode (c :: cs) = first :: (tail ++ encode cs) := by simp [encode, hchar]
    simp only [hbytes, decodeFrom, htake, ih _ (Nat.le_of_succ_le_succ hfuel)]
    rfl

theorem length_le_length_encode (cs : List Char) : cs.length ≤ (encode cs).length := by
  induction cs with
  | nil => exact Nat.le_refl 0
  | cons c cs ih =>
    have hc := length_encodeChar_pos c
    simp only [encode, List.flatMap_cons, List.length_append, List.length_cons] at ih ⊢
    omega

/-- What was encoded is read back. -/
@[simp] theorem decode_encode (cs : List Char) : decode (encode cs) = .ok cs :=
  decodeFrom_encode cs 0 (length_le_length_encode cs)

/-! ## Decoded bytes -/

section Pieces

variable {first : UInt8} {bytes rest : Bytes} {c : Char}

/-- The bytes of a character whose code is built from a first byte and some bits. -/
theorem encodeChar_two (hlow : 0xc2 ≤ first.toNat) (hhigh : first.toNat ≤ 0xdf) {b : UInt8}
    (hb : isContinuation b = true) :
    encodeChar (Char.ofNat ((first.toNat - 0xc0) * 0x40 + bits b)) = [first, b] := by
  have hbits : bits b < 0x40 := Nat.mod_lt _ (by decide)
  rw [encodeChar, toNat_ofNat_of_valid (by omega), if_neg (by omega), if_pos (by omega),
    byte_eq (b := first) (by omega), continuation_eq hb (by omega)]

theorem encodeChar_three (hlow : 0xe0 ≤ first.toNat) (hhigh : first.toNat ≤ 0xef) {b d : UInt8}
    (hb : secondOfThree first b = true) (hd : isContinuation d = true) :
    encodeChar (Char.ofNat ((first.toNat - 0xe0) * 0x1000 + bits b * 0x40 + bits d)) =
      [first, b, d] := by
  obtain ⟨hb, he0, hed⟩ := secondOfThree_iff.mp hb
  have hbits : bits b < 0x40 := Nat.mod_lt _ (by decide)
  have hbits' : bits d < 0x40 := Nat.mod_lt _ (by decide)
  rw [encodeChar, toNat_ofNat_of_valid (by omega), if_neg (by omega), if_neg (by omega),
    if_pos (by omega), byte_eq (b := first) (by omega), continuation_eq hb (by omega),
    continuation_eq hd (by omega)]

theorem encodeChar_four (hlow : 0xf0 ≤ first.toNat) (hhigh : first.toNat ≤ 0xf4) {b d e : UInt8}
    (hb : secondOfFour first b = true) (hd : isContinuation d = true)
    (he : isContinuation e = true) :
    encodeChar (Char.ofNat ((first.toNat - 0xf0) * 0x40000 + bits b * 0x1000 + bits d * 0x40
      + bits e)) = [first, b, d, e] := by
  obtain ⟨hb, hf0, hf4⟩ := secondOfFour_iff.mp hb
  have hbits : bits b < 0x40 := Nat.mod_lt _ (by decide)
  have hbits' : bits d < 0x40 := Nat.mod_lt _ (by decide)
  have hbits'' : bits e < 0x40 := Nat.mod_lt _ (by decide)
  rw [encodeChar, toNat_ofNat_of_valid (by omega), if_neg (by omega), if_neg (by omega),
    if_neg (by omega), byte_eq (b := first) (by omega), continuation_eq hb (by omega),
    continuation_eq hd (by omega), continuation_eq he (by omega)]

theorem takeTwo_eq_char (h : takeTwo first bytes = .char c rest) :
    ∃ b, bytes = b :: rest ∧ isContinuation b = true ∧
      c = Char.ofNat ((first.toNat - 0xc0) * 0x40 + bits b) := by
  unfold takeTwo at h
  split at h
  · cases h
  split at h <;> cases h
  exact ⟨_, rfl, ‹_›, rfl⟩

theorem takeThree_eq_char (h : takeThree first bytes = .char c rest) :
    ∃ b d, bytes = b :: d :: rest ∧ secondOfThree first b = true ∧ isContinuation d = true ∧
      c = Char.ofNat ((first.toNat - 0xe0) * 0x1000 + bits b * 0x40 + bits d) := by
  unfold takeThree at h
  split at h
  · cases h
  split at h
  · split at h
    · cases h
    split at h <;> cases h
    exact ⟨_, _, rfl, ‹_›, ‹_›, rfl⟩
  · cases h

theorem takeFour_eq_char (h : takeFour first bytes = .char c rest) :
    ∃ b d e, bytes = b :: d :: e :: rest ∧ secondOfFour first b = true ∧
      isContinuation d = true ∧ isContinuation e = true ∧
      c = Char.ofNat ((first.toNat - 0xf0) * 0x40000 + bits b * 0x1000 + bits d * 0x40
        + bits e) := by
  unfold takeFour at h
  split at h
  · cases h
  split at h
  · split at h
    · cases h
    split at h
    · split at h
      · cases h
      split at h <;> cases h
      exact ⟨_, _, _, rfl, ‹_›, ‹_›, ‹_›, rfl⟩
    · cases h
  · cases h

/-- What is taken for a character are the bytes of this character. -/
theorem eq_encodeChar_of_takePiece (h : takePiece first bytes = .char c rest) :
    first :: bytes = encodeChar c ++ rest := by
  unfold takePiece at h
  simp only [UInt8.le_iff_toNat_le, UInt8.lt_iff_toNat_lt, UInt8.reduceToNat] at h
  split at h
  · rename_i hfirst
    cases h
    rw [encodeChar, toNat_ofNat_of_valid (by omega), if_pos hfirst, UInt8.ofNat_toNat]
    rfl
  split at h
  · rename_i hfirst
    obtain ⟨b, rfl, hb, rfl⟩ := takeTwo_eq_char h
    rw [encodeChar_two hfirst.1 hfirst.2 hb]
    rfl
  split at h
  · rename_i hfirst
    obtain ⟨b, d, rfl, hb, hd, rfl⟩ := takeThree_eq_char h
    rw [encodeChar_three hfirst.1 hfirst.2 hb hd]
    rfl
  split at h
  · rename_i hfirst
    obtain ⟨b, d, e, rfl, hb, hd, he, rfl⟩ := takeFour_eq_char h
    rw [encodeChar_four hfirst.1 hfirst.2 hb hd he]
    rfl
  · cases h

end Pieces

theorem eq_encode_of_decodeFrom {fuel : Nat} (index : Nat) {bytes : Bytes} {text : List Char}
    (hfuel : bytes.length ≤ fuel) (h : decodeFrom fuel index bytes = .ok text) :
    bytes = encode text := by
  induction fuel generalizing index bytes text with
  | zero =>
    obtain rfl := List.length_eq_zero_iff.mp (Nat.le_zero.mp hfuel)
    cases h
    rfl
  | succ fuel ih =>
    cases bytes with
    | nil =>
      cases h
      rfl
    | cons first bytes =>
      unfold decodeFrom at h
      split at h
      · rename_i c rest hpiece
        have hbytes := eq_encodeChar_of_takePiece hpiece
        have hlength := congrArg List.length hbytes
        have hpos := length_encodeChar_pos c
        simp only [List.length_cons, List.length_append] at hlength hfuel
        cases hrest : decodeFrom fuel (index + c.utf8Size) rest with
        | error fault =>
          rw [hrest] at h
          cases h
        | ok text =>
          rw [hrest] at h
          cases h
          rw [hbytes, ih _ (by omega) hrest]
          rfl
      · cases h
      · cases h

/-- Bytes are read as a text if they are its bytes. -/
theorem decode_eq_ok_iff {bytes : Bytes} {text : List Char} :
    decode bytes = .ok text ↔ bytes = encode text := by
  constructor
  · exact eq_encode_of_decodeFrom 0 (Nat.le_refl _)
  · rintro rfl
    exact decode_encode text

/-- Bytes are refused if they are those of no text. -/
theorem exists_decode_eq_error_iff {bytes : Bytes} :
    (∃ fault, decode bytes = .error fault) ↔ ∀ text, bytes ≠ encode text := by
  simp only [← decode_eq_ok_iff, ne_eq]
  cases decode bytes <;> simp

end ClusterAudit.Utf8
