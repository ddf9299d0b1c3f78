-- SUMMARY: Base64 can be read back.
import ClusterAudit.Proofs.Utf8
import ClusterAudit.Text.Base64
import Mathlib.Tactic.Common

/-!
# Reading base64 back

Encoding and decoding go by groups of three bytes and four symbols, so what was encoded
is read back group by group: `decode_encode`. The last group, which may hold padding, is
read by itself.
-/

namespace ClusterAudit.Base64

/-! ## Symbols -/

theorem symbolValue?_symbol : ∀ n < 64, symbolValue? (symbol n) = some n := by decide

theorem symbol_ne_padding : ∀ n < 64, symbol n ≠ padding := by decide

theorem valueAt_symbol (index : Nat) {n : Nat} (h : n < 64) : valueAt index (symbol n) = .ok n := by
  simp [valueAt, symbolValue?_symbol n h]

/-! ## Groups -/

/-- The three bytes that the values of four symbols make. -/
def groupBytes (k l m n : Nat) : Bytes :=
  [UInt8.ofNat (k * 4 + l / 16), UInt8.ofNat (l % 16 * 16 + m / 4), UInt8.ofNat (m % 4 * 64 + n)]

theorem groupBytes_values (a b c : UInt8) :
    groupBytes (a.toNat / 4) (a.toNat % 4 * 16 + b.toNat / 16) (b.toNat % 16 * 4 + c.toNat / 64)
      (c.toNat % 64) = [a, b, c] := by
  have ha := a.toNat_lt
  have hb := b.toNat_lt
  have hc := c.toNat_lt
  have hfirst : a.toNat / 4 * 4 + (a.toNat % 4 * 16 + b.toNat / 16) / 16 = a.toNat := by omega
  have hsecond : (a.toNat % 4 * 16 + b.toNat / 16) % 16 * 16
      + (b.toNat % 16 * 4 + c.toNat / 64) / 4 = b.toNat := by omega
  have hthird : (b.toNat % 16 * 4 + c.toNat / 64) % 4 * 64 + c.toNat % 64 = c.toNat := by omega
  simp only [groupBytes, hfirst, hsecond, hthird, UInt8.ofNat_toNat]

/-- A group that others follow is read by itself. -/
theorem decodeFrom_group (index : Nat) {k l m n : Nat} (hk : k < 64) (hl : l < 64) (hm : m < 64)
    (hn : n < 64) {rest : Bytes} (hrest : rest ≠ []) :
    decodeFrom index (symbol k :: symbol l :: symbol m :: symbol n :: rest) =
      (decodeFrom (index + 4) rest).map (groupBytes k l m n ++ ·) := by
  obtain ⟨e, rest, rfl⟩ := List.exists_cons_of_ne_nil hrest
  simp only [decodeFrom, valueAt_symbol _ hk, valueAt_symbol _ hl, valueAt_symbol _ hm,
    valueAt_symbol _ hn, bind, Except.bind]
  cases decodeFrom (index + 4) (e :: rest) <;> rfl

theorem decodeFrom_last (index : Nat) (p q r s : UInt8) :
    decodeFrom index [p, q, r, s] =
      (readGroup index 0 {} [p, q, r, s]).bind (finishGroup index) := rfl

/-- A symbol before the padding adds its value. -/
theorem readGroup_symbol (start offset : Nat) {group : Group} {n : Nat} (rest : Bytes)
    (h : n < 64) (hpaddings : group.paddings = 0) :
    readGroup start offset group (symbol n :: rest) =
      readGroup start (offset + 1)
        { group with values := group.values ++ [n], last := symbol n } rest := by
  rw [readGroup, if_neg (symbol_ne_padding n h), if_neg (by omega), valueAt_symbol _ h]
  rfl

theorem finishGroup_two (start : Nat) {k l : Nat} (last : UInt8) (paddingAt : Nat)
    (hunused : l % 16 = 0) :
    finishGroup start ⟨[k, l], last, paddingAt, 2⟩ = .ok [UInt8.ofNat (k * 4 + l / 16)] := by
  simp [finishGroup, hunused]

theorem finishGroup_three (start : Nat) {k l m : Nat} (last : UInt8) (paddingAt : Nat)
    (hunused : m % 4 = 0) :
    finishGroup start ⟨[k, l, m], last, paddingAt, 1⟩ =
      .ok [UInt8.ofNat (k * 4 + l / 16), UInt8.ofNat (l % 16 * 16 + m / 4)] := by
  simp [finishGroup, hunused]

theorem finishGroup_four (start k l m n : Nat) (last : UInt8) (paddingAt : Nat) :
    finishGroup start ⟨[k, l, m, n], last, paddingAt, 0⟩ = .ok (groupBytes k l m n) := by
  simp [finishGroup, groupBytes]

theorem decodeFrom_encode_one (index : Nat) (a : UInt8) :
    decodeFrom index (encode [a]) = .ok [a] := by
  have ha := a.toNat_lt
  have hbyte : a.toNat / 4 * 4 + a.toNat % 4 * 16 / 16 = a.toNat := by omega
  rw [encode, decodeFrom_last, readGroup_symbol _ _ _ (by omega) rfl,
    readGroup_symbol _ _ _ (by omega) rfl]
  exact (finishGroup_two index _ _ (by omega)).trans (by rw [hbyte, UInt8.ofNat_toNat])

theorem decodeFrom_encode_two (index : Nat) (a b : UInt8) :
    decodeFrom index (encode [a, b]) = .ok [a, b] := by
  have ha := a.toNat_lt
  have hb := b.toNat_lt
  have hfirst : a.toNat / 4 * 4 + (a.toNat % 4 * 16 + b.toNat / 16) / 16 = a.toNat := by omega
  have hsecond : (a.toNat % 4 * 16 + b.toNat / 16) % 16 * 16 + b.toNat % 16 * 4 / 4 = b.toNat := by
    omega
  rw [encode, decodeFrom_last, readGroup_symbol _ _ _ (by omega) rfl,
    readGroup_symbol _ _ _ (by omega) rfl, readGroup_symbol _ _ _ (by omega) rfl]
  exact (finishGroup_three index _ _ (by omega)).trans
    (by rw [hfirst, hsecond, UInt8.ofNat_toNat, UInt8.ofNat_toNat])

theorem decodeFrom_encode_three (index : Nat) (a b c : UInt8) :
    decodeFrom index (encode [a, b, c]) = .ok [a, b, c] := by
  have ha := a.toNat_lt
  have hb := b.toNat_lt
  have hc := c.toNat_lt
  rw [encode, encode, decodeFrom_last, readGroup_symbol _ _ _ (by omega) rfl,
    readGroup_symbol _ _ _ (by omega) rfl, readGroup_symbol _ _ _ (by omega) rfl,
    readGroup_symbol _ _ _ (by omega) rfl]
  exact (finishGroup_four index _ _ _ _ _ _).trans (congrArg Except.ok (groupBytes_values a b c))

/-! ## Sequences -/

theorem encode_ne_nil {bytes : Bytes} (h : bytes ≠ []) : encode bytes ≠ [] := by
  match bytes, h with
  | [_], _ | [_, _], _ | _ :: _ :: _ :: _, _ => exact List.cons_ne_nil _ _

theorem length_encode_mod_four (bytes : Bytes) : (encode bytes).length % 4 = 0 := by
  induction bytes using encode.induct with
  | case1 | case2 | case3 => simp [encode]
  | case4 a b c rest ih =>
    simp only [encode, List.length_cons]
    omega

theorem decodeFrom_encode (bytes : Bytes) (index : Nat) :
    decodeFrom index (encode bytes) = .ok bytes := by
  induction bytes using encode.induct generalizing index with
  | case1 => rfl
  | case2 a => exact decodeFrom_encode_one index a
  | case3 a b => exact decodeFrom_encode_two index a b
  | case4 a b c rest ih =>
    have ha := a.toNat_lt
    have hb := b.toNat_lt
    have hc := c.toNat_lt
    by_cases hrest : rest = []
    · subst hrest
      exact decodeFrom_encode_three index a b c
    · rw [encode, decodeFrom_group index (by omega) (by omega) (by omega) (by omega)
        (encode_ne_nil hrest), ih, groupBytes_values]
      rfl

/-- What was encoded is read back. -/
@[simp] theorem decode_encode (bytes : Bytes) : decode (encode bytes) = .ok bytes := by
  have hlength := length_encode_mod_four bytes
  have hstray : strayEnd? (encode bytes) = none := if_neg (by omega)
  rw [decode, hstray]
  exact decodeFrom_encode bytes 0

/-! ## Texts -/

def text (bytes : Bytes) : String :=
  String.ofList ((encode bytes).map fun b => Char.ofNat b.toNat)

theorem symbol_lt (n : Nat) : (symbol n).toNat < 0x80 := by
  unfold symbol
  split
  · rw [UInt8.toNat_ofNat']
    omega
  split
  · rw [UInt8.toNat_ofNat']
    omega
  split
  · rw [UInt8.toNat_ofNat']
    omega
  split <;> decide

/-- Symbols and padding are ASCII. -/
theorem encode_lt (bytes : Bytes) : ∀ b ∈ encode bytes, b.toNat < 0x80 := by
  have hpadding : padding.toNat < 0x80 := by decide
  induction bytes using encode.induct with
  | case1 => simp [encode]
  | case2 a => simp [encode, symbol_lt, hpadding]
  | case3 a b => simp [encode, symbol_lt, hpadding]
  | case4 a b c rest ih =>
    simp only [encode, List.forall_mem_cons]
    exact ⟨symbol_lt _, symbol_lt _, symbol_lt _, symbol_lt _, ih⟩

theorem utf8_ascii {bytes : Bytes} (h : ∀ b ∈ bytes, b.toNat < 0x80) :
    Utf8.encode (bytes.map fun b => Char.ofNat b.toNat) = bytes := by
  induction bytes with
  | nil => rfl
  | cons b bytes ih =>
    obtain ⟨hb, hbytes⟩ := List.forall_mem_cons.mp h
    have hcode : (Char.ofNat b.toNat).toNat = b.toNat := Utf8.toNat_ofNat_of_valid (by omega)
    have hchar : Utf8.encodeChar (Char.ofNat b.toNat) = [b] := by
      simp only [Utf8.encodeChar, hcode, if_pos hb, UInt8.ofNat_toNat]
    rw [Utf8.encode] at ih ⊢
    rw [List.map_cons, List.flatMap_cons, hchar, ih hbytes, List.singleton_append]

/-- The bytes of a text of symbols are the symbols. -/
theorem utf8_text (bytes : Bytes) : Utf8.encode (text bytes).toList = encode bytes := by
  rw [text, String.toList_ofList, utf8_ascii (encode_lt bytes)]

end ClusterAudit.Base64
