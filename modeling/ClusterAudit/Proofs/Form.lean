-- SUMMARY: A form can be read back.
import ClusterAudit.Proofs.Utf8
import ClusterAudit.Web.Form

/-!
# Reading forms back

What is written in a form are letters, digits and marks that mean nothing else, plus
signs, and percent signs with two digits. So the marks between the names and the values
stand out, and every name and value is read as the bytes of its text:
`formDecode_formEncode`.
-/

namespace ClusterAudit.Web

open ClusterAudit.Text

/-! ## Percent signs -/

theorem hexValue?_upperHexDigit : ∀ n < 16, hexValue? (upperHexDigit n) = some n := by decide

theorem percentDecode_cons {c : Char} (h : c ≠ '%') (rest : List Char) :
    percentDecode (c :: rest) = Utf8.encodeChar c ++ percentDecode rest := by
  rw [percentDecode]
  intro a b tail hc
  exact absurd hc h

/-- A byte that is written with a percent sign is read as this byte. -/
theorem percentDecode_percentByte (b : UInt8) (rest : List Char) :
    percentDecode (percentByte b ++ rest) = b :: percentDecode rest := by
  have hb := b.toNat_lt
  have hvalue : b.toNat / 16 * 16 + b.toNat % 16 = b.toNat := by omega
  simp only [percentByte, List.cons_append, List.nil_append, percentDecode,
    hexValue?_upperHexDigit _ (show b.toNat / 16 < 16 by omega),
    hexValue?_upperHexDigit _ (show b.toNat % 16 < 16 by omega), hvalue, UInt8.ofNat_toNat]

theorem percentDecode_percentBytes (bytes : Utf8.Bytes) (rest : List Char) :
    percentDecode (bytes.flatMap percentByte ++ rest) = bytes ++ percentDecode rest := by
  induction bytes with
  | nil => rfl
  | cons b bytes ih =>
    rw [List.flatMap_cons, List.append_assoc, percentDecode_percentByte, ih, List.cons_append]

/-! ## Characters -/

theorem isFormPlain_upperHexDigit : ∀ n < 16, isFormPlain (upperHexDigit n) = true := by decide

/-- A character that is no plus sign, no mark of a form, and stands for itself. -/
theorem isFormPlain_ne {c mark : Char} (h : isFormPlain c = true)
    (hmark : isFormPlain mark = false) : c ≠ mark := by
  rintro rfl
  simp [h] at hmark

/-- A percent sign and two digits. -/
theorem mem_percentByte {b : UInt8} {c : Char} (h : c ∈ percentByte b) :
    c = '%' ∨ isFormPlain c = true := by
  have hb := b.toNat_lt
  simp only [percentByte, List.mem_cons, List.not_mem_nil, or_false] at h
  obtain rfl | rfl | rfl := h
  · exact .inl rfl
  · exact .inr (isFormPlain_upperHexDigit _ (by omega))
  · exact .inr (isFormPlain_upperHexDigit _ (by omega))

theorem mem_formChar {c d : Char} (h : d ∈ formChar c) :
    d = '+' ∨ d = '%' ∨ isFormPlain d = true := by
  unfold formChar percentChar at h
  split at h
  · exact .inl (List.mem_singleton.mp h)
  split at h
  · rename_i hplain
    obtain rfl := List.mem_singleton.mp h
    simp only [Bool.not_not, Bool.and_eq_true] at hplain
    exact .inr (.inr hplain.2)
  · obtain ⟨b, -, hb⟩ := List.mem_flatMap.mp h
    exact .inr (mem_percentByte hb)

/-- A mark that is neither written for a space nor in front of digits, and does not stand for
itself, does not occur in what is written. -/
theorem not_mem_formText {mark : Char} (hplain : isFormPlain mark = false) (hplus : mark ≠ '+')
    (hpercent : mark ≠ '%') (cs : List Char) : mark ∉ formText cs := by
  intro h
  obtain ⟨c, -, hc⟩ := List.mem_flatMap.mp h
  obtain rfl | rfl | hmark := mem_formChar hc
  · exact hplus rfl
  · exact hpercent rfl
  · simp [hplain] at hmark

/-! ## Texts -/

/-- A plus sign is read as a space. -/
def plusToSpace (cs : List Char) : List Char := cs.map fun c => if c = '+' then ' ' else c

theorem formBytes_eq (cs : List Char) : formBytes cs = percentDecode (plusToSpace cs) := rfl

theorem plusToSpace_append (cs ds : List Char) :
    plusToSpace (cs ++ ds) = plusToSpace cs ++ plusToSpace ds := List.map_append

theorem plusToSpace_percentBytes (bytes : Utf8.Bytes) :
    plusToSpace (bytes.flatMap percentByte) = bytes.flatMap percentByte := by
  refine (List.map_congr_left fun c hc => ?_).trans (List.map_id _)
  obtain ⟨b, -, hb⟩ := List.mem_flatMap.mp hc
  refine if_neg ?_
  obtain rfl | hplain := mem_percentByte hb
  · decide
  · exact isFormPlain_ne hplain (by decide)

/-- What is written for a character is read as its bytes. -/
theorem percentDecode_formChar (c : Char) (rest : List Char) :
    percentDecode (plusToSpace (formChar c) ++ rest) = Utf8.encodeChar c ++ percentDecode rest := by
  unfold formChar percentChar
  split
  · rename_i hspace
    subst hspace
    exact percentDecode_cons (by decide) rest
  split
  · rename_i hplain
    simp only [Bool.not_not, Bool.and_eq_true] at hplain
    have hplus : c ≠ '+' := isFormPlain_ne hplain.2 (by decide)
    simp only [plusToSpace, List.map_cons, List.map_nil, if_neg hplus, List.cons_append,
      List.nil_append]
    exact percentDecode_cons (isFormPlain_ne hplain.2 (by decide)) rest
  · rw [plusToSpace_percentBytes, percentDecode_percentBytes]

/-- What is written for a text is read as its bytes. -/
theorem formBytes_formText (cs : List Char) : formBytes (formText cs) = Utf8.encode cs := by
  rw [formBytes_eq]
  induction cs with
  | nil => rfl
  | cons c cs ih =>
    calc percentDecode (plusToSpace (formText (c :: cs)))
        = percentDecode (plusToSpace (formChar c) ++ plusToSpace (formText cs)) := by
          rw [← plusToSpace_append]
          rfl
      _ = Utf8.encodeChar c ++ Utf8.encode cs := by rw [percentDecode_formChar, ih]
      _ = Utf8.encode (c :: cs) := rfl

/-! ## Pairs -/

theorem splitOnce_append {mark : Char} {front : List Char} (h : mark ∉ front) (back : List Char) :
    splitOnce mark (front ++ mark :: back) = (front, back) := by
  have hfront : ∀ c ∈ front, (c != mark) = true := by
    intro c hc
    rw [bne_iff_ne]
    rintro rfl
    exact h hc
  rw [splitOnce, List.takeWhile_append_of_pos hfront, List.dropWhile_append_of_pos hfront]
  simp

theorem splitAtChar_of_not_mem {mark : Char} {cs : List Char} (h : mark ∉ cs) :
    splitAtChar mark cs = [cs] := by
  induction cs with
  | nil => rfl
  | cons c cs ih =>
    obtain ⟨hc, hcs⟩ := not_or.mp (List.mem_cons.not.mp h)
    have hrest := ih hcs
    unfold splitAtChar at hrest ⊢
    rw [List.foldr_cons, hrest, if_neg (Ne.symm hc)]

theorem splitAtChar_append {mark : Char} {front : List Char} (h : mark ∉ front)
    (back : List Char) :
    splitAtChar mark (front ++ mark :: back) = front :: splitAtChar mark back := by
  induction front with
  | nil => simp [splitAtChar]
  | cons c front ih =>
    obtain ⟨hc, hfront⟩ := not_or.mp (List.mem_cons.not.mp h)
    have hrest := ih hfront
    unfold splitAtChar at hrest ⊢
    rw [List.cons_append, List.foldr_cons, hrest, if_neg (Ne.symm hc)]

/-- Parts that are joined by a mark which none of them holds come apart again. -/
theorem splitAtChar_intercalate {mark : Char} {parts : List (List Char)} (hparts : parts ≠ [])
    (h : ∀ part ∈ parts, mark ∉ part) :
    splitAtChar mark (List.intercalate [mark] parts) = parts := by
  induction parts with
  | nil => exact absurd rfl hparts
  | cons part rest ih =>
    obtain ⟨hpart, hrest⟩ := List.forall_mem_cons.mp h
    cases rest with
    | nil => simpa using splitAtChar_of_not_mem hpart
    | cons next rest =>
      have hjoin : List.intercalate [mark] (part :: next :: rest) =
          part ++ mark :: List.intercalate [mark] (next :: rest) := by simp [List.intercalate]
      rw [hjoin, splitAtChar_append hpart, ih (List.cons_ne_nil _ _) hrest]

theorem not_mem_formPair (pair : String × String) : '&' ∉ formPair pair := by
  unfold formPair
  simp only [List.mem_append, List.mem_cons, not_or]
  exact ⟨not_mem_formText (by decide) (by decide) (by decide) _, by decide,
    not_mem_formText (by decide) (by decide) (by decide) _⟩

/-- The bytes of a pair's texts. -/
def pairBytes (pair : String × String) : Utf8.Bytes × Utf8.Bytes :=
  (Utf8.encode pair.1.toList, Utf8.encode pair.2.toList)

/-- A form is read as the pairs of which it was made, in their order. -/
theorem formDecode_formEncode (pairs : List (String × String)) :
    formDecode (formEncode pairs).toList = pairs.map pairBytes := by
  have hread (pair : String × String) :
      (formBytes (splitOnce '=' (formPair pair)).1, formBytes (splitOnce '=' (formPair pair)).2) =
        pairBytes pair := by
    have hname : '=' ∉ formText pair.1.toList :=
      not_mem_formText (by decide) (by decide) (by decide) _
    rw [formPair, splitOnce_append hname]
    simp only [formBytes_formText, pairBytes]
  obtain rfl | hpairs := eq_or_ne pairs []
  · rfl
  have hparts : ∀ part ∈ pairs.map formPair, '&' ∉ part :=
    List.forall_mem_map.mpr fun pair _ => not_mem_formPair pair
  have hsplit := splitAtChar_intercalate (List.map_eq_nil_iff.not.mpr hpairs) hparts
  have hnonempty : (pairs.map formPair).filter (· != []) = pairs.map formPair := by
    refine List.filter_eq_self.mpr (List.forall_mem_map.mpr fun pair _ => ?_)
    simp [formPair]
  rw [formEncode, String.toList_ofList, formDecode, hsplit, hnonempty, List.map_map]
  exact List.map_congr_left fun pair _ => hread pair

end ClusterAudit.Web
