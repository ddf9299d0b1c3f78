-- SUMMARY: Markers are found whatever the case of the ASCII letters, in them and in the texts.
import ClusterAudit.Check.Storage
import ClusterAudit.Proofs.Utf8
import ClusterAudit.Proofs.Workers
import Mathlib.Data.List.Forall2

/-!
# The case of letters

A marker is looked for after it and the text have been put in lower case. That an ASCII letter of
either case becomes the same small letter is not all there is to it: what becomes of a capital sigma
depends on the characters around it. Of these it is only asked whether they have a case and whether
they are passed over, and a letter gives the same answers in both cases. So texts that differ only
in the case of ASCII letters have one lower-case form, and the checks that look for markers come to
the same outcome on them.
-/

namespace ClusterAudit

variable {σ : Type}

namespace Text

/-! ## Texts in another case -/

/-- The characters are the same, or one ASCII letter in its two cases. -/
def CaseTwins (c d : Char) : Prop :=
  c = d ∨ c.isAlpha = true ∧ d.isAlpha = true ∧ c.toLower = d.toLower

instance : DecidableRel CaseTwins := fun c d =>
  inferInstanceAs (Decidable (c = d ∨ c.isAlpha = true ∧ d.isAlpha = true ∧ c.toLower = d.toLower))

/-- The texts have the same length and differ in nothing but the case of ASCII letters. -/
def Recased (text text' : String) : Prop := List.Forall₂ CaseTwins text.toList text'.toList

instance : DecidableRel Recased := fun text text' =>
  inferInstanceAs (Decidable (List.Forall₂ CaseTwins text.toList text'.toList))

theorem CaseTwins.refl (c : Char) : CaseTwins c c := .inl rfl

theorem Recased.refl (text : String) : Recased text text :=
  List.forall₂_same.mpr fun c _ => CaseTwins.refl c

theorem Recased.append {front front' rest rest' : String} (hfront : Recased front front')
    (hrest : Recased rest rest') : Recased (front ++ rest) (front' ++ rest') := by
  simp only [Recased, String.toList_append]
  exact List.rel_append hfront hrest

/-! ## Letters -/

variable {c d : Char}

theorem isUpper_iff : c.isUpper = true ↔ 0x41 ≤ c.toNat ∧ c.toNat ≤ 0x5A := by
  have hrange : c.isUpper = decide (0x41 ≤ c.val ∧ c.val ≤ 0x5A) := rfl
  rw [hrange, decide_eq_true_iff, UInt32.le_iff_toNat_le, UInt32.le_iff_toNat_le]
  rfl

theorem isLower_iff : c.isLower = true ↔ 0x61 ≤ c.toNat ∧ c.toNat ≤ 0x7A := by
  have hrange : c.isLower = (decide (0x61 ≤ c.val) && decide (c.val ≤ 0x7A)) := rfl
  rw [hrange, Bool.and_eq_true, decide_eq_true_iff, decide_eq_true_iff, UInt32.le_iff_toNat_le,
    UInt32.le_iff_toNat_le]
  rfl

theorem isAscii_of_isAlpha (h : c.isAlpha = true) : isAscii c = true := by
  have heither : c.isAlpha = (c.isUpper || c.isLower) := rfl
  rw [heither, Bool.or_eq_true, isUpper_iff, isLower_iff] at h
  exact decide_eq_true (show c.toNat < 0x80 by omega)

theorem isCased_of_isAlpha (h : c.isAlpha = true) : isCased c = true := by
  rw [isCased, if_pos (isAscii_of_isAlpha h), h]

/-- No ASCII letter is passed over. -/
theorem isCaseIgnorable_of_isAlpha (h : c.isAlpha = true) : isCaseIgnorable c = false := by
  rw [isCaseIgnorable, if_pos (isAscii_of_isAlpha h)]
  simp only [Bool.or_eq_false_iff, beq_eq_false_iff_ne]
  -- The five ASCII characters that are passed over are no letters.
  refine ⟨⟨⟨⟨?_, ?_⟩, ?_⟩, ?_⟩, ?_⟩
  all_goals
    rintro rfl
    exact absurd h (by decide)

theorem asciiLower_eq_toLower (c : Char) : asciiLower c = c.toLower := by
  unfold asciiLower Char.toLower
  by_cases h : c.isUpper = true
  · obtain ⟨hlow, hhigh⟩ := isUpper_iff.mp h
    rw [if_pos h, dif_pos (of_decide_eq_true h)]
    refine Char.toNat_inj.mp ?_
    have hsmall : (c.val + ('a'.val - 'A'.val)).toNat = c.toNat + 0x20 := by
      rw [UInt32.toNat_add]
      exact Nat.mod_eq_of_lt (show c.toNat + 0x20 < 2 ^ 32 by omega)
    exact (Utf8.toNat_ofNat_of_valid (by omega)).trans hsmall.symm
  · rw [if_neg h, dif_neg fun hrange => h (decide_eq_true hrange)]

theorem ne_capitalSigma_of_isAlpha (h : c.isAlpha = true) : c ≠ capitalSigma := by
  rintro rfl
  exact absurd h (by decide)

namespace CaseTwins

theorem isCased_eq (h : CaseTwins c d) : isCased c = isCased d := by
  rcases h with rfl | ⟨hc, hd, -⟩
  · rfl
  · rw [isCased_of_isAlpha hc, isCased_of_isAlpha hd]

theorem isCaseIgnorable_eq (h : CaseTwins c d) : isCaseIgnorable c = isCaseIgnorable d := by
  rcases h with rfl | ⟨hc, hd, -⟩
  · rfl
  · rw [isCaseIgnorable_of_isAlpha hc, isCaseIgnorable_of_isAlpha hd]

theorem eq_capitalSigma_iff (h : CaseTwins c d) : c = capitalSigma ↔ d = capitalSigma := by
  rcases h with rfl | ⟨hc, hd, -⟩
  · rfl
  · exact iff_of_false (ne_capitalSigma_of_isAlpha hc) (ne_capitalSigma_of_isAlpha hd)

theorem lowerChar_eq (h : CaseTwins c d) : lowerChar c = lowerChar d := by
  rcases h with rfl | ⟨hc, hd, hlower⟩
  · rfl
  · rw [lowerChar, if_pos (isAscii_of_isAlpha hc), lowerChar, if_pos (isAscii_of_isAlpha hd),
      asciiLower_eq_toLower, asciiLower_eq_toLower, hlower]

end CaseTwins

/-! ## Lower case -/

variable {before before' cs cs' : List Char}

/-- The first character decides, unless it is passed over. -/
theorem meetsCased_cons (c : Char) (cs : List Char) :
    meetsCased (c :: cs) = if isCaseIgnorable c then meetsCased cs else isCased c := by
  by_cases hpassed : isCaseIgnorable c = true <;> simp [meetsCased, hpassed]

theorem meetsCased_eq_of_twins (h : List.Forall₂ CaseTwins cs cs') :
    meetsCased cs = meetsCased cs' := by
  induction h with
  | nil => rfl
  | cons hc _ ih => rw [meetsCased_cons, meetsCased_cons, hc.isCaseIgnorable_eq, hc.isCased_eq, ih]

theorem smallSigma_eq_of_twins (hbefore : List.Forall₂ CaseTwins before before')
    (h : List.Forall₂ CaseTwins cs cs') : smallSigma before cs = smallSigma before' cs' := by
  rw [smallSigma, smallSigma, meetsCased_eq_of_twins hbefore, meetsCased_eq_of_twins h]

/-- Texts in another case have one lower-case form, also behind texts in another case. -/
theorem lowerAfter_eq_of_twins (hbefore : List.Forall₂ CaseTwins before before')
    (h : List.Forall₂ CaseTwins cs cs') : lowerAfter before cs = lowerAfter before' cs' := by
  -- A sigma looks both ways: forward at the rest, and backward at what the induction has passed.
  induction h generalizing before before' with
  | nil => rfl
  | @cons c c' rest rest' hc hrest ih =>
    rw [lowerAfter, lowerAfter, ih (.cons hc hbefore), smallSigma_eq_of_twins hbefore hrest,
      hc.lowerChar_eq]
    simp only [hc.eq_capitalSigma_iff]

namespace Recased

variable {text text' marker marker' : String}

theorem lower_eq (h : Recased text text') : lower text.toList = lower text'.toList :=
  lowerAfter_eq_of_twins .nil h

theorem containsIgnoreCase_eq (htext : Recased text text') (hmarker : Recased marker marker') :
    containsIgnoreCase text marker = containsIgnoreCase text' marker' := by
  rw [containsIgnoreCase, containsIgnoreCase, htext.lower_eq, hmarker.lower_eq]

/-- The texts that hold the marker stand at the same places. -/
theorem filter_containsIgnoreCase {texts texts' : List String} (hmarker : Recased marker marker')
    (h : List.Forall₂ Recased texts texts') :
    List.Forall₂ Recased (texts.filter (containsIgnoreCase · marker))
      (texts'.filter (containsIgnoreCase · marker')) :=
  List.rel_filter (fun _ _ htext => Bool.eq_iff_iff.mp (htext.containsIgnoreCase_eq hmarker)) h

end Recased

end Text

open Text

/-! ## Outcomes -/

/-- The outcomes are equal but for the case of ASCII letters in the lines of detail. -/
structure Outcome.Recased (o o' : Outcome) : Prop where
  status_eq : o.status = o'.status
  message_eq : o.message = o'.message
  details : List.Forall₂ Text.Recased o.details o'.details

theorem Outcome.Recased.refl (o : Outcome) : o.Recased o :=
  ⟨rfl, rfl, List.forall₂_same.mpr fun line _ => Text.Recased.refl line⟩

/-! ## Nodes and drivers -/

/-- The versions that the checks look at differ only in the case of ASCII letters. -/
structure NodeInfo.Recased (info info' : NodeInfo) : Prop where
  kernel : Text.Recased info.kernel info'.kernel
  osImage : Text.Recased info.osImage info'.osImage

/-- The nodes have the same names, and both report no versions or such that differ only in the case
of ASCII letters. -/
structure Node.Recased (n n' : Node) : Prop where
  metadata_eq : n.metadata = n'.metadata
  info : Option.Rel NodeInfo.Recased n.info? n'.info?

/-- The names of the objects differ only in the case of ASCII letters. -/
def Named.Recased (object object' : Named) : Prop :=
  Option.Rel Text.Recased object.metadata.name object'.metadata.name

theorem getD_of_rel {α : Type} {rel : α → α → Prop} {a? b? : Option α} {a : α}
    (h : Option.Rel rel a? b?) (hdefault : rel a a) : rel (a?.getD a) (b?.getD a) := by
  cases h with
  | some hrel => exact hrel
  | none => exact hdefault

theorem Named.Recased.shownName {object object' : Named} (h : object.Recased object') :
    Text.Recased object.metadata.shownName object'.metadata.shownName :=
  getD_of_rel h (Text.Recased.refl _)

/-! ## Results -/

/-- Both fail with the same fault, or both succeed with values in relation. -/
inductive RelatedResults {ε α β : Type} (rel : α → β → Prop) : Except ε α → Except ε β → Prop
  | error (fault : ε) : RelatedResults rel (.error fault) (.error fault)
  | ok {a : α} {b : β} : rel a b → RelatedResults rel (.ok a) (.ok b)

theorem RelatedResults.bind {ε α β γ δ : Type} {rel : α → β → Prop} {rel' : γ → δ → Prop}
    {x : Except ε α} {y : Except ε β} {f : α → Except ε γ} {g : β → Except ε δ}
    (h : RelatedResults rel x y) (hnext : ∀ a b, rel a b → RelatedResults rel' (f a) (g b)) :
    RelatedResults rel' (x >>= f) (y >>= g) := by
  cases h with
  | error fault => exact .error fault
  | ok hrel => exact hnext _ _ hrel

namespace Check

/-- The markers differ only in the case of ASCII letters. -/
structure WorkerMarkers.Recased (markers markers' : WorkerMarkers) : Prop where
  kernel : Text.Recased markers.kernel markers'.kernel
  osImage : Text.Recased markers.osImage markers'.osImage

variable {markers markers' : WorkerMarkers} {nodes nodes' : List Node} {marker marker' : String}

theorem WorkerMarkers.Recased.marks_eq {info info' : NodeInfo} (h : markers.Recased markers')
    (hinfo : info.Recased info') : markers.marks info = markers'.marks info' := by
  rw [WorkerMarkers.marks, WorkerMarkers.marks, hinfo.kernel.containsIgnoreCase_eq h.kernel,
    hinfo.osImage.containsIgnoreCase_eq h.osImage]

theorem workerRow_recased {n n' : Node} {info info' : NodeInfo} (hname : n.metadata = n'.metadata)
    (hinfo : info.Recased info') : Text.Recased (workerRow n info) (workerRow n' info') := by
  rw [workerRow, workerRow, hname]
  exact (((Text.Recased.refl _).append hinfo.osImage).append (.refl _)).append hinfo.kernel

/-! ## The checks -/

/-- The search for nodes stops at the same node or finds the same nodes. -/
theorem workerRows_recased (hmarkers : markers.Recased markers')
    (h : List.Forall₂ Node.Recased nodes nodes') :
    RelatedResults (List.Forall₂ Text.Recased) (workerRows markers nodes)
      (workerRows markers' nodes') := by
  induction h with
  | nil => exact .ok .nil
  | @cons n n' rest rest' hn _ ih =>
    rw [workerRows, workerRows]
    have hinfo := hn.info
    generalize n.info? = info?, n'.info? = info?' at hinfo ⊢
    cases hinfo with
    | none =>
      rw [hn.metadata_eq]
      exact .error _
    | some hinfo =>
      refine ih.bind fun rows rows' hrows => .ok ?_
      rw [hmarkers.marks_eq hinfo]
      split
      · exact .cons (workerRow_recased hn.metadata_eq hinfo) hrows
      · exact hrows

theorem judgeWorkers_recased (hmarkers : markers.Recased markers')
    (h : List.Forall₂ Node.Recased nodes nodes') :
    RelatedResults Outcome.Recased (judgeWorkers markers nodes) (judgeWorkers markers' nodes') := by
  refine (workerRows_recased hmarkers h).bind fun rows rows' hrows => ?_
  have hlength : rows.length = rows'.length := hrows.length_eq
  cases hrows with
  | nil => exact .ok (Outcome.Recased.refl _)
  | @cons row row' rest rest' hrow hrest =>
    refine .ok ⟨rfl, ?_, .cons hrow hrest⟩
    simp only [Outcome.withDetails, hlength]

theorem judgeDriverNames_recased {names names' : List String}
    (hmarker : Text.Recased marker marker') (h : List.Forall₂ Text.Recased names names') :
    (judgeDriverNames marker names).Recased (judgeDriverNames marker' names') := by
  have hfound := hmarker.filter_containsIgnoreCase h
  unfold judgeDriverNames
  generalize names.filter _ = found, names'.filter _ = found' at hfound ⊢
  cases hfound with
  | nil => exact Outcome.Recased.refl _
  | cons hname hrest => exact ⟨rfl, rfl, .cons hname hrest⟩

theorem judgeDrivers_recased {drivers drivers' : List Named} (hmarker : Text.Recased marker marker')
    (h : List.Forall₂ Named.Recased drivers drivers') :
    (judgeDrivers marker drivers).Recased (judgeDrivers marker' drivers') :=
  judgeDriverNames_recased hmarker (List.rel_map (fun _ _ hname => hname.shownName) h)

/-- Whether a marker is found in a text does not depend on the case of the ASCII letters in either,
whatever other characters stand between them. So the drivers and the nodes that hold a marker are
the same however the letters of markers, driver names and versions are written, and the checks tell
them with the same status and the same message. -/
theorem letter_case_is_ignored :
    (∀ text text' marker marker' : String, Text.Recased text text' →
      Text.Recased marker marker' →
      containsIgnoreCase text marker = containsIgnoreCase text' marker') ∧
    (∀ (marker marker' : String) (drivers drivers' : List Named), Text.Recased marker marker' →
      List.Forall₂ Named.Recased drivers drivers' →
      (judgeDrivers marker drivers).Recased (judgeDrivers marker' drivers') ∧
      ∀ (env env' : Environment σ) (s s' : σ),
        (env.answer (.cluster .drivers) s).1 = .ok drivers →
        (env'.answer (.cluster .drivers) s').1 = .ok drivers' →
        List.Forall₂ Outcome.Recased ((Check.drivers marker).probe.run env s).value
          ((Check.drivers marker').probe.run env' s').value) ∧
    ∀ (markers markers' : WorkerMarkers) (nodes nodes' : List Node), markers.Recased markers' →
      List.Forall₂ Node.Recased nodes nodes' →
      RelatedResults Outcome.Recased (judgeWorkers markers nodes) (judgeWorkers markers' nodes') ∧
      ∀ (env env' : Environment σ) (s s' : σ),
        (env.answer (.cluster .nodes) s).1 = .ok nodes →
        (env'.answer (.cluster .nodes) s').1 = .ok nodes' →
        List.Forall₂ Outcome.Recased ((workers markers).probe.run env s).value
          ((workers markers').probe.run env' s').value := by
  refine ⟨fun _ _ _ _ htext hmarker => htext.containsIgnoreCase_eq hmarker, ?_, ?_⟩
  · intro marker marker' drivers drivers' hmarker hdrivers
    have hjudged := judgeDrivers_recased hmarker hdrivers
    refine ⟨hjudged, fun env env' s s' hreply hreply' => ?_⟩
    rw [Check.drivers, Check.drivers, value_single hreply, value_single hreply']
    exact .cons hjudged .nil
  · intro markers markers' nodes nodes' hmarkers hnodes
    have hjudged := judgeWorkers_recased hmarkers hnodes
    refine ⟨hjudged, fun env env' s s' hreply hreply' => ?_⟩
    rw [workers, workers, value_single hreply, value_single hreply']
    refine .cons ?_ .nil
    dsimp only
    generalize judgeWorkers markers nodes = result, judgeWorkers markers' nodes' = result'
      at hjudged ⊢
    cases hjudged with
    | error fault => exact Outcome.Recased.refl _
    | ok houtcome => exact houtcome

/-- A capital sigma after a letter that changes its case, in a marker and a version where it is
final and in a driver's name where it is not, and a node without versions behind one that reports
some. -/
theorem letter_case_is_ignored_sigma :
    let markers : WorkerMarkers := ⟨"AΣ", "Kelvin"⟩
    let markers' : WorkerMarkers := ⟨"aΣ", "kELVIN"⟩
    let n : Node :=
      { metadata := { name := some "pve-1" }
        status := some { info := some { kernel := "6.8-AΣ", osImage := "Ärger" } } }
    let n' : Node :=
      { metadata := { name := some "pve-1" }
        status := some { info := some { kernel := "6.8-aΣ", osImage := "ÄRgeR" } } }
    let ghost : Node := { metadata := { name := some "ghost" } }
    let env (nodes : List Node) (drivers : List Named) : Environment Unit :=
      { cluster := fun
          | .nodes => pure (.ok nodes)
          | .drivers => pure (.ok drivers)
          | _ => pure (.error (.timeout 30))
        hypervisor := fun _ => pure (.error (.query (.http .unbuilt))) }
    let named (name : String) : Named := { metadata := { name := some name } }
    markers.Recased markers' ∧ n.Recased n' ∧ ghost.Recased ghost ∧
      containsIgnoreCase "6.8-AΣ" "AΣ" = containsIgnoreCase "6.8-aΣ" "aΣ" ∧
      List.Forall₂ Outcome.Recased ((workers markers).probe.run (env [n] []) ()).value
        ((workers markers').probe.run (env [n'] []) ()).value ∧
      RelatedResults Outcome.Recased (judgeWorkers markers [n, ghost])
        (judgeWorkers markers' [n', ghost]) ∧
      List.Forall₂ Outcome.Recased
        ((Check.drivers "csi.Σa").probe.run (env [] [named "x.CSI.ΣA.dev", {}]) ()).value
        ((Check.drivers "CSI.ΣA").probe.run (env [] [named "X.csi.Σa.dev", {}]) ()).value := by
  intro markers markers' n n' ghost env named
  have hmarkers : markers.Recased markers' := ⟨by decide, by decide⟩
  have hn : n.Recased n' := ⟨rfl, .some ⟨by decide, by decide⟩⟩
  have hghost : ghost.Recased ghost := ⟨rfl, .none⟩
  have hdriver : Named.Recased (named "x.CSI.ΣA.dev") (named "X.csi.Σa.dev") := .some (by decide)
  have hnameless : Named.Recased {} {} := .none
  obtain ⟨htexts, hdrivers, hworkers⟩ := letter_case_is_ignored (σ := Unit)
  exact ⟨hmarkers, hn, hghost, htexts _ _ _ _ (by decide) (by decide),
    (hworkers _ _ _ _ hmarkers (.cons hn .nil)).2 (env [n] []) (env [n'] []) () () rfl rfl,
    (hworkers _ _ _ _ hmarkers (.cons hn (.cons hghost .nil))).1,
    (hdrivers "csi.Σa" "CSI.ΣA" _ _ (by decide) (.cons hdriver (.cons hnameless .nil))).2
      (env [] _) (env [] _) () () rfl rfl⟩

end Check

end ClusterAudit
