-- SUMMARY: Which markers are found wherever they stand letter for letter, and which are missed.
import ClusterAudit.Proofs.LetterCase

/-!
# Markers letter for letter

A marker and a text are put in lower case apart from each other. Only a capital sigma can tell the
difference: what it becomes depends on the nearest characters that are not passed over, and for a
sigma at the edge of a marker these may stand in the text around it. Such a sigma is called loose.
The main statement is that loose sigmas are all that can go wrong: a marker is found in every text
that holds it letter for letter exactly if it has none. For a marker with one, a text that holds it
and in which it is missed comes from one letter put in front of it or behind it.
-/

namespace ClusterAudit

namespace Text

variable {before before' cs after after' front rest : List Char}

/-! ## Surroundings -/

/-- All characters are passed over when the letters around a sigma are looked for. -/
def PassedOver (cs : List Char) : Prop := ∀ c ∈ cs, isCaseIgnorable c = true

theorem passedOver_reverse_iff : PassedOver cs.reverse ↔ PassedOver cs := by
  simp only [PassedOver, List.mem_reverse]

theorem PassedOver.meetsCased_append (h : PassedOver cs) (ds : List Char) :
    meetsCased (cs ++ ds) = meetsCased ds := by
  induction cs with
  | nil => rfl
  | cons c cs ih =>
    obtain ⟨hc, hcs⟩ := List.forall_mem_cons.mp h
    rw [List.cons_append, meetsCased_cons, if_pos hc, ih hcs]

theorem PassedOver.meetsCased_eq (h : PassedOver cs) : meetsCased cs = false := by
  rw [← List.append_nil cs, h.meetsCased_append]
  rfl

/-- A character that is not passed over hides what comes behind it. -/
theorem meetsCased_append_of_not_passedOver (h : ¬ PassedOver cs) (ds : List Char) :
    meetsCased (cs ++ ds) = meetsCased cs := by
  induction cs with
  | nil => exact absurd nofun h
  | cons c cs ih =>
    rw [List.cons_append, meetsCased_cons, meetsCased_cons]
    split
    case isTrue hc => exact ih fun hcs => h (List.forall_mem_cons.mpr ⟨hc, hcs⟩)
    case isFalse => rfl

theorem meetsCased_append_of_meetsCased (h : meetsCased cs = true) (ds : List Char) :
    meetsCased (cs ++ ds) = true := by
  rw [meetsCased_append_of_not_passedOver _ ds, h]
  intro hpassed
  exact Bool.noConfusion (h.symm.trans hpassed.meetsCased_eq)

theorem smallSigma_eq_final_iff :
    smallSigma before after = 'ς' ↔ meetsCased before = true ∧ meetsCased after = false := by
  unfold smallSigma
  cases meetsCased before <;> cases meetsCased after <;> decide

theorem smallSigma_eq_inner_iff :
    smallSigma before after = 'σ' ↔ ¬ (meetsCased before = true ∧ meetsCased after = false) := by
  unfold smallSigma
  cases meetsCased before <;> cases meetsCased after <;> decide

/-! ## Lower case inside a text -/

/-- Lower-cases a text between what stands before it, last character first, and after it. -/
def lowerBetween (before : List Char) : List Char → List Char → List Char
  | [], _ => []
  | c :: rest, after =>
    (if c = capitalSigma then [smallSigma before (rest ++ after)] else lowerChar c)
      ++ lowerBetween (c :: before) rest after

theorem lowerAfter_append (before cs after : List Char) :
    lowerAfter before (cs ++ after) =
      lowerBetween before cs after ++ lowerAfter (cs.reverse ++ before) after := by
  induction cs generalizing before with
  | nil => rfl
  | cons c rest ih =>
    rw [List.cons_append, lowerAfter, ih, lowerBetween, List.append_assoc, List.reverse_cons,
      List.append_assoc, List.singleton_append]

theorem lowerBetween_append (before cs ds after : List Char) :
    lowerBetween before (cs ++ ds) after =
      lowerBetween before cs (ds ++ after) ++ lowerBetween (cs.reverse ++ before) ds after := by
  induction cs generalizing before with
  | nil => rfl
  | cons c rest ih =>
    rw [List.cons_append, lowerBetween, ih, lowerBetween, List.append_assoc, List.append_assoc,
      List.reverse_cons, List.append_assoc, List.singleton_append]

theorem lowerBetween_nil (before cs : List Char) :
    lowerBetween before cs [] = lowerAfter before cs := by
  have happend := lowerAfter_append before cs []
  rw [List.append_nil] at happend
  rw [happend, lowerAfter, List.append_nil]

theorem lower_append_append (front cs rest : List Char) :
    lower (front ++ cs ++ rest) = lowerBetween [] front (cs ++ rest) ++
      lowerBetween front.reverse cs rest ++ lowerAfter ((front ++ cs).reverse) rest := by
  rw [lower, lowerAfter_append, lowerBetween_append]
  simp only [List.append_nil]

/-- A text is lower-cased alike in two surroundings if its capital sigmas are. -/
theorem lowerBetween_eq_of_sigmas
    (h : ∀ front rest, cs = front ++ capitalSigma :: rest →
      smallSigma (front.reverse ++ before) (rest ++ after) =
        smallSigma (front.reverse ++ before') (rest ++ after')) :
    lowerBetween before cs after = lowerBetween before' cs after' := by
  induction cs generalizing before before' with
  | nil => rfl
  | cons c cs ih =>
    have hrest : lowerBetween (c :: before) cs after = lowerBetween (c :: before') cs after' := by
      refine ih fun front rest hcs => ?_
      simpa using h (c :: front) rest (by rw [hcs]; rfl)
    rw [lowerBetween, lowerBetween, hrest]
    split
    case isTrue hc =>
      subst hc
      have hhead : smallSigma before (cs ++ after) = smallSigma before' (cs ++ after') :=
        h [] cs rfl
      rw [hhead]
    case isFalse => rfl

/-! ## Loose sigmas -/

/-- A capital sigma between the two parts of a marker whose form the marker leaves open. -/
inductive IsLoose (front rest : List Char) : Prop
  /-- It ends a word in the marker, which a letter behind the marker may carry on. -/
  | ends : meetsCased front.reverse = true → PassedOver rest → IsLoose front rest
  /-- It follows no letter in the marker, and ends a word if one stands before the marker. -/
  | starts : PassedOver front → meetsCased rest = false → IsLoose front rest

/-- One of the capital sigmas is loose. -/
def HasLooseSigma (cs : List Char) : Prop :=
  ∃ front rest, cs = front ++ capitalSigma :: rest ∧ IsLoose front rest

theorem not_hasLooseSigma_of_not_mem (h : capitalSigma ∉ cs) : ¬ HasLooseSigma cs := by
  rintro ⟨front, rest, rfl, -⟩
  exact h (by simp)

/-- The form of a sigma that is not loose is the same in all surroundings. -/
theorem smallSigma_eq_of_not_isLoose (h : ¬ IsLoose front rest) (before after : List Char) :
    smallSigma (front.reverse ++ before) (rest ++ after) = smallSigma front.reverse rest := by
  by_cases hfront : PassedOver front
  · -- A letter behind the sigma keeps it from ending a word, whatever comes to stand before it.
    have hcased : meetsCased rest = true :=
      Bool.of_not_eq_false fun hmeets => h (.starts hfront hmeets)
    rw [smallSigma, smallSigma, hcased, meetsCased_append_of_meetsCased hcased after]
    simp only [Bool.not_true, Bool.and_false]
  · have hbefore : meetsCased (front.reverse ++ before) = meetsCased front.reverse :=
      meetsCased_append_of_not_passedOver (mt passedOver_reverse_iff.mp hfront) before
    cases hcased : meetsCased front.reverse with
    | false => rw [smallSigma, smallSigma, hbefore, hcased, Bool.false_and, Bool.false_and]
    | true =>
      have hstops : ¬ PassedOver rest := fun hpassed => h (.ends hcased hpassed)
      rw [smallSigma, smallSigma, hbefore, meetsCased_append_of_not_passedOver hstops after]

/-! ## Counting forms -/

/-- If no sigma takes a form only in new surroundings, it is not found more often in them. -/
theorem count_lowerBetween_le {form : Char}
    (h : ∀ front rest, cs = front ++ capitalSigma :: rest →
      smallSigma (front.reverse ++ before') (rest ++ after') = form →
      smallSigma (front.reverse ++ before) (rest ++ after) = form) :
    (lowerBetween before' cs after').count form ≤ (lowerBetween before cs after).count form := by
  induction cs generalizing before before' with
  | nil => exact Nat.le_refl _
  | cons c cs ih =>
    have hrest : (lowerBetween (c :: before') cs after').count form ≤
        (lowerBetween (c :: before) cs after).count form := by
      refine ih fun front rest hcs => ?_
      simpa using h (c :: front) rest (by rw [hcs]; rfl)
    rw [lowerBetween, lowerBetween, List.count_append, List.count_append]
    refine Nat.add_le_add ?_ hrest
    split
    case isTrue hc =>
      subst hc
      rw [List.count_singleton, List.count_singleton]
      have hhead : smallSigma before' (cs ++ after') = form →
          smallSigma before (cs ++ after) = form := h [] cs rfl
      by_cases hform : smallSigma before' (cs ++ after') = form
      · simp [hform, hhead hform]
      · simp [hform]
    case isFalse => exact Nat.le_refl _

/-- If besides some sigma loses the form in the new surroundings, it is found less often. -/
theorem count_lowerBetween_lt {form : Char}
    (h : ∀ front rest, cs = front ++ capitalSigma :: rest →
      smallSigma (front.reverse ++ before') (rest ++ after') = form →
      smallSigma (front.reverse ++ before) (rest ++ after) = form)
    (hcs : cs = front ++ capitalSigma :: rest)
    (hform : smallSigma (front.reverse ++ before) (rest ++ after) = form)
    (hform' : smallSigma (front.reverse ++ before') (rest ++ after') ≠ form) :
    (lowerBetween before' cs after').count form < (lowerBetween before cs after).count form := by
  subst hcs
  have hfront : (lowerBetween before' front (capitalSigma :: rest ++ after')).count form ≤
      (lowerBetween before front (capitalSigma :: rest ++ after)).count form := by
    refine count_lowerBetween_le fun front' rest' hcs => ?_
    simpa using h front' (rest' ++ capitalSigma :: rest) (by simp [hcs])
  have hrest : (lowerBetween (capitalSigma :: (front.reverse ++ before')) rest after').count form ≤
      (lowerBetween (capitalSigma :: (front.reverse ++ before)) rest after).count form := by
    refine count_lowerBetween_le fun front' rest' hcs => ?_
    simpa using h (front ++ capitalSigma :: front') rest' (by simp [hcs])
  rw [lowerBetween_append, lowerBetween_append, lowerBetween, lowerBetween, if_pos rfl, if_pos rfl,
    hform]
  simp only [List.count_append, List.count_singleton, beq_iff_eq, if_neg hform', BEq.rfl, if_true]
  omega

/-! ## Texts that miss a marker -/

/-- A letter behind the marker carries on the word that a loose sigma ends. -/
theorem not_infix_of_ends (hcs : cs = front ++ capitalSigma :: rest)
    (hcased : meetsCased front.reverse = true) (hrest : PassedOver rest) :
    ¬ lower cs <:+: lower (cs ++ ['A']) := by
  intro hheld
  have hlower : lower (cs ++ ['A']) = lowerBetween [] cs ['A'] ++ ['a'] :=
    lowerAfter_append [] cs ['A']
  -- The marker might be found at another place than its own, so its final sigmas are counted.
  have hcount := hheld.sublist.count_le 'ς'
  have hlost : (lowerBetween [] cs ['A']).count 'ς' < (lowerBetween [] cs []).count 'ς' := by
    refine count_lowerBetween_lt (fun front' rest' _ => ?_) hcs ?_ ?_
    · rw [smallSigma_eq_final_iff, smallSigma_eq_final_iff, List.append_nil rest']
      rintro ⟨hbefore, hafter⟩
      refine ⟨hbefore, Bool.eq_false_iff.mpr fun hmeets => ?_⟩
      exact Bool.noConfusion ((meetsCased_append_of_meetsCased hmeets ['A']).symm.trans hafter)
    · rw [smallSigma_eq_final_iff, List.append_nil, List.append_nil]
      exact ⟨hcased, hrest.meetsCased_eq⟩
    · rw [Ne, smallSigma_eq_final_iff, hrest.meetsCased_append]
      exact fun h => absurd h.2 (by decide)
  rw [hlower, List.count_append, lower, ← lowerBetween_nil] at hcount
  exact absurd hcount (Nat.not_le_of_lt hlost)

/-- A letter in front of the marker begins the word that a loose sigma comes to end. -/
theorem not_infix_of_starts (hcs : cs = front ++ capitalSigma :: rest)
    (hfront : PassedOver front) (hmeets : meetsCased rest = false) :
    ¬ lower cs <:+: lower ('A' :: cs) := by
  intro hheld
  have hlower : lower ('A' :: cs) = 'a' :: lowerAfter ['A'] cs := rfl
  have hcount := hheld.sublist.count_le 'σ'
  have hlost : (lowerBetween ['A'] cs []).count 'σ' < (lowerBetween [] cs []).count 'σ' := by
    refine count_lowerBetween_lt (fun front' rest' _ => ?_) hcs ?_ ?_
    · rw [smallSigma_eq_inner_iff, smallSigma_eq_inner_iff, List.append_nil front'.reverse]
      exact mt fun h => ⟨meetsCased_append_of_meetsCased h.1 ['A'], h.2⟩
    · rw [smallSigma_eq_inner_iff, List.append_nil,
        (passedOver_reverse_iff.mpr hfront).meetsCased_eq]
      exact fun h => Bool.noConfusion h.1
    · rw [Ne, smallSigma_eq_inner_iff, not_not, List.append_nil,
        (passedOver_reverse_iff.mpr hfront).meetsCased_append]
      exact ⟨by decide, hmeets⟩
  rw [hlower, List.count_cons_of_ne (by decide), lower, ← lowerBetween_nil,
    ← lowerBetween_nil] at hcount
  exact absurd hcount (Nat.not_le_of_lt hlost)

theorem exists_not_infix_of_hasLooseSigma (h : HasLooseSigma cs) :
    ∃ front rest, ¬ lower cs <:+: lower (front ++ cs ++ rest) := by
  obtain ⟨front, rest, hcs, hloose⟩ := h
  cases hloose with
  | ends hcased hrest => exact ⟨[], ['A'], not_infix_of_ends hcs hcased hrest⟩
  | starts hfront hmeets =>
    refine ⟨['A'], [], ?_⟩
    rw [List.append_nil]
    exact not_infix_of_starts hcs hfront hmeets

/-! ## Markers -/

/-- The marker stands in the text letter for letter. -/
def HoldsVerbatim (text marker : String) : Prop := marker.toList <:+: text.toList

/-- The capital sigmas of a marker have the forms between these parts of a text that they have in
the marker alone. -/
def KeepsSigmas (front marker rest : List Char) : Prop :=
  ∀ before after, marker = before ++ capitalSigma :: after →
    smallSigma (before.reverse ++ front.reverse) (after ++ rest) =
      smallSigma before.reverse after

theorem keepsSigmas_of_not_hasLooseSigma (h : ¬ HasLooseSigma cs) (front rest : List Char) :
    KeepsSigmas front cs rest := fun before after hcs =>
  smallSigma_eq_of_not_isLoose (fun hloose => h ⟨before, after, hcs, hloose⟩) front.reverse rest

theorem containsIgnoreCase_of_keepsSigmas {text marker : String}
    (htext : text.toList = front ++ marker.toList ++ rest)
    (h : KeepsSigmas front marker.toList rest) : containsIgnoreCase text marker = true := by
  have hmarker : lowerBetween front.reverse marker.toList rest = lower marker.toList := by
    rw [lower, ← lowerBetween_nil]
    refine lowerBetween_eq_of_sigmas fun before after hsigma => ?_
    rw [List.append_nil, List.append_nil]
    exact h before after hsigma
  rw [containsIgnoreCase_iff, Holds, htext, lower_append_append, hmarker]
  exact ⟨_, _, rfl⟩

/-- A marker is found wherever it stands letter for letter exactly if it has no loose sigma. -/
theorem forall_containsIgnoreCase_iff {marker : String} :
    (∀ text, HoldsVerbatim text marker → containsIgnoreCase text marker = true) ↔
      ¬ HasLooseSigma marker.toList := by
  constructor
  · intro hfound hloose
    obtain ⟨front, rest, hmissed⟩ := exists_not_infix_of_hasLooseSigma hloose
    have htext : (String.ofList (front ++ marker.toList ++ rest)).toList =
        front ++ marker.toList ++ rest := String.toList_ofList
    have hholds := hfound (String.ofList (front ++ marker.toList ++ rest))
      ⟨front, rest, htext.symm⟩
    rw [containsIgnoreCase_iff, Holds, htext] at hholds
    exact hmissed hholds
  · rintro hsettled text ⟨front, rest, htext⟩
    exact containsIgnoreCase_of_keepsSigmas htext.symm
      (keepsSigmas_of_not_hasLooseSigma hsettled front rest)

theorem HoldsVerbatim.holds {text marker : String} (h : HoldsVerbatim text marker)
    (hsettled : ¬ HasLooseSigma marker.toList) : Holds text marker :=
  containsIgnoreCase_iff.mp (forall_containsIgnoreCase_iff.mpr hsettled text h)

end Text

open Text

namespace Check

/-! ## Nodes and drivers -/

/-- A driver whose name holds the marker is told. -/
theorem judgeDrivers_of_mem {marker : String} {drivers : List Named} {d : Named}
    (hd : d ∈ drivers) (hmarker : containsIgnoreCase d.metadata.shownName marker = true) :
    (judgeDrivers marker drivers).status = .pass ∧
      d.metadata.shownName ∈ (judgeDrivers marker drivers).details := by
  have hfound : d.metadata.shownName ∈
      (drivers.map fun d => d.metadata.shownName).filter (containsIgnoreCase · marker) :=
    List.mem_filter.mpr ⟨List.mem_map_of_mem hd, hmarker⟩
  have hsome := List.isEmpty_eq_false_iff.mpr (List.ne_nil_of_mem hfound)
  rw [judgeDrivers, judgeDriverNames, hsome]
  exact ⟨rfl, hfound⟩

/-- A node that holds a marker is told, if all nodes report their versions. -/
theorem judgeWorkers_of_mem {markers : WorkerMarkers} {nodes : List Node} {n : Node}
    (hnodes : ∀ other ∈ nodes, ∃ info, other.Reports info) (hn : n ∈ nodes)
    (hmarked : n.IsMarked markers) :
    ∃ o, judgeWorkers markers nodes = .ok o ∧ o.status = .pass ∧
      ∃ line ∈ o.details, n.HasWorkerLine line := by
  cases hjudged : judgeWorkers markers nodes with
  | error fault =>
    have hfirst := judgeWorkers_eq_error_iff.mp hjudged
    obtain ⟨ghost, hghost, hlacks⟩ := exists_firstTells_iff.mp ⟨fault, hfirst⟩
    obtain ⟨info, hreports⟩ := hnodes ghost hghost
    exact absurd hreports (Node.exists_lacksInfo_iff.mp hlacks info)
  | ok o =>
    have htells := tellsWorkers_of_judgeWorkers hjudged
    refine ⟨o, rfl, htells.pass_iff.mpr ⟨n, hn, hmarked⟩, ?_⟩
    have hmem : n ∈ nodes.filter (·.IsMarked markers) :=
      List.mem_filter.mpr ⟨hn, decide_eq_true hmarked⟩
    obtain ⟨i, hi, hget⟩ := List.getElem_of_mem hmem
    have hline : i < o.details.length := htells.details.length_eq ▸ hi
    have htold := htells.details.get hi hline
    rw [List.get_eq_getElem, hget] at htold
    exact ⟨_, List.get_mem o.details ⟨i, hline⟩, htold⟩

/-- A marker is found wherever it stands letter for letter exactly if it has no loose sigma, and so
if it has no capital sigma at all; any marker is found where its sigmas keep their forms. The nodes
and the drivers that show a marker without loose sigmas letter for letter are detected. -/
theorem verbatim_markers_are_found (marker : String) :
    ((∀ text, HoldsVerbatim text marker → containsIgnoreCase text marker = true) ↔
      ¬ HasLooseSigma marker.toList) ∧
    (capitalSigma ∉ marker.toList → ¬ HasLooseSigma marker.toList) ∧
    (∀ (text : String) (front rest : List Char),
      text.toList = front ++ marker.toList ++ rest → KeepsSigmas front marker.toList rest →
      containsIgnoreCase text marker = true) ∧
    (∀ (markers : WorkerMarkers) (nodes : List Node), ∀ n ∈ nodes, ∀ info, n.Reports info →
      (HoldsVerbatim info.kernel markers.kernel ∧ ¬ HasLooseSigma markers.kernel.toList ∨
        HoldsVerbatim info.osImage markers.osImage ∧ ¬ HasLooseSigma markers.osImage.toList) →
      n.IsMarked markers ∧ ((∀ other ∈ nodes, ∃ info, other.Reports info) →
        ∃ o, judgeWorkers markers nodes = .ok o ∧ o.status = .pass ∧
          ∃ line ∈ o.details, n.HasWorkerLine line)) ∧
    ∀ drivers : List Named, ∀ d ∈ drivers,
      HoldsVerbatim d.metadata.shownName marker → ¬ HasLooseSigma marker.toList →
      (judgeDrivers marker drivers).status = .pass ∧
        d.metadata.shownName ∈ (judgeDrivers marker drivers).details := by
  refine ⟨forall_containsIgnoreCase_iff, not_hasLooseSigma_of_not_mem,
    fun _ _ _ => containsIgnoreCase_of_keepsSigmas, ?_, ?_⟩
  · intro markers nodes n hn info hreports hshows
    have hmarked : n.IsMarked markers := by
      refine ⟨info, hreports, ?_⟩
      rcases hshows with ⟨hkernel, hsettled⟩ | ⟨himage, hsettled⟩
      · exact .inl (hkernel.holds hsettled)
      · exact .inr (himage.holds hsettled)
    exact ⟨hmarked, fun hnodes => judgeWorkers_of_mem hnodes hn hmarked⟩
  · intro drivers d hd hshows hsettled
    exact judgeDrivers_of_mem hd (forall_containsIgnoreCase_iff.mpr hsettled _ hshows)

/-- A marker with a capital sigma between letters, in a version where another sigma stands before
it and in the name of a driver that has the marker in its middle. -/
theorem verbatim_markers_are_found_inner :
    let markers : WorkerMarkers := ⟨"pΣe", "Proxmox"⟩
    let info : NodeInfo := { kernel := "ΣpΣe-6.8", osImage := "Talos" }
    let n : Node := { status := some { info := some info } }
    let d : Named := { metadata := { name := some "csi.pΣe.dev" } }
    HoldsVerbatim info.kernel markers.kernel ∧ ¬ HasLooseSigma markers.kernel.toList ∧
      containsIgnoreCase "ΣpΣe-6.8" "pΣe" = true ∧ n.IsMarked markers ∧
      (∃ o, judgeWorkers markers [n] = .ok o ∧ o.status = .pass ∧
        ∃ line ∈ o.details, n.HasWorkerLine line) ∧
      d.metadata.shownName ∈ (judgeDrivers "pΣe" [{}, d]).details := by
  intro markers info n d
  have hsettled : ¬ HasLooseSigma markers.kernel.toList := by
    rintro ⟨front, rest, hcs, hloose⟩
    have hplace : front = ['p'] ∧ rest = ['e'] := by
      have hletters : markers.kernel.toList = ['p', capitalSigma, 'e'] := by decide
      simpa [hletters, List.cons_eq_append_iff, capitalSigma] using hcs
    obtain ⟨rfl, rfl⟩ := hplace
    cases hloose with
    | ends _ hpassed => exact absurd (hpassed 'e' (by simp)) (by decide)
    | starts hpassed _ => exact absurd (hpassed 'p' (by simp)) (by decide)
  have hkernel : HoldsVerbatim info.kernel markers.kernel := ⟨['Σ'], "-6.8".toList, by decide⟩
  have hreports : n.Reports info := ⟨_, rfl, rfl⟩
  obtain ⟨hiff, -, -, hworkers, hdrivers⟩ := verbatim_markers_are_found "pΣe"
  obtain ⟨hmarked, htold⟩ :=
    hworkers markers [n] n (by simp) info hreports (.inl ⟨hkernel, hsettled⟩)
  refine ⟨hkernel, hsettled, hiff.mpr hsettled _ hkernel, hmarked, htold ?_, ?_⟩
  · simpa using ⟨info, hreports⟩
  · exact (hdrivers [{}, d] d (by simp) ⟨"csi.".toList, ".dev".toList, by decide⟩ hsettled).2

/-- A sigma is missed behind a letter, where it ends a word: in a text, in the version of a node and
in the name of a driver. -/
theorem verbatim_sigma_is_missed :
    HoldsVerbatim "AΣ" "Σ" ∧ containsIgnoreCase "AΣ" "Σ" = false ∧
      judgeWorkers ⟨"Σ", "Proxmox"⟩ [{ status := some { info := some { kernel := "AΣ" } } }] =
        .ok (.warn "No Proxmox worker nodes detected") ∧
      judgeDrivers "Σ" [{ metadata := { name := some "AΣ" } }] =
        .warn "No Proxmox CSI driver found" :=
  ⟨⟨['A'], [], rfl⟩, by decide, by decide, by decide⟩

end Check

end ClusterAudit
