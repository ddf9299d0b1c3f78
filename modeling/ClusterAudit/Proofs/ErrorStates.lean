-- SUMMARY: Which pods the scan for error states counts, and which broken containers it misses.
import ClusterAudit.Proofs.Display

/-!
# Error states

The scan counts the pods whose display status holds an error marker. A display status is one word
for all containers of a pod, so it tells of one container only: where no init container fails, of
the first that shows a reason. The main statement says what this comes to for a pod with a broken
container. It is counted exactly if the first reason that is shown holds a marker, so a container in
front that shows a harmless reason hides it, and nothing behind it does.
-/

namespace ClusterAudit

open ContainerStatus

/-! ## Markers -/

/-- The text holds one of the error markers. -/
def MarksError (text : String) : Prop :=
  ∃ marker ∈ errorMarkers, marker.toList <:+: text.toList

theorem isErrorState_iff {text : String} : isErrorState text = true ↔ MarksError text := by
  simp only [isErrorState, MarksError, List.any_eq_true, Text.contains, Text.occursIn_iff]

/-! ## Broken containers -/

/-- The container waits, and the reason for it holds an error marker. -/
def ContainerStatus.WaitsInError (c : ContainerStatus) : Prop :=
  ∃ state reason, c = ⟨some state⟩ ∧ state.waiting = some ⟨some reason⟩ ∧ MarksError reason

/-- The first container that shows a reason shows one that holds an error marker. -/
def PodStatus.ShowsError (s : PodStatus) : Prop :=
  ∃ reason, FirstTells ShowsReason s.containers reason ∧ MarksError reason

theorem ContainerStatus.WaitsInError.exists_showsReason {c : ContainerStatus}
    (h : c.WaitsInError) : ∃ reason, c.ShowsReason reason ∧ MarksError reason := by
  obtain ⟨state, reason, rfl, hwaits, hmarks⟩ := h
  exact ⟨reason, .waits hwaits, hmarks⟩

/-- A container is in sight if all reasons that are shown in front of it hold error markers. -/
theorem exists_firstTells_of_inSight {c : ContainerStatus} (hc : c.WaitsInError)
    (before after : List ContainerStatus)
    (hbefore : ∀ b ∈ before, ∀ reason, b.ShowsReason reason → MarksError reason) :
    ∃ reason, FirstTells ShowsReason (before ++ c :: after) reason ∧ MarksError reason := by
  induction before with
  | nil =>
    obtain ⟨reason, hshows, hmarks⟩ := hc.exists_showsReason
    exact ⟨reason, firstTells_cons_iff.mpr (.inl hshows), hmarks⟩
  | cons b before ih =>
    by_cases hshows : ∃ reason, b.ShowsReason reason
    · obtain ⟨reason, hreason⟩ := hshows
      exact ⟨reason, firstTells_cons_iff.mpr (.inl hreason),
        hbefore b List.mem_cons_self reason hreason⟩
    · obtain ⟨reason, hfirst, hmarks⟩ := ih fun b' hb' => hbefore b' (List.mem_cons_of_mem b hb')
      exact ⟨reason, firstTells_cons_iff.mpr (.inr ⟨not_exists.mp hshows, hfirst⟩), hmarks⟩

/-! ## Broken pods -/

/-- Where no init container fails and some container shows a reason, the first reason decides. -/
theorem Pod.isBroken_iff {p : Pod} {s : PodStatus} (hstatus : p.status = some s)
    (hfine : ∀ c ∈ s.initContainers, IsIdle FailsInit c)
    (hshows : ∃ c ∈ s.containers, ∃ reason, c.ShowsReason reason) :
    p.isBroken = true ↔ s.ShowsError := by
  have hdisplay : p.display = s.display := by simp only [Pod.display, hstatus]
  rw [Pod.isBroken, isErrorState_iff, hdisplay]
  constructor
  · intro hmarks
    cases hreason : s.containerReason? with
    | some reason =>
      have hfirst := PodStatus.containerReason?_eq_some_iff.mp hreason
      have hshown : s.display = reason := (PodStatus.Displays.container hfine hfirst).eq_display
      exact ⟨reason, hfirst, hshown ▸ hmarks⟩
    | none =>
      obtain ⟨c, hc, reason, hreasons⟩ := hshows
      exact absurd hreasons (PodStatus.containerReason?_eq_none_iff.mp hreason c hc reason)
  · rintro ⟨reason, hfirst, hmarks⟩
    rwa [(PodStatus.Displays.container hfine hfirst).eq_display]

namespace Check

/-- The scan passes without broken pods, and tells their number otherwise. -/
theorem judgeErrorStates_nil {pods : List Pod} (h : pods.filter Pod.isBroken = []) :
    judgeErrorStates pods = .pass "No pods in error states" := by
  simp [judgeErrorStates, h]

theorem judgeErrorStates_ne_nil {pods : List Pod} (h : pods.filter Pod.isBroken ≠ []) :
    (judgeErrorStates pods).status ≠ .pass ∧
      (judgeErrorStates pods).message =
        s!"{(pods.filter Pod.isBroken).length} pods in error states" := by
  have hcount : (pods.filter Pod.isBroken).length ≠ 0 := by simpa using h
  simp only [judgeErrorStates, if_neg hcount]
  split <;> exact ⟨nofun, rfl⟩

/-! ## The scan -/

/-- A pod without failing init containers that has a broken container is counted by the scan exactly
if the first of its containers that shows a reason shows one with an error marker. So it is counted
if no harmless reason is shown in front of the broken container, whatever is behind it, and a scan
that passes has left out no such pod. -/
theorem scan_counts_first_reasons (pods : List Pod) :
    (judgeErrorStates pods = .pass "No pods in error states" ↔ pods.filter Pod.isBroken = []) ∧
    (pods.filter Pod.isBroken ≠ [] → (judgeErrorStates pods).message =
      s!"{(pods.filter Pod.isBroken).length} pods in error states") ∧
    ∀ p ∈ pods, ∀ (s : PodStatus) (before after : List ContainerStatus) (c : ContainerStatus),
      p.status = some s → (∀ init ∈ s.initContainers, IsIdle FailsInit init) →
      s.containers = before ++ c :: after → c.WaitsInError →
      (p ∈ pods.filter Pod.isBroken ↔ s.ShowsError) ∧
      ((∀ b ∈ before, ∀ reason, b.ShowsReason reason → MarksError reason) →
        p ∈ pods.filter Pod.isBroken ∧
          judgeErrorStates pods ≠ .pass "No pods in error states") := by
  have hpass : judgeErrorStates pods = .pass "No pods in error states" ↔
      pods.filter Pod.isBroken = [] := by
    refine ⟨fun hpass => Classical.byContradiction fun hsome => ?_, judgeErrorStates_nil⟩
    exact (judgeErrorStates_ne_nil hsome).1 (congrArg Outcome.status hpass)
  refine ⟨hpass, fun hsome => (judgeErrorStates_ne_nil hsome).2, ?_⟩
  intro p hp s before after c hstatus hfine hcontainers hc
  obtain ⟨reason, hreason, -⟩ := hc.exists_showsReason
  have hmem : c ∈ s.containers := by simp [hcontainers]
  have hcounted : p ∈ pods.filter Pod.isBroken ↔ s.ShowsError := by
    rw [List.mem_filter, and_iff_right hp]
    exact Pod.isBroken_iff hstatus hfine ⟨c, hmem, reason, hreason⟩
  refine ⟨hcounted, fun hbefore => ?_⟩
  have hshows : s.ShowsError := by
    rw [PodStatus.ShowsError, hcontainers]
    exact exists_firstTells_of_inSight hc before after hbefore
  have hbroken := hcounted.mpr hshows
  exact ⟨hbroken, fun h => List.ne_nil_of_mem hbroken (hpass.mp h)⟩

/-- A crashing container behind one that cannot be pulled and before one that has completed. -/
theorem scan_counts_first_reasons_crashing :
    let pulling : ContainerStatus := ⟨some { waiting := some ⟨some "ImagePullBackOff"⟩ }⟩
    let crashing : ContainerStatus := ⟨some { waiting := some ⟨some "CrashLoopBackOff"⟩ }⟩
    let completed : ContainerStatus := ⟨some { terminated := some ⟨0, some "Completed"⟩ }⟩
    let s : PodStatus := { containers := [⟨none⟩, pulling, crashing, completed] }
    let pods : List Pod := [{ status := some { phase := some "Running" } }, { status := some s }]
    crashing.WaitsInError ∧ s.ShowsError ∧ { status := some s } ∈ pods.filter Pod.isBroken ∧
      judgeErrorStates pods ≠ .pass "No pods in error states" := by
  intro pulling crashing completed s pods
  have hpulling : MarksError "ImagePullBackOff" := isErrorState_iff.mp rfl
  have hcrashing : crashing.WaitsInError := ⟨_, _, rfl, rfl, isErrorState_iff.mp rfl⟩
  obtain ⟨hcounted, hinSight⟩ := (scan_counts_first_reasons pods).2.2 { status := some s }
    (by simp [pods]) s [⟨none⟩, pulling] [completed] crashing rfl nofun rfl hcrashing
  have hbroken := hinSight fun b hb reason hreason => by
    simp only [List.mem_cons, List.not_mem_nil, or_false] at hb
    rcases hb with rfl | rfl
    · cases hreason
    · have hshown := (showsReason_iff pulling reason).mpr hreason
      cases hshown
      exact hpulling
  exact ⟨hcrashing, hcounted.mp hbroken.1, hbroken⟩

/-- A crashing container behind one that has completed is not seen, and the scan passes. -/
theorem scan_misses_hidden_container :
    let completed : ContainerStatus := ⟨some { terminated := some ⟨0, some "Completed"⟩ }⟩
    let crashing : ContainerStatus := ⟨some { waiting := some ⟨some "CrashLoopBackOff"⟩ }⟩
    let s : PodStatus := { phase := some "Running", containers := [completed, crashing] }
    let p : Pod := { metadata := { name := some "web-0", ns := some "ns" }, status := some s }
    (∀ init ∈ s.initContainers, IsIdle FailsInit init) ∧ crashing ∈ s.containers ∧
      crashing.WaitsInError ∧ p ∉ [p].filter Pod.isBroken ∧
      judgeErrorStates [p] = .pass "No pods in error states" := by
  intro completed crashing s p
  have hcrashing : crashing.WaitsInError := ⟨_, _, rfl, rfl, isErrorState_iff.mp rfl⟩
  have hnone : [p].filter Pod.isBroken = [] := by decide
  exact ⟨nofun, by simp [s], hcrashing, by simp [hnone], judgeErrorStates_nil hnone⟩

end Check

end ClusterAudit
