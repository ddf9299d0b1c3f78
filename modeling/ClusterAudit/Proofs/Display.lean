-- SUMMARY: The one word in which the state of a pod is shown, by precedence, and what it ignores.
import ClusterAudit.Check.Workload

/-!
# The display status of a pod

A pod with many containers is shown in one word. Which part of its status gives the word is told
here by rules, one for each part that may: the first init container that fails, the first container
that shows a reason, the pod's own reason, its phase. `Pod.Displays` puts these rules in their
order, and the display status is what they say of every pod.

Containers that tell nothing do not count, wherever they stand among the others.
-/

namespace ClusterAudit

variable {α β : Type}

/-! ## The first item that tells something -/

/-- The item tells nothing. -/
def IsIdle (tells : α → β → Prop) (a : α) : Prop := ∀ b, ¬ tells a b

/-- What the first item tells that tells anything. -/
def FirstTells (tells : α → β → Prop) (items : List α) (b : β) : Prop :=
  ∃ before a after, items = before ++ a :: after ∧ tells a b ∧ ∀ x ∈ before, IsIdle tells x

section

variable {tells : α → β → Prop} {f : α → Option β}

theorem not_firstTells_nil {b : β} : ¬ FirstTells tells [] b := by
  rintro ⟨before, a, after, h, -⟩
  exact absurd h.symm (by simp)

/-- Either the first item tells something, or it tells nothing and the others do. -/
theorem firstTells_cons_iff {a : α} {items : List α} {b : β} :
    FirstTells tells (a :: items) b ↔ tells a b ∨ IsIdle tells a ∧ FirstTells tells items b := by
  constructor
  · rintro ⟨before, first, after, hitems, htells, hbefore⟩
    cases before with
    | nil =>
      obtain ⟨rfl, rfl⟩ := List.cons.inj hitems
      exact .inl htells
    | cons head before =>
      obtain ⟨rfl, rfl⟩ := List.cons.inj hitems
      obtain ⟨hidle, hbefore⟩ := List.forall_mem_cons.mp hbefore
      exact .inr ⟨hidle, before, first, after, rfl, htells, hbefore⟩
  · rintro (htells | ⟨hidle, before, first, after, rfl, htells, hbefore⟩)
    · exact ⟨[], a, items, rfl, htells, nofun⟩
    · exact ⟨a :: before, first, after, rfl, htells, List.forall_mem_cons.mpr ⟨hidle, hbefore⟩⟩

/-- Some item is the first to tell something exactly if any tells something. -/
theorem exists_firstTells_iff {items : List α} :
    (∃ b, FirstTells tells items b) ↔ ∃ a ∈ items, ∃ b, tells a b := by
  constructor
  · rintro ⟨b, before, a, after, rfl, htells, -⟩
    exact ⟨a, by simp, b, htells⟩
  · rintro ⟨a, ha, b, htells⟩
    induction items with
    | nil => cases ha
    | cons head items ih =>
      by_cases hhead : ∃ b, tells head b
      · obtain ⟨b, hb⟩ := hhead
        exact ⟨b, firstTells_cons_iff.mpr (.inl hb)⟩
      · rcases List.mem_cons.mp ha with rfl | ha
        · exact absurd ⟨b, htells⟩ hhead
        · obtain ⟨b, hb⟩ := ih ha
          exact ⟨b, firstTells_cons_iff.mpr (.inr ⟨not_exists.mp hhead, hb⟩)⟩

theorem not_exists_firstTells_iff {items : List α} :
    (¬ ∃ b, FirstTells tells items b) ↔ ∀ a ∈ items, IsIdle tells a := by
  rw [exists_firstTells_iff]
  simp only [IsIdle, not_exists, not_and]

theorem isIdle_iff (h : ∀ a b, f a = some b ↔ tells a b) {a : α} :
    IsIdle tells a ↔ f a = none := by
  simp only [IsIdle, ← h, Option.eq_none_iff_forall_ne_some, ne_eq]

theorem firstTells_iff (h : ∀ a b, f a = some b ↔ tells a b) {items : List α} {b : β} :
    FirstTells tells items b ↔ items.findSome? f = some b := by
  simp only [FirstTells, List.findSome?_eq_some_iff, isIdle_iff h, h]

theorem forall_isIdle_iff (h : ∀ a b, f a = some b ↔ tells a b) {items : List α} :
    (∀ a ∈ items, IsIdle tells a) ↔ items.findSome? f = none := by
  simp only [List.findSome?_eq_none_iff, isIdle_iff h]

end

/-! ## More items -/

/-- The second list is the first with extra items put in, anywhere and any number of them. -/
inductive Gains (extra : α → Prop) : List α → List α → Prop
  | nil : Gains extra [] []
  | keep (a : α) {as as' : List α} : Gains extra as as' → Gains extra (a :: as) (a :: as')
  | gain {a : α} {as as' : List α} : extra a → Gains extra as as' → Gains extra as (a :: as')

namespace Gains

variable {extra : α → Prop} {as as' : List α}

theorem refl (extra : α → Prop) (as : List α) : Gains extra as as := by
  induction as with
  | nil => exact .nil
  | cons a as ih => exact .keep a ih

/-- One extra item between the others. -/
theorem insert {a : α} (ha : extra a) (before after : List α) :
    Gains extra (before ++ after) (before ++ a :: after) := by
  induction before with
  | nil => exact .gain ha (refl extra after)
  | cons b before ih => exact .keep b ih

/-- What is found first stays, if nothing is found in the extra items. -/
theorem findSome?_eq {f : α → Option β} (h : Gains extra as as')
    (hextra : ∀ a, extra a → f a = none) : as'.findSome? f = as.findSome? f := by
  induction h with
  | nil => rfl
  | keep a _ ih => rw [List.findSome?_cons, List.findSome?_cons, ih]
  | gain ha _ ih => rw [List.findSome?_cons, hextra _ ha, ih]

/-- What is kept stays, if none of the extra items is kept. -/
theorem filter_eq {p : α → Bool} (h : Gains extra as as') (hextra : ∀ a, extra a → p a = false) :
    as'.filter p = as.filter p := by
  induction h with
  | nil => rfl
  | keep a _ ih => rw [List.filter_cons, List.filter_cons, ih]
  | gain ha _ ih => rw [List.filter_cons, hextra _ ha, ih, if_neg Bool.false_ne_true]

theorem sublist (h : Gains extra as as') : as.Sublist as' := by
  induction h with
  | nil => exact .slnil
  | keep a _ ih => exact ih.cons_cons a
  | gain _ _ ih => exact ih.cons _

end Gains

/-! ## Containers -/

namespace ContainerStatus

/-- How an init container fails: it has ended with an exit code other than zero, or it has not ended
and waits for anything but its turn. -/
inductive FailsInit : ContainerStatus → String → Prop
  | ended {state : ContainerState} {code : Int} {reason : String} :
      state.terminated = some ⟨code, some reason⟩ → code ≠ 0 → FailsInit ⟨some state⟩ reason
  | endedSilently {state : ContainerState} {code : Int} :
      state.terminated = some ⟨code, none⟩ → code ≠ 0 →
      FailsInit ⟨some state⟩ ("ExitCode:" ++ toString code)
  | waits {state : ContainerState} {reason : String} :
      state.terminated = none → state.waiting = some ⟨some reason⟩ → reason ≠ "PodInitializing" →
      FailsInit ⟨some state⟩ reason

/-- The reason that a container shows: why it waits or, where it gives no reason for that, why it
has ended. -/
inductive ShowsReason : ContainerStatus → String → Prop
  | waits {state : ContainerState} {reason : String} :
      state.waiting = some ⟨some reason⟩ → ShowsReason ⟨some state⟩ reason
  | ended {state : ContainerState} {code : Int} {reason : String} :
      (∀ other, state.waiting ≠ some ⟨some other⟩) → state.terminated = some ⟨code, some reason⟩ →
      ShowsReason ⟨some state⟩ reason

theorem failsInit_iff (c : ContainerStatus) (text : String) :
    c.state.bind ContainerState.initFailure? = some text ↔ c.FailsInit text := by
  constructor
  · intro h
    obtain ⟨state, hstate, hfails⟩ := Option.bind_eq_some_iff.mp h
    obtain rfl : c = ⟨some state⟩ := congrArg ContainerStatus.mk hstate
    unfold ContainerState.initFailure? at hfails
    split at hfails
    · rename_i ended hended
      obtain ⟨code, reason⟩ := ended
      obtain ⟨hcode, htext⟩ := Option.ite_none_left_eq_some.mp hfails
      cases htext
      cases reason with
      | some reason => exact .ended hended hcode
      | none => exact .endedSilently hended hcode
    · rename_i hended
      obtain ⟨hreason, hturn⟩ := Option.filter_eq_some_iff.mp hfails
      obtain ⟨⟨_⟩, hwaits, rfl⟩ := Option.bind_eq_some_iff.mp hreason
      exact .waits hended hwaits (by simpa using hturn)
  · intro h
    cases h with
    | ended hended hcode => simp [ContainerState.initFailure?, hended, hcode]
    | endedSilently hended hcode =>
      simp only [Option.bind_some, ContainerState.initFailure?, hended, if_neg hcode]
      rfl
    | waits hended hwaits hreason => simp [ContainerState.initFailure?, hended, hwaits, hreason]

theorem showsReason_iff (c : ContainerStatus) (reason : String) :
    c.state.bind ContainerState.reason? = some reason ↔ c.ShowsReason reason := by
  constructor
  · intro h
    obtain ⟨state, hstate, hshows⟩ := Option.bind_eq_some_iff.mp h
    obtain rfl : c = ⟨some state⟩ := congrArg ContainerStatus.mk hstate
    obtain hwaits | ⟨hwaits, hended⟩ := Option.or_eq_some_iff.mp hshows
    · obtain ⟨⟨_⟩, hwaiting, rfl⟩ := Option.bind_eq_some_iff.mp hwaits
      exact .waits hwaiting
    · obtain ⟨⟨_, _⟩, hterminated, rfl⟩ := Option.bind_eq_some_iff.mp hended
      refine .ended (fun other hother => ?_) hterminated
      rw [hother] at hwaits
      cases hwaits
  · intro h
    cases h with
    | waits hwaits => simp [ContainerState.reason?, hwaits]
    | @ended state code reason hwaits hended =>
      have hnone : state.waiting.bind Waiting.reason = none := by
        cases hwaiting : state.waiting with
        | none => rfl
        | some waiting =>
          obtain ⟨_ | other⟩ := waiting
          · rfl
          · exact absurd hwaiting (hwaits other)
      simp [ContainerState.reason?, hnone, hended]

/-- A container without a state tells nothing, neither among the init containers nor elsewhere. -/
theorem isIdle_of_state_eq_none {c : ContainerStatus} (h : c.state = none) :
    IsIdle FailsInit c ∧ IsIdle ShowsReason c := by
  obtain rfl : c = ⟨none⟩ := congrArg ContainerStatus.mk h
  exact ⟨nofun, nofun⟩

end ContainerStatus

/-! ## Pods -/

open ContainerStatus

namespace PodStatus

/-- The word for the state of a pod, by precedence. A rule applies if none before it does. -/
inductive Displays (s : PodStatus) : String → Prop
  /-- The first init container that fails comes before everything else. -/
  | failing {reason : String} :
      FirstTells FailsInit s.initContainers reason → Displays s ("Init:" ++ reason)
  | container {reason : String} :
      (∀ c ∈ s.initContainers, IsIdle FailsInit c) →
      FirstTells ShowsReason s.containers reason → Displays s reason
  | own {reason : String} :
      (∀ c ∈ s.initContainers, IsIdle FailsInit c) → (∀ c ∈ s.containers, IsIdle ShowsReason c) →
      s.reason = some reason → Displays s reason
  | phase {phase : String} :
      (∀ c ∈ s.initContainers, IsIdle FailsInit c) → (∀ c ∈ s.containers, IsIdle ShowsReason c) →
      s.reason = none → s.phase = some phase → Displays s phase
  | unknown :
      (∀ c ∈ s.initContainers, IsIdle FailsInit c) → (∀ c ∈ s.containers, IsIdle ShowsReason c) →
      s.reason = none → s.phase = none → Displays s "Unknown"

theorem initFailure?_eq_some_iff {s : PodStatus} {reason : String} :
    s.initFailure? = some reason ↔ FirstTells FailsInit s.initContainers reason :=
  (firstTells_iff failsInit_iff).symm

theorem initFailure?_eq_none_iff {s : PodStatus} :
    s.initFailure? = none ↔ ∀ c ∈ s.initContainers, IsIdle FailsInit c :=
  (forall_isIdle_iff failsInit_iff).symm

theorem containerReason?_eq_some_iff {s : PodStatus} {reason : String} :
    s.containerReason? = some reason ↔ FirstTells ShowsReason s.containers reason :=
  (firstTells_iff showsReason_iff).symm

theorem containerReason?_eq_none_iff {s : PodStatus} :
    s.containerReason? = none ↔ ∀ c ∈ s.containers, IsIdle ShowsReason c :=
  (forall_isIdle_iff showsReason_iff).symm

/-- Some rule applies to every pod, and the display status is what it says. -/
theorem displays_display (s : PodStatus) : s.Displays s.display := by
  unfold display
  cases hinit : s.initFailure? with
  | some reason => exact .failing (initFailure?_eq_some_iff.mp hinit)
  | none =>
    have hfine := initFailure?_eq_none_iff.mp hinit
    cases hcontainer : s.containerReason? with
    | some reason => exact .container hfine (containerReason?_eq_some_iff.mp hcontainer)
    | none =>
      have hidle := containerReason?_eq_none_iff.mp hcontainer
      cases hreason : s.reason with
      | some reason => exact .own hfine hidle hreason
      | none =>
        cases hphase : s.phase with
        | some phase => exact .phase hfine hidle hreason hphase
        | none => exact .unknown hfine hidle hreason hphase

/-- No two rules apply to a pod. -/
theorem Displays.eq_display {s : PodStatus} {text : String} (h : s.Displays text) :
    s.display = text := by
  unfold display
  cases h with
  | failing hfirst => rw [initFailure?_eq_some_iff.mpr hfirst]
  | container hfine hfirst =>
    rw [initFailure?_eq_none_iff.mpr hfine, containerReason?_eq_some_iff.mpr hfirst]
    rfl
  | own hfine hidle hreason =>
    rw [initFailure?_eq_none_iff.mpr hfine, containerReason?_eq_none_iff.mpr hidle, hreason]
    rfl
  | phase hfine hidle hreason hphase =>
    rw [initFailure?_eq_none_iff.mpr hfine, containerReason?_eq_none_iff.mpr hidle, hreason, hphase]
    rfl
  | unknown hfine hidle hreason hphase =>
    rw [initFailure?_eq_none_iff.mpr hfine, containerReason?_eq_none_iff.mpr hidle, hreason, hphase]
    rfl

/-- The second status is the first with more containers that tell nothing: init containers that do
not fail, and others that show no reason. -/
structure GainsIdle (s s' : PodStatus) : Prop where
  initContainers : Gains (IsIdle FailsInit) s.initContainers s'.initContainers
  containers : Gains (IsIdle ShowsReason) s.containers s'.containers
  reason_eq : s'.reason = s.reason
  phase_eq : s'.phase = s.phase

theorem GainsIdle.display_eq {s s' : PodStatus} (h : s.GainsIdle s') : s'.display = s.display := by
  have hinit : s'.initFailure? = s.initFailure? :=
    h.initContainers.findSome?_eq fun _ => (isIdle_iff failsInit_iff).mp
  have hcontainer : s'.containerReason? = s.containerReason? :=
    h.containers.findSome?_eq fun _ => (isIdle_iff showsReason_iff).mp
  simp only [display, hinit, hcontainer, h.reason_eq, h.phase_eq]

end PodStatus

/-- The word for the state of a pod, which is as good as pending until it has a status. -/
inductive Pod.Displays (p : Pod) : String → Prop
  | pending : p.status = none → Displays p "Pending"
  | status {status : PodStatus} {text : String} :
      p.status = some status → status.Displays text → Displays p text

theorem Pod.display_eq_iff {p : Pod} {text : String} : p.display = text ↔ p.Displays text := by
  constructor
  · rintro rfl
    unfold Pod.display
    cases hstatus : p.status with
    | none => exact .pending hstatus
    | some s => exact .status hstatus s.displays_display
  · intro h
    cases h with
    | pending hstatus => simp only [Pod.display, hstatus]
    | status hstatus hdisplays => simp only [Pod.display, hstatus, hdisplays.eq_display]

/-- Every pod is shown in the one word that the precedence of its parts gives. Containers that tell
nothing, among them those without a state, may be put in or taken out anywhere without changing
it. -/
theorem display_follows_precedence (p : Pod) :
    (∀ text, p.display = text ↔ p.Displays text) ∧
    (∀ s s' : PodStatus, p.status = some s → s.GainsIdle s' ∨ s'.GainsIdle s →
      ({ p with status := some s' } : Pod).display = p.display) ∧
    ∀ c : ContainerStatus, c.state = none → IsIdle FailsInit c ∧ IsIdle ShowsReason c := by
  refine ⟨fun _ => Pod.display_eq_iff, ?_, fun _ => isIdle_of_state_eq_none⟩
  intro s s' hstatus hgains
  simp only [Pod.display, hstatus]
  rcases hgains with hgains | hgains
  · exact hgains.display_eq
  · exact hgains.display_eq.symm

/-- An init container that was stopped by a signal, behind one that has completed although it still
gives a reason for waiting, and beside one without a state. -/
theorem display_follows_precedence_init :
    let completed : ContainerStatus :=
      ⟨some ⟨some ⟨some "CrashLoopBackOff"⟩, some ⟨0, some "Completed"⟩⟩⟩
    let stopped : ContainerStatus := ⟨some { terminated := some ⟨-9, none⟩ }⟩
    let waiting : ContainerStatus := ⟨some { waiting := some ⟨some "PodInitializing"⟩ }⟩
    let s : PodStatus := { initContainers := [stopped], containers := [waiting] }
    let s' : PodStatus :=
      { initContainers := [completed, stopped], containers := [⟨none⟩, waiting] }
    s.GainsIdle s' ∧ IsIdle FailsInit completed ∧ FirstTells FailsInit [completed, stopped]
      "ExitCode:-9" ∧ ({ status := some s' } : Pod).display = "Init:ExitCode:-9" := by
  intro completed stopped waiting s s'
  have hcompleted : IsIdle FailsInit completed := (isIdle_iff failsInit_iff).mpr rfl
  have hcode : (-9 : Int) ≠ 0 := by decide
  have hstopped : FailsInit stopped "ExitCode:-9" := .endedSilently rfl hcode
  have hgains : s.GainsIdle s' :=
    ⟨.insert hcompleted [] [stopped], .insert (isIdle_of_state_eq_none rfl).2 [] [waiting],
      rfl, rfl⟩
  obtain ⟨hdisplays, hidle, -⟩ := display_follows_precedence { status := some s }
  refine ⟨hgains, hcompleted, ⟨[completed], stopped, [], rfl, hstopped, by simp [hcompleted]⟩, ?_⟩
  rw [hidle s s' rfl (.inl hgains)]
  exact (hdisplays _).mpr (.status rfl (.failing ⟨[], stopped, [], rfl, hstopped, nofun⟩))

end ClusterAudit
