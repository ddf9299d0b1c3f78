-- SUMMARY: Which failing init containers put a pod in an error state.
import ClusterAudit.Proofs.ErrorStates
import ClusterAudit.Proofs.Scanning

/-!
# Failing init containers

A pod with a failing init container is shown as `Init:` and the word for the failure. No error
marker holds a colon, so none is found across one: the word for such a pod is an error exactly if
what follows the prefix is. Where an exit code stands in for a reason, a second colon divides it
from the word in front, and the word is never an error.

The word is that of the first init container that fails. The reason of a second one is hidden by it,
also where the first gives none.
-/

namespace ClusterAudit

open ContainerStatus

namespace Text

variable {α : Type} {mark : α} {run front rest : List α}

/-! ## Runs of characters without a mark -/

theorem eq_nil_of_suffix_concat (h : mark ∉ run) (hend : run <:+ front ++ [mark]) : run = [] := by
  obtain rfl | ⟨start, rfl, -⟩ := List.suffix_concat_iff.mp hend
  · rfl
  · exact absurd (by simp) h

/-- A run without the mark stands before it or behind it. -/
theorem infix_append_cons_iff (h : mark ∉ run) :
    run <:+: front ++ mark :: rest ↔ run <:+: front ∨ run <:+: rest := by
  constructor
  · intro hrun
    rw [List.append_cons, List.infix_append_iff, List.infix_concat_iff] at hrun
    rcases hrun with (hend | hfront) | hrest | ⟨start, tail, rfl, hstart, htail⟩
    · rw [eq_nil_of_suffix_concat h hend]
      exact .inl List.nil_infix
    · exact .inl hfront
    · exact .inr hrest
    · have hnil : start = [] := eq_nil_of_suffix_concat (fun hmark => h (by simp [hmark])) hstart
      rw [hnil, List.nil_append]
      exact .inr htail.isInfix
  · rintro (hfront | hrest)
    · exact hfront.trans (List.prefix_append front _).isInfix
    · exact hrest.trans ((List.suffix_cons mark rest).trans (List.suffix_append front _)).isInfix

end Text

/-! ## Error markers around a colon -/

/-- Error markers are found on the two sides of a colon and nowhere else. -/
theorem marksError_append_colon_iff {front rest : String} :
    MarksError (front ++ ":" ++ rest) ↔ MarksError front ∨ MarksError rest := by
  have hcolon : ∀ marker ∈ errorMarkers, ':' ∉ marker.toList := by decide
  have htext : (front ++ ":" ++ rest).toList = front.toList ++ ':' :: rest.toList := by
    simp only [String.toList_append, List.append_assoc]
    rfl
  simp only [MarksError, htext, ← exists_or, ← and_or_left]
  refine exists_congr fun marker => and_congr_right fun hmarker => ?_
  exact Text.infix_append_cons_iff (hcolon marker hmarker)

/-- The prefix of failing init containers neither makes an error nor hides one. -/
theorem marksError_init_iff {text : String} : MarksError ("Init:" ++ text) ↔ MarksError text := by
  have hinit : ¬ MarksError "Init" := fun h => absurd (isErrorState_iff.mpr h) (by decide)
  have htext : "Init:" ++ text = "Init" ++ ":" ++ text := rfl
  rw [htext, marksError_append_colon_iff, or_iff_right hinit]

theorem isErrorState_init (text : String) : isErrorState ("Init:" ++ text) = isErrorState text := by
  rw [Bool.eq_iff_iff, isErrorState_iff, isErrorState_iff, marksError_init_iff]

/-- A whole number is written with digits and a sign. -/
theorem isDigit_or_of_mem_toString {code : Int} {c : Char} (hc : c ∈ (toString code).toList) :
    c.isDigit = true ∨ c = '-' := by
  cases code with
  | ofNat n =>
    have hdigits : c ∈ Nat.toDigits 10 n := Text.toList_toString n ▸ hc
    exact .inl (Nat.isDigit_of_mem_toDigits (by decide) (by decide) hdigits)
  | negSucc n =>
    have htext : (toString (Int.negSucc n)).toList = '-' :: Nat.toDigits 10 (n + 1) := by
      rw [← Text.toList_toString]
      exact String.toList_append
    rw [htext, List.mem_cons] at hc
    exact hc.symm.imp_left (Nat.isDigit_of_mem_toDigits (by decide) (by decide))

/-- Every error marker has a letter, so no number holds one. -/
theorem not_marksError_toString (code : Int) : ¬ MarksError (toString code) := by
  rintro ⟨marker, hmarker, hheld⟩
  have hletter : ∀ marker ∈ errorMarkers,
      (marker.toList.any fun c => !c.isDigit && c != '-') = true := by decide
  obtain ⟨c, hc, hplain⟩ := List.any_eq_true.mp (hletter marker hmarker)
  rw [Bool.and_eq_true, Bool.not_eq_true', bne_iff_ne] at hplain
  obtain hdigit | hsign := isDigit_or_of_mem_toString (hheld.subset hc)
  · exact Bool.noConfusion (hdigit.symm.trans hplain.1)
  · exact hplain.2 hsign

theorem not_marksError_exitCode (code : Int) : ¬ MarksError ("ExitCode:" ++ toString code) := by
  have hstart : ¬ MarksError "ExitCode" := fun h => absurd (isErrorState_iff.mpr h) (by decide)
  have htext : "ExitCode:" ++ toString code = "ExitCode" ++ ":" ++ toString code := rfl
  rw [htext, marksError_append_colon_iff]
  exact not_or.mpr ⟨hstart, not_marksError_toString code⟩

/-! ## Pods with failing init containers -/

namespace ContainerStatus

/-- The container reports that it has ended with the exit code, and gives no reason. -/
def EndsSilently (c : ContainerStatus) (code : Int) : Prop :=
  ∃ state, c.state = some state ∧ state.terminated = some ⟨code, none⟩

/-- The init container fails and gives a reason for it. -/
def FailsSaying (c : ContainerStatus) (reason : String) : Prop :=
  c.FailsInit reason ∧ ∀ code, ¬ c.EndsSilently code

theorem EndsSilently.failsInit {c : ContainerStatus} {code : Int} (h : c.EndsSilently code)
    (hcode : code ≠ 0) : c.FailsInit ("ExitCode:" ++ toString code) := by
  obtain ⟨state, hstate, hended⟩ := h
  obtain rfl : c = ⟨some state⟩ := congrArg ContainerStatus.mk hstate
  exact .endedSilently hended hcode

end ContainerStatus

/-- The first init container that fails decides about the pod. -/
theorem Pod.isBroken_iff_of_failing {p : Pod} {s : PodStatus} {word : String}
    (hstatus : p.status = some s) (hfirst : FirstTells FailsInit s.initContainers word) :
    p.isBroken = true ↔ MarksError word := by
  have hdisplay : p.display = "Init:" ++ word :=
    Pod.display_eq_iff.mpr (.status hstatus (.failing hfirst))
  rw [Pod.isBroken, isErrorState_iff, hdisplay, marksError_init_iff]

/-- The prefix for failing init containers does not change whether a word is an error, and with an
exit code behind it the word never is one. So the first init container that fails decides about its
pod, whatever else is reported: if it gives a reason, the pod is in an error state exactly if the
reason holds a marker, and if it gives none, the pod is not. -/
theorem failing_init_decides :
    (∀ text, isErrorState ("Init:" ++ text) = isErrorState text) ∧
    (∀ (p : Pod) (s : PodStatus) (before after : List ContainerStatus) (c : ContainerStatus),
      p.status = some s → s.initContainers = before ++ c :: after →
      (∀ b ∈ before, IsIdle FailsInit b) →
      (∀ reason, c.FailsSaying reason → (p.isBroken = true ↔ MarksError reason)) ∧
      ∀ code, code ≠ 0 → c.EndsSilently code → p.isBroken = false) ∧
    ∀ code : Int, isErrorState ("Init:ExitCode:" ++ toString code) = false := by
  refine ⟨isErrorState_init, ?_, fun code => ?_⟩
  · intro p s before after c hstatus hinit hbefore
    have hfirst {word : String} (hfails : c.FailsInit word) :
        FirstTells FailsInit s.initContainers word := ⟨before, c, after, hinit, hfails, hbefore⟩
    refine ⟨fun reason hc => Pod.isBroken_iff_of_failing hstatus (hfirst hc.1), ?_⟩
    intro code hcode hsilent
    rw [Bool.eq_false_iff, Ne,
      Pod.isBroken_iff_of_failing hstatus (hfirst (hsilent.failsInit hcode))]
    exact not_marksError_exitCode code
  · have htext : "Init:ExitCode:" ++ toString code = "Init:" ++ ("ExitCode:" ++ toString code) := by
      rw [← String.append_assoc]
      rfl
    rw [htext, isErrorState_init, Bool.eq_false_iff, Ne, isErrorState_iff]
    exact not_marksError_exitCode code

/-- A crash behind a completed init container and before a container that is fine, and an exit code
without a reason in a pod that is otherwise in an error state. -/
theorem failing_init_decides_crashing :
    let completed : ContainerStatus := ⟨some { terminated := some ⟨0, some "Error"⟩ }⟩
    let crashing : ContainerStatus := ⟨some { waiting := some ⟨some "Init:CrashLoopBackOff"⟩ }⟩
    let silent : ContainerStatus := ⟨some { terminated := some ⟨-9, none⟩ }⟩
    let waiting : ContainerStatus := ⟨some { waiting := some ⟨some "PodInitializing"⟩ }⟩
    let s : PodStatus :=
      { phase := some "Pending", initContainers := [completed, crashing, silent]
        containers := [waiting] }
    let s' : PodStatus :=
      { phase := some "Unknown", reason := some "Error", initContainers := [waiting, silent] }
    let crashed : Pod := { status := some s }
    let stopped : Pod := { status := some s' }
    crashing.FailsSaying "Init:CrashLoopBackOff" ∧ crashed.isBroken = true ∧
      silent.EndsSilently (-9) ∧ stopped.isBroken = false ∧
      isErrorState ("Init:ExitCode:" ++ toString (-9 : Int)) = false := by
  intro completed crashing silent waiting s s' crashed stopped
  have hcompleted : IsIdle FailsInit completed := (isIdle_iff failsInit_iff).mpr rfl
  have hwaiting : IsIdle FailsInit waiting := (isIdle_iff failsInit_iff).mpr rfl
  have hsaying : crashing.FailsSaying "Init:CrashLoopBackOff" := by
    refine ⟨.waits rfl rfl (by decide), ?_⟩
    rintro code ⟨state, hstate, hended⟩
    cases hstate
    cases hended
  have hsilent : silent.EndsSilently (-9) := ⟨_, rfl, rfl⟩
  have hmarks : MarksError "Init:CrashLoopBackOff" := isErrorState_iff.mp (by decide)
  obtain ⟨-, hdecides, hcode⟩ := failing_init_decides
  have hcrashed := hdecides crashed s [completed] [silent] crashing rfl rfl (by simp [hcompleted])
  have hstopped := hdecides stopped s' [waiting] [] silent rfl rfl (by simp [hwaiting])
  exact ⟨hsaying, (hcrashed.1 _ hsaying).mpr hmarks, hsilent,
    hstopped.2 (-9) (by decide) hsilent, hcode (-9)⟩

/-- A failing init container that gives no reason hides one behind it that gives an error, and is
then the only one of the two that is looked at. -/
theorem silent_init_hides_reason :
    let silent : ContainerStatus := ⟨some { terminated := some ⟨137, none⟩ }⟩
    let crashing : ContainerStatus := ⟨some { waiting := some ⟨some "CrashLoopBackOff"⟩ }⟩
    let p : Pod :=
      { metadata := { name := some "web-0", ns := some "ns" }
        status := some { phase := some "Pending", initContainers := [silent, crashing] } }
    crashing.FailsSaying "CrashLoopBackOff" ∧ MarksError "CrashLoopBackOff" ∧
      (∀ reason, ¬ silent.FailsSaying reason) ∧ p.display = "Init:ExitCode:137" ∧
      p.isBroken = false := by
  intro silent crashing p
  refine ⟨⟨.waits rfl rfl (by decide), ?_⟩, isErrorState_iff.mp (by decide), ?_, rfl, by decide⟩
  · rintro code ⟨state, hstate, hended⟩
    cases hstate
    cases hended
  · exact fun reason hsaying => hsaying.2 137 ⟨_, rfl, rfl⟩

end ClusterAudit
