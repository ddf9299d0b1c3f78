-- SUMMARY: Which required definitions are told to be missing, and which installed ones matter.
import ClusterAudit.Check.Provisioning
import ClusterAudit.Proofs.Display
import ClusterAudit.Proofs.Probe
import Mathlib.Data.List.Basic

/-!
# Required definitions

The check for definitions compares two lists of names, of which one is a demand and the other only
stands for a set. So the outcome keeps the order and the repetitions of the required names, and goes
by the installed ones through a single question, whether a required name is among them: their order,
their repetitions and the names that nobody requires do not matter, and more of them can only
shorten the list of what is missing.
-/

namespace ClusterAudit

variable {σ : Type}

/-- An item of the longer list was there before, or it is an extra one. -/
theorem Gains.mem_or_extra {α : Type} {extra : α → Prop} {as as' : List α}
    (h : Gains extra as as') {a : α} (ha : a ∈ as') : a ∈ as ∨ extra a := by
  induction h with
  | nil => cases ha
  | keep b _ ih =>
    obtain rfl | ha := List.mem_cons.mp ha
    · exact .inl List.mem_cons_self
    · exact (ih ha).imp_left (List.mem_cons_of_mem b)
  | gain hextra _ ih =>
    obtain rfl | ha := List.mem_cons.mp ha
    · exact .inr hextra
    · exact ih ha

namespace Check

variable {required installed installed' : List String}

/-! ## Missing names -/

theorem missingDefinitions_eq (required installed : List String) :
    missingDefinitions required installed = required.filter fun name => name ∉ installed := by
  exact List.filter_congr fun name _ => by simp

theorem missingDefinitions_eq_nil_iff :
    missingDefinitions required installed = [] ↔ ∀ name ∈ required, name ∈ installed := by
  simp only [missingDefinitions_eq, List.filter_eq_nil_iff, decide_eq_true_iff, not_not]

/-- Only whether the required names are installed matters. -/
theorem missingDefinitions_congr (h : ∀ name ∈ required, name ∈ installed' ↔ name ∈ installed) :
    missingDefinitions required installed' = missingDefinitions required installed := by
  rw [missingDefinitions_eq, missingDefinitions_eq]
  exact List.filter_congr fun name hname => by simp only [h name hname]

/-- Nothing that was there is missing where more is installed. -/
theorem missingDefinitions_sublist (h : installed ⊆ installed') :
    (missingDefinitions required installed').Sublist (missingDefinitions required installed) := by
  rw [missingDefinitions_eq, missingDefinitions_eq]
  refine List.monotone_filter_right required fun name habsent => ?_
  simp only [decide_eq_true_iff] at habsent ⊢
  exact fun hinstalled => habsent (h hinstalled)

/-! ## The outcome -/

theorem judgeDefinitions_of_missing_nil (h : missingDefinitions required installed = []) :
    judgeDefinitions required installed =
      { status := .pass, message := s!"All {required.length} Proxmox CRDs installed"
        details := required.map ("✓ " ++ ·) } := by
  simp only [judgeDefinitions, h]
  rfl

theorem judgeDefinitions_of_missing_ne_nil (h : missingDefinitions required installed ≠ []) :
    judgeDefinitions required installed =
      .fail ("Missing CRDs: "
        ++ String.intercalate ", " (missingDefinitions required installed)) := by
  have hsome : (missingDefinitions required installed).isEmpty = false := by simpa using h
  simp only [judgeDefinitions, hsome]
  rfl

/-- What is told of required names and installed ones. -/
structure TellsDefinitions (required installed : List String) (o : Outcome) : Prop where
  pass_iff : o.status = .pass ↔ ∀ name ∈ required, name ∈ installed
  fail_iff : o.status = .fail ↔ ∃ name ∈ required, name ∉ installed
  passes : o.status = .pass →
    o.message = "All " ++ toString required.length ++ " Proxmox CRDs installed" ∧
      o.details = required.map ("✓ " ++ ·)
  fails : o.status = .fail →
    o = .fail ("Missing CRDs: "
      ++ String.intercalate ", " (required.filter fun name => name ∉ installed))

theorem tellsDefinitions_judgeDefinitions (required installed : List String) :
    TellsDefinitions required installed (judgeDefinitions required installed) := by
  have hall := @missingDefinitions_eq_nil_iff required installed
  have hsome : missingDefinitions required installed ≠ [] ↔
      ∃ name ∈ required, name ∉ installed := by
    simp only [ne_eq, hall, not_forall, exists_prop]
  by_cases hmissing : missingDefinitions required installed = []
  · rw [judgeDefinitions_of_missing_nil hmissing]
    exact ⟨iff_of_true rfl (hall.mp hmissing),
      iff_of_false nofun (hsome.not.mp (not_not.mpr hmissing)), fun _ => ⟨rfl, rfl⟩, nofun⟩
  · rw [judgeDefinitions_of_missing_ne_nil hmissing, missingDefinitions_eq]
    exact ⟨iff_of_false nofun (hall.not.mp hmissing), iff_of_true rfl (hsome.mp hmissing), nofun,
      fun _ => rfl⟩

theorem judgeDefinitions_congr (h : ∀ name ∈ required, name ∈ installed' ↔ name ∈ installed) :
    judgeDefinitions required installed' = judgeDefinitions required installed := by
  simp only [judgeDefinitions, missingDefinitions_congr h]

/-- The required definitions pass exactly if all of them are installed, and otherwise the missing
ones are told in their order. Of the installed names it only matters which of the required ones are
among them, and with more of them no more is missing. -/
theorem definitions_are_told_by_inclusion (required installed : List String) :
    TellsDefinitions required installed (judgeDefinitions required installed) ∧
    (∀ installed', (∀ name ∈ required, name ∈ installed' ↔ name ∈ installed) →
      judgeDefinitions required installed' = judgeDefinitions required installed) ∧
    (∀ installed', installed.Perm installed' ∨
        Gains (fun name => name ∈ installed ∨ name ∉ required) installed installed' →
      judgeDefinitions required installed' = judgeDefinitions required installed) ∧
    (∀ installed', installed ⊆ installed' →
      (required.filter fun name => name ∉ installed').Sublist
          (required.filter fun name => name ∉ installed) ∧
        ((judgeDefinitions required installed).status = .pass →
          (judgeDefinitions required installed').status = .pass)) ∧
    ∀ (env : Environment σ) (s : σ) (found : List Named),
      (env.answer (.cluster .definitions) s).1 = .ok found →
      ((definitions required).probe.run env s).value =
        [judgeDefinitions required (found.map fun d => d.metadata.shownName)] := by
  refine ⟨tellsDefinitions_judgeDefinitions required installed, fun installed' hsame => ?_,
    fun installed' hother => ?_, fun installed' hmore => ⟨?_, fun hpass => ?_⟩,
    fun env s found hfound => value_single hfound _ _⟩
  · exact judgeDefinitions_congr hsame
  · refine judgeDefinitions_congr fun name hname => ?_
    obtain hperm | hgains := hother
    · exact hperm.symm.mem_iff
    · refine ⟨fun hinstalled => ?_, fun hinstalled => hgains.sublist.subset hinstalled⟩
      obtain hold | hold | hidle := hgains.mem_or_extra hinstalled
      · exact hold
      · exact hold
      · exact absurd hname hidle
  · rw [← missingDefinitions_eq, ← missingDefinitions_eq]
    exact missingDefinitions_sublist hmore
  · have hall := (tellsDefinitions_judgeDefinitions required installed).pass_iff.mp hpass
    refine (tellsDefinitions_judgeDefinitions required installed').pass_iff.mpr ?_
    exact fun name hname => hmore (hall name hname)

/-- One of two required names is installed, and the start of the other, between names that nobody
requires: turned around, with one of each kind put in once more, and with all that is required. -/
theorem definitions_are_told_by_inclusion_start :
    let required := ["proxmoxmachines", "proxmoxclusters"]
    let installed := ["proxmoxmachine", "proxmoxclusters", "nodes"]
    let installed' := ["proxmoxmachine", "proxmoxclusters", "pods", "proxmoxclusters", "nodes"]
    let o : Outcome := .fail "Missing CRDs: proxmoxmachines"
    let env : Environment Unit :=
      { cluster := fun
          | .definitions => pure (.ok (installed.map fun name => ⟨{ name := some name }⟩))
          | _ => pure (.error (.timeout 30))
        hypervisor := fun _ => pure (.error (.query (.http .unbuilt))) }
    TellsDefinitions required installed o ∧
    (installed.Perm installed.reverse ∧ judgeDefinitions required installed.reverse = o) ∧
    (Gains (fun name => name ∈ installed ∨ name ∉ required) installed installed' ∧
      judgeDefinitions required installed' = o) ∧
    (installed ⊆ required ++ installed ∧
      (judgeDefinitions required (required ++ installed)).status = .pass) ∧
    ((definitions required).probe.run env ()).value = [o] := by
  intro required installed installed' o env
  have ho : judgeDefinitions required installed = o := by decide
  obtain ⟨htells, -, hother, -, hrun⟩ :=
    definitions_are_told_by_inclusion required installed (σ := Unit)
  obtain ⟨hall, -, -, hmore, -⟩ :=
    definitions_are_told_by_inclusion required required (σ := Unit)
  have hreverse : installed.Perm installed.reverse := installed.reverse_perm.symm
  have hgains : Gains (fun name => name ∈ installed ∨ name ∉ required) installed installed' :=
    .keep _ (.keep _ (.gain (.inr (by decide)) (.gain (.inl (by decide)) (.keep _ .nil))))
  have hpass := hall.pass_iff.mpr fun _ hname => hname
  exact ⟨ho ▸ htells, ⟨hreverse, (hother _ (.inl hreverse)).trans ho⟩,
    ⟨hgains, (hother _ (.inr hgains)).trans ho⟩,
    ⟨List.subset_append_right _ _, (hmore _ (List.subset_append_left _ _)).2 hpass⟩,
    ho ▸ hrun env () _ rfl⟩

end Check

end ClusterAudit
