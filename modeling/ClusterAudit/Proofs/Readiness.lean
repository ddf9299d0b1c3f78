-- SUMMARY: How the readiness of the nodes is graded, and what the lines about them say.
import ClusterAudit.Proofs.Severity
import ClusterAudit.Proofs.Workers

/-!
# Readiness of the nodes

A node is ready by its first condition that tells about readiness, and by nothing else in its list
of conditions. Status and message of the check go by two numbers, how many nodes there are and how
many of them are ready, so the order of the nodes matters for the lines alone. Each line says of its
node what the count says of it.
-/

namespace ClusterAudit

/-! ## Conditions -/

/-- The condition is about readiness, and the word is what it says. -/
def NodeCondition.TellsReadiness (c : NodeCondition) (word : String) : Prop :=
  c.kind = "Ready" ∧ word = c.status

/-- The second list has other conditions than the first, but none that matter: some that are about
something else, anywhere, or any that stand behind one about readiness. -/
inductive NodeCondition.Varies : List NodeCondition → List NodeCondition → Prop
  | others {conditions conditions' : List NodeCondition} :
    Gains (fun c => c.kind ≠ "Ready") conditions conditions' → Varies conditions conditions'
  | later (before after after' : List NodeCondition) {c : NodeCondition} :
    c.kind = "Ready" → Varies (before ++ c :: after) (before ++ c :: after')

namespace NodeCondition

/-- What the condition says about readiness. -/
def readiness? (c : NodeCondition) : Option String :=
  if c.kind = "Ready" then some c.status else none

theorem readiness?_eq_some_iff {c : NodeCondition} {word : String} :
    c.readiness? = some word ↔ c.TellsReadiness word := by
  unfold readiness? TellsReadiness
  split <;> simp_all [eq_comm]

theorem find?_eq_findSome? (conditions : List NodeCondition) :
    (conditions.find? (·.kind == "Ready")).map NodeCondition.status =
      conditions.findSome? readiness? := by
  induction conditions with
  | nil => rfl
  | cons c rest ih =>
    by_cases hkind : c.kind = "Ready"
    · simp [readiness?, hkind]
    · rw [List.find?_cons_of_neg (by simpa using hkind), List.findSome?_cons, ih]
      simp only [readiness?, if_neg hkind]

theorem Varies.findSome?_eq {conditions conditions' : List NodeCondition}
    (h : Varies conditions conditions') :
    conditions'.findSome? readiness? = conditions.findSome? readiness? := by
  cases h with
  | others hgains => exact hgains.findSome?_eq fun c hother => if_neg hother
  | later before after after' hkind =>
    simp only [List.findSome?_append, List.findSome?_cons, readiness?, if_pos hkind]

end NodeCondition

/-! ## Nodes -/

namespace Node

/-- The first condition of the node that is about readiness says that it is ready. -/
def CountsAsReady (n : Node) : Prop :=
  ∃ status, n.status = some status ∧
    FirstTells NodeCondition.TellsReadiness status.conditions "True"

theorem isReady_eq (n : Node) :
    n.isReady = (n.conditions.findSome? NodeCondition.readiness? == some "True") := by
  rw [← NodeCondition.find?_eq_findSome?, isReady]
  cases n.conditions.find? (·.kind == "Ready") <;> rfl

theorem isReady_iff_countsAsReady {n : Node} : n.isReady = true ↔ n.CountsAsReady := by
  rw [isReady_eq, beq_iff_eq, CountsAsReady, conditions]
  simp only [firstTells_iff fun _ _ => NodeCondition.readiness?_eq_some_iff]
  cases n.status <;> simp

instance : DecidablePred CountsAsReady :=
  fun _ => decidable_of_iff _ isReady_iff_countsAsReady

/-- The line says the word of the node, and after it the versions, if the node reports them. -/
def HasLineSaying (n : Node) (word line : String) : Prop :=
  ((∀ info, ¬ n.Reports info) ∧ line = n.metadata.shownName ++ "  " ++ word) ∨
    ∃ info, n.Reports info ∧ line = n.metadata.shownName ++ "  " ++ word ++ "  " ++ info.kubelet
      ++ "  " ++ info.osImage ++ "  " ++ info.kernel

/-- The line says of the node whether it is ready, and does not say the opposite. -/
structure HasReadinessLine (n : Node) (line : String) : Prop where
  ready_iff : n.HasLineSaying "Ready" line ↔ n.CountsAsReady
  notReady_iff : n.HasLineSaying "NotReady" line ↔ ¬ n.CountsAsReady

theorem HasLineSaying.isPrefix {n : Node} {word line : String} (h : n.HasLineSaying word line) :
    (n.metadata.shownName ++ "  ").toList ++ word.toList <+: line.toList := by
  obtain ⟨-, rfl⟩ | ⟨info, -, rfl⟩ := h
  · simp only [String.toList_append, List.prefix_refl]
  · simp only [String.toList_append, List.append_assoc, List.prefix_append_right_inj,
      List.prefix_append]

/-- No line says both that a node is ready and that it is not. -/
theorem HasLineSaying.not_both {n : Node} {line : String} (hready : n.HasLineSaying "Ready" line) :
    ¬ n.HasLineSaying "NotReady" line := by
  intro hunready
  have hwords := List.prefix_of_prefix_length_le hready.isPrefix hunready.isPrefix (by simp)
  rw [List.prefix_append_right_inj] at hwords
  revert hwords
  decide

theorem hasLineSaying_row (n : Node) :
    n.HasLineSaying (if n.isReady then "Ready" else "NotReady") n.row := by
  unfold row
  cases hinfo : n.info? with
  | none =>
    refine .inl ⟨fun info hreports => ?_, rfl⟩
    simp [info?_eq_some_iff.mpr hreports] at hinfo
  | some info => exact .inr ⟨info, info?_eq_some_iff.mp hinfo, rfl⟩

theorem hasReadinessLine_row (n : Node) : n.HasReadinessLine n.row := by
  have hsays := n.hasLineSaying_row
  by_cases hready : n.isReady = true
  · have hcounts := isReady_iff_countsAsReady.mp hready
    rw [if_pos hready] at hsays
    exact ⟨iff_of_true hsays hcounts, iff_of_false hsays.not_both (not_not.mpr hcounts)⟩
  · have hcounts := isReady_iff_countsAsReady.not.mp hready
    rw [if_neg hready] at hsays
    exact ⟨iff_of_false (fun h => h.not_both hsays) hcounts, iff_of_true hsays hcounts⟩

/-- The node with these conditions in place of its own. -/
def withConditions (n : Node) (conditions : List NodeCondition) : Node :=
  { n with status := n.status.map fun status => { status with conditions } }

theorem isReady_withConditions {n : Node} {status : NodeStatus} {conditions : List NodeCondition}
    (hstatus : n.status = some status) (h : NodeCondition.Varies status.conditions conditions) :
    (n.withConditions conditions).isReady = n.isReady := by
  simp only [isReady_eq, withConditions, Node.conditions, hstatus, Option.map_some,
    Option.getD_some, h.findSome?_eq]

/-- The line of a node depends on its conditions only by whether it is ready. -/
theorem row_withConditions {n : Node} {conditions : List NodeCondition}
    (h : (n.withConditions conditions).isReady = n.isReady) :
    (n.withConditions conditions).row = n.row := by
  have hinfo : (n.withConditions conditions).info? = n.info? := by
    unfold info? withConditions
    cases n.status <;> rfl
  simp only [row, h, hinfo]
  rfl

end Node

namespace Check

variable {nodes nodes' : List Node}

/-! ## The parts of the outcome -/

/-- How many of the nodes are ready. -/
def readyNodes (nodes : List Node) : Nat := nodes.countP (·.CountsAsReady)

theorem readyNodes_eq (nodes : List Node) : readyNodes nodes = nodes.countP Node.isReady :=
  List.countP_congr fun n _ => by rw [decide_eq_true_iff, Node.isReady_iff_countsAsReady]

theorem readyNodes_le_length (nodes : List Node) : readyNodes nodes ≤ nodes.length :=
  List.countP_le_length

theorem judgeNodes_eq (nodes : List Node) :
    judgeNodes nodes =
      { status :=
          if readyNodes nodes = 0 then .fail
          else if readyNodes nodes = nodes.length then .pass
          else .warn
        message :=
          if nodes.length = 0 then "No nodes found in cluster"
          else if readyNodes nodes = nodes.length then s!"All {nodes.length} nodes are Ready"
          else if readyNodes nodes = 0 then s!"No nodes Ready ({readyNodes nodes}/{nodes.length})"
          else s!"Only {readyNodes nodes}/{nodes.length} nodes Ready"
        details := (nodes.take detailLimit).map Node.row } := by
  have hle := readyNodes_le_length nodes
  simp only [judgeNodes, ← readyNodes_eq]
  by_cases htotal : nodes.length = 0
  · have hnone : readyNodes nodes = 0 := by omega
    simp only [if_pos htotal, if_pos hnone]
    rfl
  by_cases hall : readyNodes nodes = nodes.length
  · have hsome : readyNodes nodes ≠ 0 := by omega
    simp only [if_neg htotal, if_pos hall, if_neg hsome]
    rfl
  by_cases hnone : readyNodes nodes = 0
  · simp only [if_neg htotal, if_neg hall, if_pos hnone]
    rfl
  · simp only [if_neg htotal, if_neg hall, if_neg hnone]
    rfl

/-- Status and message go by how many nodes there are and how many of them are ready. -/
theorem judgeNodes_congr (hready : readyNodes nodes' = readyNodes nodes)
    (hlength : nodes'.length = nodes.length) :
    (judgeNodes nodes').status = (judgeNodes nodes).status ∧
      (judgeNodes nodes').message = (judgeNodes nodes).message := by
  simp only [judgeNodes_eq, hready, hlength, and_self]

/-- More ready nodes among as many do not look worse. -/
theorem rank_judgeNodes_le (hready : readyNodes nodes ≤ readyNodes nodes')
    (hlength : nodes'.length = nodes.length) :
    (judgeNodes nodes').rank ≤ (judgeNodes nodes).rank := by
  have hle' := readyNodes_le_length nodes'
  simp only [Outcome.rank, judgeNodes_eq, hlength] at hle' ⊢
  by_cases hnone : readyNodes nodes = 0
  · rw [if_pos hnone]
    split
    · exact Nat.le_refl _
    · split <;> decide
  rw [if_neg hnone, if_neg (show readyNodes nodes' ≠ 0 by omega)]
  by_cases hall : readyNodes nodes = nodes.length
  · have hall' : readyNodes nodes' = nodes.length := by omega
    simp only [if_pos hall, if_pos hall', Nat.le_refl]
  · rw [if_neg hall]
    split <;> decide

/-- A node may be replaced by one that is as ready and has the same line. -/
theorem judgeNodes_replace {n n' : Node} (hready : n'.isReady = n.isReady) (hrow : n'.row = n.row)
    (before after : List Node) :
    judgeNodes (before ++ n' :: after) = judgeNodes (before ++ n :: after) := by
  have hcount : readyNodes (before ++ n' :: after) = readyNodes (before ++ n :: after) := by
    simp only [readyNodes_eq, List.countP_append, List.countP_cons, hready]
  have hlength : (before ++ n' :: after).length = (before ++ n :: after).length := by simp
  have hrows : (before ++ n' :: after).map Node.row = (before ++ n :: after).map Node.row := by
    simp [hrow]
  simp only [judgeNodes_eq, hcount, hlength, List.map_take, hrows]

/-! ## The outcome -/

/-- What is told of the readiness of some nodes. -/
structure GradesNodes (nodes : List Node) (o : Outcome) : Prop where
  fail_iff : o.status = .fail ↔ nodes.length = 0 ∨ readyNodes nodes = 0
  pass_iff : o.status = .pass ↔ readyNodes nodes = nodes.length ∧ 0 < nodes.length
  warn_iff : o.status = .warn ↔ 0 < readyNodes nodes ∧ readyNodes nodes < nodes.length
  warns : o.status = .warn → o.message =
    "Only " ++ toString (readyNodes nodes) ++ "/" ++ toString nodes.length ++ " nodes Ready"
  length_details : o.details.length = min nodes.length 5
  /-- The lines are about the first nodes, in their order. -/
  details : List.Forall₂ Node.HasReadinessLine (nodes.take 5) o.details

theorem gradesNodes_judgeNodes (nodes : List Node) : GradesNodes nodes (judgeNodes nodes) := by
  have hle := readyNodes_le_length nodes
  rw [judgeNodes_eq]
  refine ⟨?_, ?_, ?_, fun hwarn => ?_, ?_, ?_⟩
  · split_ifs <;> simp only [true_iff, false_iff] <;> omega
  · split_ifs <;> simp only [true_iff, false_iff] <;> omega
  · split_ifs <;> simp only [true_iff, false_iff] <;> omega
  · have hsome : readyNodes nodes ≠ 0 := fun hnone => by simp [hnone] at hwarn
    have hother : readyNodes nodes ≠ nodes.length := fun hall => by
      simp [hall, hall ▸ hsome] at hwarn
    simp only [if_neg hsome, if_neg hother, if_neg (show nodes.length ≠ 0 by omega)]
    rfl
  · simp [detailLimit, Nat.min_comm]
  · rw [detailLimit, List.forall₂_map_right_iff, List.forall₂_same]
    exact fun n _ => n.hasReadinessLine_row

/-- The readiness of nodes is graded by how many there are and how many of these are ready. The
order of the nodes does not change status and message, conditions that do not matter change nothing
at all, and nodes that become ready do not make it look worse. -/
theorem nodes_are_graded_by_readiness (nodes : List Node) :
    GradesNodes nodes (judgeNodes nodes) ∧
    (∀ nodes', nodes.Perm nodes' →
      (judgeNodes nodes').status = (judgeNodes nodes).status ∧
        (judgeNodes nodes').message = (judgeNodes nodes).message) ∧
    (∀ before n after status conditions, nodes = before ++ n :: after → n.status = some status →
      NodeCondition.Varies status.conditions conditions →
      judgeNodes (before ++ n.withConditions conditions :: after) = judgeNodes nodes) ∧
    ∀ nodes', List.Forall₂ (fun n n' => n.CountsAsReady → n'.CountsAsReady) nodes nodes' →
      (judgeNodes nodes').rank ≤ (judgeNodes nodes).rank := by
  refine ⟨gradesNodes_judgeNodes nodes, ?_, ?_, ?_⟩
  · intro nodes' hperm
    exact judgeNodes_congr (hperm.countP_eq _).symm hperm.length_eq.symm
  · rintro before n after status conditions rfl hstatus hvaries
    have hready := Node.isReady_withConditions hstatus hvaries
    exact judgeNodes_replace hready (Node.row_withConditions hready) before after
  · intro nodes' hmore
    refine rank_judgeNodes_le (countP_le_of_forall₂ (hmore.imp fun n n' hready => ?_))
      hmore.length_eq.symm
    simpa only [decide_eq_true_iff] using hready

/-- A node that is ready by its first condition and not by its second, one that is not ready the
other way around, and one that reports nothing: turned around, with what is said too late left
away, and with the second node ready. -/
theorem nodes_are_graded_by_readiness_partial :
    let node (name : String) (conditions : List NodeCondition) : Node :=
      { metadata := { name := some name }, status := some { conditions } }
    let ready := node "cp-1" [⟨"DiskPressure", "False"⟩, ⟨"Ready", "True"⟩, ⟨"Ready", "False"⟩]
    let unready := node "cp-2" [⟨"Ready", "Unknown"⟩, ⟨"Ready", "True"⟩]
    let mended := node "cp-2" [⟨"Ready", "True"⟩]
    let bare : Node := {}
    let nodes := [ready, unready, bare]
    let o : Outcome := ⟨.warn, "Only 1/3 nodes Ready",
      ["cp-1  Ready", "cp-2  NotReady", "<unnamed>  NotReady"]⟩
    judgeNodes nodes = o ∧ GradesNodes nodes o ∧
    (nodes.Perm nodes.reverse ∧ (judgeNodes nodes.reverse).message = o.message) ∧
    (NodeCondition.Varies [⟨"Ready", "Unknown"⟩, ⟨"Ready", "True"⟩] [⟨"Ready", "Unknown"⟩] ∧
      judgeNodes [ready, unready.withConditions [⟨"Ready", "Unknown"⟩], bare] = o) ∧
    List.Forall₂ (fun n n' => n.CountsAsReady → n'.CountsAsReady) nodes [ready, mended, bare] ∧
    (judgeNodes [ready, mended, bare]).rank ≤ o.rank := by
  intro node ready unready mended bare nodes o
  have ho : judgeNodes nodes = o := by decide
  obtain ⟨hgrades, hperm, hvaries, hmore⟩ := nodes_are_graded_by_readiness nodes
  have hreverse : nodes.Perm nodes.reverse := nodes.reverse_perm.symm
  have hlater : NodeCondition.Varies [⟨"Ready", "Unknown"⟩, ⟨"Ready", "True"⟩]
      [⟨"Ready", "Unknown"⟩] := .later [] [⟨"Ready", "True"⟩] [] rfl
  have hmended : List.Forall₂ (fun n n' => n.CountsAsReady → n'.CountsAsReady) nodes
      [ready, mended, bare] := by
    refine .cons id (.cons (fun _ => ?_) (.cons id .nil))
    exact Node.isReady_iff_countsAsReady.mp (by decide)
  exact ⟨ho, ho ▸ hgrades, ⟨hreverse, ho ▸ (hperm _ hreverse).2⟩,
    ⟨hlater, (hvaries [ready] unready [bare] _ _ rfl rfl hlater).trans ho⟩, hmended,
    ho ▸ hmore _ hmended⟩

end Check

end ClusterAudit
