-- SUMMARY: Which nodes are found to run on the hypervisor, and which node ends the search.
import ClusterAudit.Check.Nodes
import ClusterAudit.Proofs.Display
import ClusterAudit.Proofs.Probe
import Mathlib.Data.List.Forall2

/-!
# Nodes on the hypervisor

The search for nodes on the hypervisor needs the versions of every node. It goes through the nodes
once, so of several nodes without versions it is the first that is told, and what was found so far
is lost. Where all nodes report their versions, the outcome has one line for each node that holds a
marker, and what it says follows from the number of these lines.
-/

namespace ClusterAudit

variable {σ : Type}

/-! ## Markers -/

namespace Text

/-- The marker occurs in the text once both are put in lower case. -/
def Holds (text marker : String) : Prop := lower marker.toList <:+: lower text.toList

theorem containsIgnoreCase_iff {text marker : String} :
    containsIgnoreCase text marker = true ↔ Holds text marker :=
  occursIn_iff

end Text

/-! ## Nodes -/

namespace Node

/-- The node reports these versions. -/
def Reports (n : Node) (info : NodeInfo) : Prop :=
  ∃ status, n.status = some status ∧ status.info = some info

/-- The node reports no versions, which is the fault of it. -/
def LacksInfo (n : Node) (fault : ShapeFault) : Prop :=
  (∀ info, ¬ n.Reports info) ∧
    fault = ⟨"node " ++ n.metadata.shownName, "missing status.nodeInfo"⟩

theorem info?_eq_some_iff {n : Node} {info : NodeInfo} :
    n.info? = some info ↔ n.Reports info :=
  Option.bind_eq_some_iff

theorem lacksInfo_iff {n : Node} {fault : ShapeFault} :
    n.LacksInfo fault ↔
      n.info? = none ∧ fault = ⟨"node " ++ n.metadata.shownName, "missing status.nodeInfo"⟩ := by
  simp only [LacksInfo, ← info?_eq_some_iff, Option.eq_none_iff_forall_ne_some, ne_eq]

theorem exists_lacksInfo_iff {n : Node} :
    (∃ fault, n.LacksInfo fault) ↔ ∀ info, ¬ n.Reports info :=
  ⟨fun ⟨_, hnone, _⟩ => hnone, fun hnone => ⟨_, hnone, rfl⟩⟩

/-- The kernel of the node or its operating system holds the marker for it. -/
def IsMarked (markers : Check.WorkerMarkers) (n : Node) : Prop :=
  ∃ info, n.Reports info ∧
    (Text.Holds info.kernel markers.kernel ∨ Text.Holds info.osImage markers.osImage)

theorem isMarked_iff {markers : Check.WorkerMarkers} {n : Node} :
    n.IsMarked markers ↔ n.info?.any markers.marks = true := by
  simp only [IsMarked, ← info?_eq_some_iff, ← Text.containsIgnoreCase_iff, Option.any_eq_true,
    Check.WorkerMarkers.marks, Bool.or_eq_true]

instance (markers : Check.WorkerMarkers) : DecidablePred (IsMarked markers) :=
  fun _ => decidable_of_iff _ isMarked_iff.symm

/-- The line tells of the node. -/
def HasWorkerLine (n : Node) (line : String) : Prop :=
  ∃ info, n.Reports info ∧
    line = "Node: " ++ n.metadata.shownName ++ ", OS: " ++ info.osImage ++ ", Kernel: "
      ++ info.kernel

end Node

namespace Check

variable {markers : WorkerMarkers} {nodes : List Node}

/-! ## The search -/

/-- The search ends in the fault of the first node without versions. -/
theorem workerRows_eq_error_iff {fault : ShapeFault} :
    workerRows markers nodes = .error fault ↔ FirstTells Node.LacksInfo nodes fault := by
  induction nodes with
  | nil => simp [workerRows, not_firstTells_nil]
  | cons n rest ih =>
    rw [firstTells_cons_iff, ← ih, workerRows, Node.lacksInfo_iff]
    cases hinfo : n.info? with
    | none =>
      have hfaulty : ¬ IsIdle Node.LacksInfo n := fun hidle =>
        hidle _ (Node.lacksInfo_iff.mpr ⟨hinfo, rfl⟩)
      simp only [hfaulty, false_and, or_false, true_and, Except.error.injEq, eq_comm]
    | some info =>
      have hidle : IsIdle Node.LacksInfo n := fun fault hlacks => by
        simp [Node.lacksInfo_iff, hinfo] at hlacks
      simp only [hidle, true_and, reduceCtorEq, false_and, false_or]
      cases workerRows markers rest <;> simp [bind, Except.bind, pure, Except.pure]

/-- A search that goes through all nodes leaves one line for each node that holds a marker. -/
theorem rows_of_workerRows {rows : List String} (h : workerRows markers nodes = .ok rows) :
    List.Forall₂ Node.HasWorkerLine (nodes.filter (·.IsMarked markers)) rows := by
  induction nodes generalizing rows with
  | nil =>
    obtain rfl : [] = rows := Except.ok.inj h
    exact .nil
  | cons n rest ih =>
    rw [workerRows] at h
    cases hinfo : n.info? with
    | none => simp [hinfo] at h
    | some info =>
      cases hrest : workerRows markers rest with
      | error fault => simp [hinfo, hrest, bind, Except.bind] at h
      | ok found =>
        simp only [hinfo, hrest, bind, Except.bind, pure, Except.pure, Except.ok.injEq] at h
        have hmarked : n.IsMarked markers ↔ markers.marks info = true := by
          rw [Node.isMarked_iff, hinfo, Option.any_some]
        by_cases hmarks : markers.marks info = true
        · rw [if_pos hmarks] at h
          subst h
          rw [List.filter_cons, if_pos (decide_eq_true (hmarked.mpr hmarks))]
          exact .cons ⟨info, Node.info?_eq_some_iff.mp hinfo, rfl⟩ (ih hrest)
        · rw [if_neg hmarks] at h
          subst h
          rw [List.filter_cons, if_neg (by rwa [decide_eq_true_iff, hmarked])]
          exact ih hrest

/-! ## The outcome -/

/-- What is told of nodes that all report their versions. -/
structure TellsWorkers (markers : WorkerMarkers) (nodes : List Node) (o : Outcome) : Prop where
  warn_iff : o.status = .warn ↔ ∀ n ∈ nodes, ¬ n.IsMarked markers
  pass_iff : o.status = .pass ↔ ∃ n ∈ nodes, n.IsMarked markers
  warns : o.status = .warn → o = .warn "No Proxmox worker nodes detected"
  passes : o.status = .pass →
    o.message = "Proxmox worker node(s) found: " ++ toString o.details.length
  /-- Every node that holds a marker has one line, in the order of the nodes. -/
  details : List.Forall₂ Node.HasWorkerLine (nodes.filter (·.IsMarked markers)) o.details

theorem tellsWorkers_of_judgeWorkers {o : Outcome} (h : judgeWorkers markers nodes = .ok o) :
    TellsWorkers markers nodes o := by
  unfold judgeWorkers at h
  cases hfound : workerRows markers nodes with
  | error fault => simp [hfound, bind, Except.bind] at h
  | ok found =>
    have hlines := rows_of_workerRows hfound
    simp only [hfound, bind, Except.bind] at h
    have hlength : found = [] ↔ ∀ n ∈ nodes, ¬ n.IsMarked markers := by
      rw [← List.length_eq_zero_iff, ← hlines.length_eq, List.length_eq_zero_iff,
        List.filter_eq_nil_iff]
      simp only [decide_eq_true_iff]
    have hsome : found ≠ [] ↔ ∃ n ∈ nodes, n.IsMarked markers := by
      simp only [ne_eq, hlength, not_forall, not_not, exists_prop]
    cases found with
    | nil =>
      obtain rfl : .warn "No Proxmox worker nodes detected" = o := Except.ok.inj h
      exact ⟨⟨fun _ => hlength.mp rfl, fun _ => rfl⟩, ⟨nofun, fun h => absurd rfl (hsome.mpr h)⟩,
        fun _ => rfl, nofun, hlines⟩
    | cons line found =>
      obtain rfl := Except.ok.inj h
      exact ⟨⟨nofun, fun h => absurd (hlength.mpr h) nofun⟩,
        ⟨fun _ => hsome.mp nofun, fun _ => rfl⟩, nofun, fun _ => rfl, hlines⟩

theorem judgeWorkers_eq_error_iff {fault : ShapeFault} :
    judgeWorkers markers nodes = .error fault ↔ FirstTells Node.LacksInfo nodes fault := by
  rw [← @workerRows_eq_error_iff markers, judgeWorkers]
  cases workerRows markers nodes with
  | error fault => simp [bind, Except.bind]
  | ok found => cases found <;> simp [bind, Except.bind, pure, Except.pure]

/-- For all nodes and markers, the search for nodes on the hypervisor fails exactly if some node
reports no versions, with the fault of the first of these, and so does the check. Otherwise the
check tells which nodes hold a marker. -/
theorem workers_are_told (markers : WorkerMarkers) (nodes : List Node) :
    (∀ fault, judgeWorkers markers nodes = .error fault ↔ FirstTells Node.LacksInfo nodes fault) ∧
    ((∃ fault, judgeWorkers markers nodes = .error fault) ↔
      ∃ n ∈ nodes, ∀ info, ¬ n.Reports info) ∧
    (∀ o, judgeWorkers markers nodes = .ok o → TellsWorkers markers nodes o) ∧
    ∀ (env : Environment σ) (s : σ), (env.answer (.cluster .nodes) s).1 = .ok nodes →
      let ran := (workers markers).probe.run env s
      (∀ o, judgeWorkers markers nodes = .ok o → ran.value = [o]) ∧
      ∀ fault, judgeWorkers markers nodes = .error fault →
        ran.value = [.fail ("Error parsing node data: " ++ fault.message)] := by
  have herror (fault : ShapeFault) : judgeWorkers markers nodes = .error fault ↔
      FirstTells Node.LacksInfo nodes fault := judgeWorkers_eq_error_iff
  refine ⟨herror, ?_, fun o => tellsWorkers_of_judgeWorkers, ?_⟩
  · simp only [herror, exists_firstTells_iff, Node.exists_lacksInfo_iff]
  · intro env s hnodes ran
    refine ⟨fun o ho => ?_, fun fault hfault => ?_⟩
    · refine (value_single hnodes _ _).trans ?_
      simp only [ho]
    · refine (value_single hnodes _ _).trans ?_
      simp only [hfault]

/-- A node with both markers behind one with none, and two nodes without versions behind it. -/
theorem workers_are_told_ghost :
    let markers : WorkerMarkers := ⟨"pve", "proxmox"⟩
    let plain : Node := { status := some { info := some { kernel := "6.6.43-talos" } } }
    let marked : Node :=
      { metadata := { name := some "pve-1" }
        status := some { info := some { osImage := "Proxmox VE", kernel := "5.15.0-PVE" } } }
    let ghost : Node := { metadata := { name := some "ghost" }, status := some {} }
    let lost : Node := { metadata := { name := some "lost" } }
    let env (nodes : List Node) : Environment Unit :=
      { cluster := fun | .nodes => pure (.ok nodes) | _ => pure (.error (.timeout 30))
        hypervisor := fun _ => pure (.error (.query (.http .unbuilt))) }
    let check := workers markers
    let o : Outcome := ⟨.pass, "Proxmox worker node(s) found: 1",
      ["Node: pve-1, OS: Proxmox VE, Kernel: 5.15.0-PVE"]⟩
    (check.probe.run (env [plain, marked]) ()).value = [o] ∧
    TellsWorkers markers [plain, marked] o ∧
    FirstTells Node.LacksInfo [plain, marked, ghost, lost]
      ⟨"node ghost", "missing status.nodeInfo"⟩ ∧
    (check.probe.run (env [plain, marked, ghost, lost]) ()).value =
      [.fail ("Error parsing node data: unexpected shape for node ghost: " ++
        "missing status.nodeInfo")] := by
  intro markers plain marked ghost lost env check o
  obtain ⟨-, -, hok, hrun⟩ := workers_are_told markers [plain, marked] (σ := Unit)
  have hjudged : judgeWorkers markers [plain, marked] = .ok o := by decide
  obtain ⟨herror, -, -, hrun'⟩ :=
    workers_are_told markers [plain, marked, ghost, lost] (σ := Unit)
  have hfault : judgeWorkers markers [plain, marked, ghost, lost] =
      .error ⟨"node ghost", "missing status.nodeInfo"⟩ := by decide
  exact ⟨(hrun (env _) () rfl).1 o hjudged, hok o hjudged, (herror _).mp hfault,
    (hrun' (env _) () rfl).2 _ hfault⟩

end Check

end ClusterAudit
