-- SUMMARY: What is told of the managed clusters, however many and whatever their statuses.
import ClusterAudit.Check.Provisioning
import ClusterAudit.Proofs.Display
import ClusterAudit.Proofs.JsonRecords
import ClusterAudit.Proofs.Probe
import Mathlib.Data.List.Forall2

/-!
# Managed clusters

The status of a managed cluster is kept as it stands in its object, so it may be any JSON value.
Some values tell whether the cluster is ready, and with each of the others something is wrong. The
first object whose status is wrong ends the check. Where there is none, every object counts as ready
or as not ready, and status and message follow from the number of those that are ready; only the
lines depend on the order of the objects.
-/

namespace ClusterAudit

open ClusterAudit.Json

variable {σ : Type}

/-! ## Statuses -/

/-- The member tells about readiness. -/
def TellsReady (member : String × Json) (value : Json) : Prop :=
  member.1 = "ready" ∧ member.2 = value

/-- The value is no truth value, which is wrong with it. -/
def IsNoBool (value : Json) (misfit : Misfit) : Prop :=
  (∀ b, value ≠ .bool b) ∧ misfit = .invalidType value.describe "a boolean"

/-- The member tells about readiness, but by no truth value. -/
def MistellsReady (member : String × Json) (misfit : Misfit) : Prop :=
  member.1 = "ready" ∧ IsNoBool member.2 misfit

/-- The status tells whether the cluster is ready. Of several members the first counts. An array
stands for the one field that a status has. -/
inductive SaysReady : Json → Bool → Prop
  | unsaid {members : List (String × Json)} (hnone : ∀ member ∈ members, member.1 ≠ "ready") :
      SaysReady (.object members) false
  | said {members : List (String × Json)} {ready : Bool}
      (hfine : ∀ member ∈ members, IsIdle MistellsReady member)
      (hfirst : FirstTells TellsReady members (.bool ready)) : SaysReady (.object members) ready
  | empty : SaysReady (.array []) false
  | item {ready : Bool} : SaysReady (.array [.bool ready]) ready

/-- What is wrong with a status that does not tell whether the cluster is ready. -/
inductive IsNoStatus : Json → Misfit → Prop
  | kind {value : Json} (hobject : ∀ members, value ≠ .object members)
      (harray : ∀ items, value ≠ .array items) :
      IsNoStatus value (.invalidType value.describe "struct ProxmoxClusterStatus")
  | member {members : List (String × Json)} {misfit : Misfit}
      (hfirst : FirstTells MistellsReady members misfit) : IsNoStatus (.object members) misfit
  | item {value : Json} {rest : List Json} {misfit : Misfit} (hvalue : IsNoBool value misfit) :
      IsNoStatus (.array (value :: rest)) misfit
  | length {ready : Bool} {second : Json} {rest : List Json} :
      IsNoStatus (.array (.bool ready :: second :: rest))
        (.invalidLength (rest.length + 2) "fewer elements in array")

theorem asBool_eq_error_iff {value : Json} {misfit : Misfit} :
    asBool value = .error misfit ↔ IsNoBool value misfit := by
  cases value <;> simp [asBool, IsNoBool, mismatch, eq_comm]

theorem asBool_eq_ok_iff {value : Json} {ready : Bool} :
    asBool value = .ok ready ↔ value = .bool ready := by
  cases value <;> simp [asBool]

theorem isIdle_mistellsReady_iff {member : String × Json} :
    IsIdle MistellsReady member ↔ (member.1 = "ready" → ∃ ready, member.2 = .bool ready) := by
  constructor
  · intro hidle hname
    by_contra hvalue
    exact hidle _ ⟨hname, not_exists.mp hvalue, rfl⟩
  · rintro hfine misfit ⟨hname, hvalue, -⟩
    obtain ⟨ready, hready⟩ := hfine hname
    exact hvalue ready hready

/-- The members pass up to the first that tells about readiness by no truth value. -/
theorem checkReady_eq_error_iff {members : List (String × Json)} {misfit : Misfit} :
    checkMembers [.of "ready" asBool] members = .error misfit ↔
      FirstTells MistellsReady members misfit := by
  induction members with
  | nil => simp [checkMembers, not_firstTells_nil]
  | cons member members ih =>
    obtain ⟨name, value⟩ := member
    rw [firstTells_cons_iff, ← ih, isIdle_mistellsReady_iff, MistellsReady, ← asBool_eq_error_iff]
    by_cases hname : name = "ready"
    · subst hname
      cases hvalue : asBool value with
      | error fault =>
        have hwrong : ¬ ∃ ready, value = .bool ready := by
          rintro ⟨ready, rfl⟩
          cases hvalue
        simp [checkMembers, FieldRule.of, hvalue, hwrong, Except.map, bind, Except.bind]
      | ok ready =>
        obtain rfl := asBool_eq_ok_iff.mp hvalue
        simp [checkMembers, FieldRule.of, asBool, Except.map, bind, Except.bind]
    · simp [checkMembers, FieldRule.of, hname, Ne.symm hname]

theorem lookup_eq_some_iff {members : List (String × Json)} {value : Json} :
    lookup "ready" members = some value ↔ FirstTells TellsReady members value := by
  induction members with
  | nil => simp [lookup, not_firstTells_nil]
  | cons member members ih =>
    obtain ⟨name, first⟩ := member
    rw [firstTells_cons_iff, ← ih, lookup_cons]
    by_cases hname : name = "ready" <;> simp [TellsReady, IsIdle, hname]

theorem checkReady_eq_ok_iff {members : List (String × Json)} :
    checkMembers [.of "ready" asBool] members = .ok () ↔
      ∀ member ∈ members, IsIdle MistellsReady member := by
  rw [← not_exists_firstTells_iff]
  simp only [← checkReady_eq_error_iff]
  cases checkMembers [.of "ready" asBool] members <;> simp

theorem lookup_eq_none_iff {members : List (String × Json)} :
    lookup "ready" members = none ↔ ∀ member ∈ members, member.1 ≠ "ready" := by
  rw [Option.eq_none_iff_forall_ne_some]
  simp only [ne_eq, lookup_eq_some_iff, ← not_exists, not_exists_firstTells_iff]
  simp only [IsIdle, TellsReady, not_and, not_exists]
  exact ⟨fun h member hmember hname => h member hmember _ hname rfl,
    fun h member hmember _ hname _ => h member hmember hname⟩

namespace Check

theorem statusReady_object (members : List (String × Json)) :
    statusReady (.object members) = (do
      checkMembers [.of "ready" asBool] members
      optional members "ready" false asBool) :=
  rfl

theorem statusReady_object_eq_ok_iff {members : List (String × Json)} {ready : Bool} :
    statusReady (.object members) = .ok ready ↔ SaysReady (.object members) ready := by
  constructor
  · intro h
    obtain ⟨_, hcheck, hready⟩ := exists_of_bind_eq_ok h
    cases hlookup : lookup "ready" members with
    | none =>
      simp only [Json.optional, hlookup] at hready
      obtain rfl := Except.ok.inj hready
      exact .unsaid (lookup_eq_none_iff.mp hlookup)
    | some value =>
      simp only [Json.optional, hlookup] at hready
      obtain rfl := asBool_eq_ok_iff.mp hready
      exact .said (checkReady_eq_ok_iff.mp hcheck) (lookup_eq_some_iff.mp hlookup)
  · intro h
    cases h with
    | unsaid hnone =>
      have hfine : ∀ member ∈ members, IsIdle MistellsReady member :=
        fun member hmember misfit hwrong => hnone member hmember hwrong.1
      rw [statusReady_object, checkReady_eq_ok_iff.mpr hfine, Json.optional,
        lookup_eq_none_iff.mpr hnone]
      rfl
    | said hfine hfirst =>
      rw [statusReady_object, checkReady_eq_ok_iff.mpr hfine, Json.optional,
        lookup_eq_some_iff.mpr hfirst]
      rfl

theorem statusReady_object_eq_error_iff {members : List (String × Json)} {misfit : Misfit} :
    statusReady (.object members) = .error misfit ↔ FirstTells MistellsReady members misfit := by
  rw [statusReady_object, ← checkReady_eq_error_iff]
  cases hcheck : checkMembers [.of "ready" asBool] members with
  | error fault => simp [bind, Except.bind]
  | ok _ =>
    simp only [bind, Except.bind, reduceCtorEq, iff_false]
    intro hready
    -- What is found is no truth value, and so the member does not pass the check.
    cases hlookup : lookup "ready" members with
    | none => simp [Json.optional, hlookup] at hready
    | some value =>
      simp only [Json.optional, hlookup] at hready
      obtain ⟨before, member, after, rfl, ⟨hname, rfl⟩, -⟩ := lookup_eq_some_iff.mp hlookup
      exact checkReady_eq_ok_iff.mp hcheck member (by simp) misfit
        ⟨hname, asBool_eq_error_iff.mp hready⟩

/-- The reader of a status takes the values that tell about readiness. -/
theorem statusReady_eq_ok_iff {status : Json} {ready : Bool} :
    statusReady status = .ok ready ↔ SaysReady status ready := by
  match status with
  | .object members => exact statusReady_object_eq_ok_iff
  | .array [] =>
    constructor
    · rintro ⟨⟩
      exact .empty
    · rintro ⟨⟩
      rfl
  | .array [value] =>
    constructor
    · intro h
      obtain ⟨b, hvalue, hready⟩ := exists_of_bind_eq_ok h
      obtain rfl := asBool_eq_ok_iff.mp hvalue
      cases hready
      exact .item
    · rintro ⟨⟩
      rfl
  | .array (value :: second :: rest) =>
    refine ⟨fun h => ?_, nofun⟩
    obtain ⟨b, -, hready⟩ := exists_of_bind_eq_ok h
    cases hready
  | .null | .bool _ | .number _ | .string _ => exact ⟨nofun, nofun⟩

theorem statusReady_array_eq_error_iff {value : Json} {rest : List Json} {misfit : Misfit} :
    statusReady (.array (value :: rest)) = .error misfit ↔
      IsNoStatus (.array (value :: rest)) misfit := by
  cases hvalue : asBool value with
  | error fault =>
    have hread : statusReady (.array (value :: rest)) = .error fault := by
      simp [statusReady, hvalue, bind, Except.bind]
    rw [hread]
    constructor
    · rintro ⟨⟩
      exact .item (asBool_eq_error_iff.mp hvalue)
    · intro h
      cases h with
      | kind _ harray => exact absurd rfl (harray _)
      | item hwrong => rw [← hvalue, asBool_eq_error_iff.mpr hwrong]
      | length => cases hvalue
  | ok ready =>
    -- The one field is right, so only further items can be wrong.
    obtain rfl := asBool_eq_ok_iff.mp hvalue
    match rest with
    | [] =>
      refine ⟨nofun, fun h => ?_⟩
      cases h with
      | kind _ harray => exact absurd rfl (harray _)
      | item hwrong => exact absurd rfl (hwrong.1 ready)
    | second :: rest =>
      constructor
      · rintro ⟨⟩
        exact .length
      · intro h
        cases h with
        | kind _ harray => exact absurd rfl (harray _)
        | item hwrong => exact absurd rfl (hwrong.1 ready)
        | length => rfl

/-- The reader of a status refuses the other values, each for what is wrong with it. -/
theorem statusReady_eq_error_iff {status : Json} {misfit : Misfit} :
    statusReady status = .error misfit ↔ IsNoStatus status misfit := by
  match status with
  | .object members =>
    rw [statusReady_object_eq_error_iff]
    refine ⟨.member, fun h => ?_⟩
    cases h with
    | kind hobject => exact absurd rfl (hobject members)
    | member hfirst => exact hfirst
  | .array [] =>
    refine ⟨nofun, fun h => ?_⟩
    cases h with
    | kind _ harray => exact absurd rfl (harray [])
  | .array (_ :: _) => exact statusReady_array_eq_error_iff
  | .null | .bool _ | .number _ | .string _ =>
    constructor
    · rintro ⟨⟩
      exact .kind nofun nofun
    · rintro ⟨⟩
      rfl

end Check

/-- Every value tells about readiness, or something is wrong with it. -/
theorem exists_isNoStatus_iff {status : Json} :
    (∃ misfit, IsNoStatus status misfit) ↔ ∀ ready, ¬ SaysReady status ready := by
  simp only [← Check.statusReady_eq_error_iff, ← Check.statusReady_eq_ok_iff]
  cases Check.statusReady status <;> simp

/-! ## Objects -/

namespace CustomObject

/-- The object tells whether the cluster is ready, which it is not without a status. -/
inductive CountsAs (object : CustomObject) : Bool → Prop
  | absent (hnone : object.status = none) : CountsAs object false
  | present {status : Json} {ready : Bool} (hsome : object.status = some status)
      (hready : SaysReady status ready) : CountsAs object ready

/-- The object has a status that does not tell about readiness, which is the fault of it. -/
def IsMalformed (object : CustomObject) (fault : ShapeFault) : Prop :=
  ∃ status misfit, object.status = some status ∧ IsNoStatus status misfit ∧
    fault = ⟨"ProxmoxCluster " ++ object.metadata.shownName, misfit.message⟩

/-- The line tells of the object. -/
def HasReadyLine (object : CustomObject) (line : String) : Prop :=
  ∃ ready, object.CountsAs ready ∧
    line = object.metadata.shownNs ++ "/" ++ object.metadata.shownName ++ "  ready="
      ++ if ready then "true" else "false"

theorem managedReady_of_status {object : CustomObject} {status : Json}
    (h : object.status = some status) :
    Check.managedReady object = (Check.statusReady status).mapError fun misfit =>
      ⟨"ProxmoxCluster " ++ object.metadata.shownName, misfit.message⟩ := by
  simp only [Check.managedReady, h]
  cases Check.statusReady status <;> rfl

theorem managedReady_eq_ok_iff {object : CustomObject} {ready : Bool} :
    Check.managedReady object = .ok ready ↔ object.CountsAs ready := by
  constructor
  · intro h
    cases hstatus : object.status with
    | none =>
      simp only [Check.managedReady, hstatus, Except.ok.injEq] at h
      exact h ▸ .absent hstatus
    | some status =>
      rw [managedReady_of_status hstatus] at h
      cases hread : Check.statusReady status with
      | error misfit => simp [hread, Except.mapError] at h
      | ok told =>
        obtain rfl : told = ready := by simpa [hread, Except.mapError] using h
        exact .present hstatus (Check.statusReady_eq_ok_iff.mp hread)
  · intro h
    cases h with
    | absent hnone => simp only [Check.managedReady, hnone]
    | present hsome hready =>
      rw [managedReady_of_status hsome, Check.statusReady_eq_ok_iff.mpr hready]
      rfl

theorem managedReady_eq_error_iff {object : CustomObject} {fault : ShapeFault} :
    Check.managedReady object = .error fault ↔ object.IsMalformed fault := by
  constructor
  · intro h
    cases hstatus : object.status with
    | none => simp [Check.managedReady, hstatus] at h
    | some status =>
      rw [managedReady_of_status hstatus] at h
      cases hread : Check.statusReady status with
      | ok ready => simp [hread, Except.mapError] at h
      | error misfit =>
        simp only [hread, Except.mapError, Except.error.injEq] at h
        exact ⟨status, misfit, hstatus, Check.statusReady_eq_error_iff.mp hread, h.symm⟩
  · rintro ⟨status, misfit, hstatus, hwrong, rfl⟩
    rw [managedReady_of_status hstatus, Check.statusReady_eq_error_iff.mpr hwrong]
    rfl

/-- Whether the cluster is ready, so far as the object tells. -/
def isReady (object : CustomObject) : Bool := Check.managedReady object matches .ok true

theorem isReady_iff {object : CustomObject} : object.isReady = true ↔ object.CountsAs true := by
  rw [← managedReady_eq_ok_iff, isReady]
  rcases Check.managedReady object with fault | (_ | _) <;> simp

theorem managedReady_eq_isReady {object : CustomObject} (h : IsIdle IsMalformed object) :
    Check.managedReady object = .ok object.isReady := by
  cases hready : Check.managedReady object with
  | error fault => exact absurd (managedReady_eq_error_iff.mp hready) (h fault)
  | ok ready => cases ready <;> simp [isReady, hready]

theorem countsAs_isReady {object : CustomObject} (h : IsIdle IsMalformed object) :
    object.CountsAs object.isReady :=
  managedReady_eq_ok_iff.mp (managedReady_eq_isReady h)

theorem isReady_eq_false_iff {object : CustomObject} (h : IsIdle IsMalformed object) :
    object.isReady = false ↔ object.CountsAs false := by
  rw [← managedReady_eq_ok_iff, managedReady_eq_isReady h, Except.ok.injEq]

theorem exists_isMalformed_iff {object : CustomObject} :
    (∃ fault, object.IsMalformed fault) ↔
      ∃ status, object.status = some status ∧ ∀ ready, ¬ SaysReady status ready := by
  simp only [← exists_isNoStatus_iff]
  constructor
  · rintro ⟨_, status, misfit, hstatus, hwrong, -⟩
    exact ⟨status, hstatus, misfit, hwrong⟩
  · rintro ⟨status, hstatus, misfit, hwrong⟩
    exact ⟨_, status, misfit, hstatus, hwrong, rfl⟩

end CustomObject

/-! ## Lists -/

theorem mapM_eq_error_iff {ε α β : Type} {f : α → Except ε β} {as : List α} {fault : ε} :
    as.mapM f = .error fault ↔ FirstTells (fun a fault => f a = .error fault) as fault := by
  induction as with
  | nil => simp [not_firstTells_nil, pure, Except.pure]
  | cons a as ih =>
    rw [firstTells_cons_iff, ← ih, List.mapM_cons]
    cases hfirst : f a with
    | error first => simp [IsIdle, hfirst, bind, Except.bind]
    | ok b => cases as.mapM f <;> simp [IsIdle, hfirst, bind, Except.bind, pure, Except.pure]

theorem mapM_eq_ok {ε α β : Type} {f : α → Except ε β} {g : α → β} {as : List α}
    (h : ∀ a ∈ as, f a = .ok (g a)) : as.mapM f = .ok (as.map g) := by
  induction as with
  | nil => rfl
  | cons a as ih =>
    obtain ⟨ha, has⟩ := List.forall_mem_cons.mp h
    rw [List.mapM_cons, ha, ih has]
    rfl

/-- The line ends as one about a cluster that is ready. -/
def EndsReady (line : String) : Prop := "ready=true".toList <:+ line.toList

instance : DecidablePred EndsReady := fun line =>
  inferInstanceAs (Decidable ("ready=true".toList <:+ line.toList))

namespace Check

variable {objects : List CustomObject}

theorem endsReady_managedRow_iff {object : CustomObject} {ready : Bool} :
    EndsReady (managedRow object ready) ↔ ready = true := by
  have hrow : (managedRow object ready).toList =
      (object.metadata.shownNs ++ "/" ++ object.metadata.shownName).toList ++
        ("  ready=" ++ toString ready).toList := by
    simp only [managedRow, String.toList_append, List.append_assoc]
  rw [EndsReady, hrow]
  cases ready with
  | true =>
    have hend : "ready=true".toList <:+ ("  ready=" ++ toString true).toList := by decide
    exact ⟨fun _ => rfl, fun _ => hend.trans (List.suffix_append _ _)⟩
  | false =>
    simp only [Bool.false_eq_true, iff_false]
    intro hends
    have hshort := List.suffix_of_suffix_length_le hends (List.suffix_append _ _) (by decide)
    revert hshort
    decide

theorem judgeManaged_eq_error_iff {fault : ShapeFault} :
    judgeManaged objects = .error fault ↔ FirstTells CustomObject.IsMalformed objects fault := by
  have htells : (fun (object : CustomObject) fault => managedReady object = .error fault) =
      CustomObject.IsMalformed := by
    funext object fault
    exact propext CustomObject.managedReady_eq_error_iff
  rw [← htells, ← mapM_eq_error_iff, judgeManaged]
  cases objects with
  | nil => simp [pure, Except.pure]
  | cons object rest =>
    cases (object :: rest).mapM managedReady <;> simp [bind, Except.bind, pure, Except.pure]

theorem idle_of_judgeManaged {o : Outcome} (h : judgeManaged objects = .ok o) :
    ∀ object ∈ objects, IsIdle CustomObject.IsMalformed object := by
  rw [← not_exists_firstTells_iff]
  rintro ⟨fault, hfault⟩
  rw [judgeManaged_eq_error_iff.mpr hfault] at h
  cases h

/-- How many of the clusters are ready. -/
def readyCount (objects : List CustomObject) : Nat := objects.countP CustomObject.isReady

theorem judgeManaged_eq_ok (hsome : objects ≠ [])
    (hfine : ∀ object ∈ objects, IsIdle CustomObject.IsMalformed object) :
    judgeManaged objects = .ok
      { status := if readyCount objects = objects.length then .pass else .warn
        message :=
          if readyCount objects = objects.length then
            s!"All ProxmoxCluster resources Ready: {readyCount objects}/{objects.length}"
          else s!"ProxmoxCluster status: {readyCount objects}/{objects.length} Ready"
        details := objects.map fun object => managedRow object object.isReady } := by
  have hread : objects.mapM managedReady = .ok (objects.map CustomObject.isReady) :=
    mapM_eq_ok fun object hobject => CustomObject.managedReady_eq_isReady (hfine object hobject)
  have hcount : (objects.map CustomObject.isReady).count true = readyCount objects := by
    rw [List.count, List.countP_map, readyCount]
    exact List.countP_congr fun object _ => by simp
  have hempty : objects.isEmpty = false := by simpa using hsome
  have hrows : List.zipWith managedRow objects (objects.map CustomObject.isReady) =
      objects.map fun object => managedRow object object.isReady := by
    rw [List.zipWith_map_right, List.zipWith_self]
  simp only [judgeManaged, hempty, hread, bind, Except.bind, hcount, hrows]
  by_cases hall : readyCount objects = objects.length
  · simp only [if_pos hall]
    rfl
  · simp only [if_neg hall]
    rfl

/-! ## The outcome -/

/-- What is told of clusters that are all ready or not. -/
structure TellsManaged (objects : List CustomObject) (o : Outcome) : Prop where
  info_iff : o.status = .info ↔ objects = []
  pass_iff : o.status = .pass ↔ objects ≠ [] ∧ ∀ object ∈ objects, object.CountsAs true
  warn_iff : o.status = .warn ↔ ∃ object ∈ objects, object.CountsAs false
  informs : o.status = .info → o = .info "No ProxmoxCluster resources found"
  passes : o.status = .pass → o.message = "All ProxmoxCluster resources Ready: " ++
    toString (o.details.countP (EndsReady ·)) ++ "/" ++ toString objects.length
  warns : o.status = .warn → o.message = "ProxmoxCluster status: " ++
    toString (o.details.countP (EndsReady ·)) ++ "/" ++ toString objects.length ++ " Ready"
  /-- Every object has one line, in the order of the objects. -/
  details : List.Forall₂ CustomObject.HasReadyLine objects o.details

theorem readyCount_eq_length_iff :
    readyCount objects = objects.length ↔ ∀ object ∈ objects, object.CountsAs true := by
  simp only [readyCount, List.countP_eq_length, CustomObject.isReady_iff]

theorem readyCount_ne_length_iff
    (hfine : ∀ object ∈ objects, IsIdle CustomObject.IsMalformed object) :
    readyCount objects ≠ objects.length ↔ ∃ object ∈ objects, object.CountsAs false := by
  simp only [ne_eq, readyCount, List.countP_eq_length, not_forall, Bool.not_eq_true, exists_prop]
  exact exists_congr fun object => and_congr_right fun hobject =>
    CustomObject.isReady_eq_false_iff (hfine object hobject)

theorem hasReadyLine_managedRow {object : CustomObject}
    (h : IsIdle CustomObject.IsMalformed object) :
    object.HasReadyLine (managedRow object object.isReady) := by
  refine ⟨object.isReady, CustomObject.countsAs_isReady h, ?_⟩
  cases object.isReady <;> rfl

theorem tellsManaged_of_judgeManaged {o : Outcome} (h : judgeManaged objects = .ok o) :
    TellsManaged objects o := by
  have hfine := idle_of_judgeManaged h
  by_cases hsome : objects = []
  · subst hsome
    obtain rfl : .info "No ProxmoxCluster resources found" = o := Except.ok.inj h
    exact ⟨⟨fun _ => rfl, fun _ => rfl⟩, ⟨nofun, fun hall => absurd rfl hall.1⟩, ⟨nofun, nofun⟩,
      fun _ => rfl, nofun, nofun, .nil⟩
  · rw [judgeManaged_eq_ok hsome hfine] at h
    obtain rfl := Except.ok.inj h
    have hends : (objects.map fun object => managedRow object object.isReady).countP
        (EndsReady ·) = readyCount objects := by
      rw [List.countP_map, readyCount]
      exact List.countP_congr fun object _ => by simp [endsReady_managedRow_iff]
    have hdetails : List.Forall₂ CustomObject.HasReadyLine objects
        (objects.map fun object => managedRow object object.isReady) := by
      rw [List.forall₂_map_right_iff, List.forall₂_same]
      exact fun object hobject => hasReadyLine_managedRow (hfine object hobject)
    have hready := @readyCount_eq_length_iff objects
    have hunready := readyCount_ne_length_iff hfine
    by_cases hall : readyCount objects = objects.length
    · simp only [if_pos hall]
      exact ⟨⟨nofun, fun hnone => absurd hnone hsome⟩,
        ⟨fun _ => ⟨hsome, hready.mp hall⟩, fun _ => rfl⟩,
        ⟨nofun, fun hwarn => absurd hall (hunready.mpr hwarn)⟩, nofun,
        fun _ => by rw [hends]; rfl, nofun, hdetails⟩
    · simp only [if_neg hall]
      exact ⟨⟨nofun, fun hnone => absurd hnone hsome⟩,
        ⟨nofun, fun hpass => absurd (hready.mpr hpass.2) hall⟩,
        ⟨fun _ => hunready.mp hall, fun _ => rfl⟩, nofun, nofun,
        fun _ => by rw [hends]; rfl, hdetails⟩

/-- Status and message go by the number of the clusters that are ready. -/
theorem judgeManaged_perm {objects' : List CustomObject} (hperm : objects.Perm objects')
    {o : Outcome} (h : judgeManaged objects = .ok o) :
    ∃ o', judgeManaged objects' = .ok o' ∧ o'.status = o.status ∧ o'.message = o.message := by
  have hfine := idle_of_judgeManaged h
  have hfine' : ∀ object ∈ objects', IsIdle CustomObject.IsMalformed object :=
    fun object hobject => hfine object (hperm.mem_iff.mpr hobject)
  by_cases hsome : objects = []
  · subst hsome
    obtain rfl := hperm.symm.eq_nil
    exact ⟨o, h, rfl, rfl⟩
  · have hsome' : objects' ≠ [] := fun hnone => hsome (hnone ▸ hperm).eq_nil
    have hcount : readyCount objects' = readyCount objects := (hperm.countP_eq _).symm
    rw [judgeManaged_eq_ok hsome hfine] at h
    obtain rfl := Except.ok.inj h
    refine ⟨_, judgeManaged_eq_ok hsome' hfine', ?_, ?_⟩
    · simp only [hcount, hperm.length_eq]
    · simp only [hcount, hperm.length_eq]

/-- For every list of objects, whatever their statuses: the check fails exactly if some object has
a status that does not tell about readiness, with the fault of the first of these. Otherwise it
tells how many of the clusters are ready, and their order matters for the lines alone. -/
theorem managed_are_told (objects : List CustomObject) :
    (∀ fault, judgeManaged objects = .error fault ↔
      FirstTells CustomObject.IsMalformed objects fault) ∧
    ((∃ fault, judgeManaged objects = .error fault) ↔ ∃ object ∈ objects, ∃ status,
      object.status = some status ∧ ∀ ready, ¬ SaysReady status ready) ∧
    (∀ o, judgeManaged objects = .ok o → TellsManaged objects o ∧
      ∀ objects', objects.Perm objects' → ∃ o', judgeManaged objects' = .ok o' ∧
        o'.status = o.status ∧ o'.message = o.message) ∧
    ∀ (env : Environment σ) (s : σ),
      (env.answer (.cluster (.customObjects managedKind)) s).1 = .ok objects →
      let ran := managed.probe.run env s
      (∀ o, judgeManaged objects = .ok o → ran.value = [o]) ∧
      ∀ fault, judgeManaged objects = .error fault →
        ran.value = [.fail ("Cannot read ProxmoxCluster status: " ++ fault.message)] := by
  have herror (fault : ShapeFault) : judgeManaged objects = .error fault ↔
      FirstTells CustomObject.IsMalformed objects fault := judgeManaged_eq_error_iff
  refine ⟨herror, ?_, fun o ho => ⟨tellsManaged_of_judgeManaged ho, ?_⟩, ?_⟩
  · simp only [herror, exists_firstTells_iff, CustomObject.exists_isMalformed_iff]
  · exact fun objects' hperm => judgeManaged_perm hperm ho
  · intro env s hobjects ran
    refine ⟨fun o ho => ?_, fun fault hfault => ?_⟩
    · refine (value_single hobjects _ _).trans ?_
      simp only [ho]
    · refine (value_single hobjects _ _).trans ?_
      simp only [hfault]

/-- One cluster that is ready and two that do not tell so; and a status that is null, with another
wrong one behind it. -/
theorem managed_are_told_partial :
    let object (name : String) (status : Option Json) : CustomObject :=
      { metadata := { name := some name, ns := some "tenant-root" }, status }
    let ready := object "a" (some (.object [("ready", .bool true)]))
    let bare := object "b" none
    let silent := object "c" (some (.object []))
    let null := object "d" (some .null)
    let worded := object "e" (some (.object [("ready", .string "yes")]))
    let env (objects : List CustomObject) : Environment Unit :=
      { cluster := fun | .customObjects _ => pure (.ok objects) | _ => pure (.error (.timeout 30))
        hypervisor := fun _ => pure (.error (.query (.http .unbuilt))) }
    let o : Outcome := ⟨.warn, "ProxmoxCluster status: 1/3 Ready",
      ["tenant-root/a  ready=true", "tenant-root/b  ready=false", "tenant-root/c  ready=false"]⟩
    let fault : ShapeFault :=
      ⟨"ProxmoxCluster d", "invalid type: null, expected struct ProxmoxClusterStatus"⟩
    TellsManaged [ready, bare, silent] o ∧
    (managed.probe.run (env [ready, bare, silent]) ()).value = [o] ∧
    (∃ o', judgeManaged [silent, bare, ready] = .ok o' ∧ o'.status = .warn ∧
      o'.message = "ProxmoxCluster status: 1/3 Ready") ∧
    FirstTells CustomObject.IsMalformed [ready, null, silent, worded] fault ∧
    (managed.probe.run (env [ready, null, silent, worded]) ()).value =
      [.fail ("Cannot read ProxmoxCluster status: unexpected shape for ProxmoxCluster d: " ++
        "invalid type: null, expected struct ProxmoxClusterStatus")] := by
  intro object ready bare silent null worded env o fault
  have hjudged : judgeManaged [ready, bare, silent] = .ok o := by decide
  have hfault : judgeManaged [ready, null, silent, worded] = .error fault := by decide
  obtain ⟨-, -, hok, hrun⟩ := managed_are_told [ready, bare, silent] (σ := Unit)
  obtain ⟨herror, -, -, hrun'⟩ := managed_are_told [ready, null, silent, worded] (σ := Unit)
  obtain ⟨htells, hperm⟩ := hok o hjudged
  exact ⟨htells, (hrun (env _) () rfl).1 o hjudged, hperm _ (List.reverse_perm _).symm,
    (herror _).mp hfault, (hrun' (env _) () rfl).2 _ hfault⟩

end Check

end ClusterAudit
