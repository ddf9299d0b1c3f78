-- SUMMARY: Runs of a plan, one check after the other or section beside section.
import ClusterAudit.Check.Probe
import ClusterAudit.Config
import ClusterAudit.Report

/-!
# Runs

A plan is run in one of two ways. In sequence, one check follows the other, and
what it gives is told at once. Side by side, the sections take turns: a schedule
says which of them asks its next question, and whatever is left when the
schedule ends is finished in order. Within a section the checks keep their order
in both ways. What the sections gave side by side is told afterwards, section by
section in the order of the plan.

Whatever is told goes through an account, which also counts the outcomes and
gathers the sections of the report. The report is the last thing told.
-/

namespace ClusterAudit

/-! ## Accounts -/

/-- The times at which a run starts and ends. -/
structure Clock where
  started : Instant
  completed : Instant
deriving DecidableEq, Repr, Inhabited

/-- What is told of a run. -/
inductive Event
  | started (time : Instant)
  | sectionTitle (title : String)
  | checkName (name : String)
  | outcome (outcome : Outcome)
  | summary (report : Report)
deriving DecidableEq, Repr

structure CheckRun where
  name : String
  outcomes : List Outcome
deriving DecidableEq, Repr, Inhabited

/-- What has been told, counted and gathered of a run so far. -/
structure Account where
  told : List Event := []
  tally : Tally := {}
  /-- The sections that are closed. -/
  sections : List SectionReport := []
  /-- The outcomes of the section that is open. -/
  pending : List Outcome := []
deriving DecidableEq, Repr

namespace Account

/-- Tells one thing more. -/
def tell (a : Account) (e : Event) : Account := { a with told := a.told ++ [e] }

/-- Tells an outcome, counts it and puts it to the section that is open. -/
def record (a : Account) (o : Outcome) : Account :=
  { a.tell (.outcome o) with tally := a.tally.record o, pending := a.pending ++ [o] }

def check (a : Account) (c : CheckRun) : Account :=
  c.outcomes.foldl record (a.tell (.checkName c.name))

def openSection (a : Account) (title : String) : Account :=
  { a.tell (.sectionTitle title) with pending := [] }

def closeSection (a : Account) (title : String) : Account :=
  { a with sections := a.sections ++ [⟨title, a.pending⟩], pending := [] }

/-- The report on all that went through an account. -/
def report (a : Account) (clock : Clock) : Report :=
  { startedAt := clock.started, completedAt := clock.completed, sections := a.sections
    tally := a.tally, verdict := a.tally.verdict }

end Account

/-- A finished run: what is told, the report, the exchanges with the section that made each of
them, and the state of the world. -/
structure Run (σ : Type) where
  events : List Event
  report : Report
  exchanges : List (Nat × Exchange)
  state : σ

/-- A run under way. -/
structure Progress (σ : Type) where
  account : Account
  exchanges : List (Nat × Exchange)
  state : σ

namespace Progress

/-- Nothing but the start has been told. -/
def start {σ : Type} (clock : Clock) (state : σ) : Progress σ :=
  ⟨({} : Account).tell (.started clock.started), [], state⟩

/-- Ends a run with its report. -/
def finish {σ : Type} (p : Progress σ) (clock : Clock) : Run σ :=
  let report := p.account.report clock
  ⟨(p.account.tell (.summary report)).told, report, p.exchanges, p.state⟩

end Progress

/-! ## In sequence -/

/-- Runs one check of the section at a place, and tells what it gave. -/
def Progress.check {σ : Type} (env : Environment σ) (place : Nat) (p : Progress σ) (c : Check) :
    Progress σ :=
  let ran := c.probe.run env p.state
  ⟨p.account.check ⟨c.name, ran.value⟩, p.exchanges ++ ran.exchanges.map (place, ·), ran.state⟩

/-- Runs the checks of a section in order. -/
def Progress.section {σ : Type} (env : Environment σ) (p : Progress σ) : Section × Nat → Progress σ
  | (s, place) =>
    let opened := { p with account := p.account.openSection s.title }
    let checked := s.checks.foldl (check env place) opened
    { checked with account := checked.account.closeSection s.title }

/-- Runs a plan, one check after the other. -/
def runSequential {σ : Type} (env : Environment σ) (clock : Clock) (plan : List Section)
    (state : σ) : Run σ :=
  (plan.zipIdx.foldl (Progress.section env) (.start clock state)).finish clock

/-! ## Side by side -/

/-- Runs a check and keeps its name. -/
def Check.named (c : Check) : Probe CheckRun := do return ⟨c.name, ← c.probe⟩

/-- Runs the checks of a section in order and keeps what they gave. -/
def Section.probe (s : Section) : Probe (List CheckRun) := s.checks.mapM Check.named

/-- Lets a probe ask its next question. -/
def Probe.step {σ α : Type} (env : Environment σ) (probe : Probe α) (state : σ) :
    Probe α × List Exchange × σ :=
  match probe with
  | .done value => (.done value, [], state)
  | .ask q next =>
    let (reply, state) := env.answer q state
    (next reply, [⟨q, reply⟩], state)
  | .wait _ next => (next, [], state)

/-- Probes that take turns, with the exchanges so far. -/
structure Turns (σ α : Type) where
  probes : List (Probe α)
  exchanges : List (Nat × Exchange)
  state : σ

/-- Lets the probe at a place ask its next question. -/
def Turns.step {σ α : Type} (env : Environment σ) (turns : Turns σ α) (place : Nat) : Turns σ α :=
  match turns.probes[place]? with
  | none => turns
  | some probe =>
    let (probe, exchanges, state) := probe.step env turns.state
    { probes := turns.probes.set place probe
      exchanges := turns.exchanges ++ exchanges.map (place, ·), state }

/-- Runs probes one after the other; each exchange carries the number of its probe. -/
def runInOrder {σ α : Type} (env : Environment σ) (number : Nat) :
    List (Probe α) → σ → List α × List (Nat × Exchange) × σ
  | [], state => ([], [], state)
  | probe :: rest, state =>
    let ran := probe.run env state
    let (values, exchanges, state) := runInOrder env (number + 1) rest ran.state
    (ran.value :: values, ran.exchanges.map (number, ·) ++ exchanges, state)

/-- Which section asks its next question, turn by turn. -/
abbrev Schedule : Type := List Nat

def Account.section (a : Account) : Section × List CheckRun → Account
  | (s, checks) => (checks.foldl check (a.openSection s.title)).closeSection s.title

/-- Runs a plan with its sections side by side. -/
def runConcurrent {σ : Type} (env : Environment σ) (schedule : Schedule) (clock : Clock)
    (plan : List Section) (state : σ) : Run σ :=
  let turns := schedule.foldl (Turns.step env) ⟨plan.map Section.probe, [], state⟩
  let (results, exchanges, state) := runInOrder env 0 turns.probes turns.state
  let start := (Progress.start clock state).account
  let account := (plan.zip results).foldl Account.section start
  Progress.finish ⟨account, turns.exchanges ++ exchanges, state⟩ clock

/-! ## Both ways -/

/-- How a plan is run. -/
inductive Mode
  | sequential
  | concurrent (schedule : Schedule)
deriving DecidableEq, Repr

/-- Runs a plan in one of the two ways. -/
def Mode.run {σ : Type} (mode : Mode) (env : Environment σ) (clock : Clock) (plan : List Section)
    (state : σ) : Run σ :=
  match mode with
  | .sequential => runSequential env clock plan state
  | .concurrent schedule => runConcurrent env schedule clock plan state

end ClusterAudit
