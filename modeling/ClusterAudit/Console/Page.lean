-- SUMMARY: What a console shows of a run.
import ClusterAudit.Console.Line
import ClusterAudit.Run

/-!
# Console pages

A console tells a run as it goes along: a banner, a heading for each section, a
line for each check and each outcome with its details, and a summary with the
counts and the verdict. Every status and every verdict has its sign and colour.

The share of passed outcomes is the one number that is calculated while a page is
shown. Where it is too large for a word, the page ends before it.
-/

namespace ClusterAudit.Console

/-! ## Frames -/

/-- So many characters are as wide as a page. -/
def pageWidth : Nat := 60

/-- A run of one character. -/
def stretch (c : Char) (width : Nat) : String := String.ofList (List.replicate width c)

/-- The lines on top of a run. -/
def banner : List Line :=
  let edge := stretch '═' (pageWidth - 2)
  let title := "║  PROXMOX INTEGRATION SYSTEM INTEGRITY CHECKER            ║"
  [ [], [.inColour .magenta ("╔" ++ edge ++ "╗")], [.inColour .magenta title],
    [.inColour .magenta ("╚" ++ edge ++ "╝")], [] ]

/-- A title between two bars. -/
def heading (title : String) : List Line :=
  let bar := [Piece.inColour .blue (stretch '═' pageWidth)]
  [[], bar, [.inBold .blue title], bar, []]

/-! ## Checks and outcomes -/

def checkLine (name : String) : Line :=
  [.inColour .yellow "⏳ Checking:", .plain " ", .inColour .yellow name]

def statusColour : Status → Colour
  | .pass => .green
  | .fail => .red
  | .warn => .yellow
  | .info => .cyan

def statusSign : Status → String
  | .pass => "✓"
  | .fail => "✗"
  | .warn => "⚠"
  | .info => "ℹ"

/-- A message under its status. -/
def statusLine (status : Status) (message : String) : Line :=
  let colour := statusColour status
  [.inBold colour (statusSign status ++ " " ++ status.label ++ ":"), .plain " ",
    .inColour colour message]

def detailLine (detail : String) : Line :=
  [.plain "    ", .inColour .grey "•", .plain (" " ++ detail)]

def outcomeLines (o : Outcome) : List Line :=
  statusLine o.status o.message :: o.details.map detailLine

/-! ## Summaries -/

def tallyLines (t : Tally) : List Line :=
  [ [.inColour .blue s!"Total Checks: {t.total}"], [.inColour .green s!"Passed: {t.passed}"],
    [.inColour .red s!"Failed: {t.failed}"], [.inColour .yellow s!"Warnings: {t.warned}"], [] ]

/-- The share of passed outcomes, if any was counted. -/
def rateLines : Option Nat → List Line
  | some rate => [[.inColour .blue s!"Success Rate: {rate}%"], []]
  | none => []

/-- A verdict is shown like the status that is as bad. -/
def verdictStatus : Verdict → Status
  | .healthy => .pass
  | .degraded => .warn
  | .critical => .fail

def verdictText : Verdict → String
  | .healthy => "Proxmox integration is fully operational!"
  | .degraded => "Proxmox integration has some issues but is functional"
  | .critical => "Proxmox integration has critical issues!"

def verdictLines (v : Verdict) : List Line :=
  let status := verdictStatus v
  let colour := statusColour status
  [ [.inBold colour (statusSign status ++ " OVERALL STATUS: " ++ v.label)],
    [.inColour colour (verdictText v)] ]

/-- Lines that were shown, and what kept the next ones from being shown. -/
structure Shown where
  lines : List Line
  fault : Option Overflow := none
deriving DecidableEq, Repr, Inhabited

def summary (r : Report) : Shown :=
  let counts := heading "INTEGRITY CHECK SUMMARY" ++ tallyLines r.tally
  match r.tally.successRate with
  | .error fault => { lines := counts, fault }
  | .ok rate? =>
    { lines := counts ++ rateLines rate? ++ verdictLines r.verdict
        ++ [[], [.plain ("Completed: " ++ r.completedAt.clockText)]] }

/-! ## Runs -/

/-- What is shown of an event, in a run over the cluster of a kubeconfig. -/
def shownEvent (kubeconfig : String) : Event → Shown
  | .started time =>
    { lines := banner
        ++ [[.plain ("Started: " ++ time.clockText)], [.plain ("Kubeconfig: " ++ kubeconfig)]] }
  | .sectionTitle title => { lines := heading title }
  | .checkName name => { lines := [checkLine name] }
  | .outcome outcome => { lines := outcomeLines outcome }
  | .summary report => summary report

/-- The page of a run, as far as it gets. -/
def page (kubeconfig : String) : List Event → Shown
  | [] => { lines := [] }
  | event :: rest =>
    let shown := shownEvent kubeconfig event
    match shown.fault with
    | some _ => shown
    | none =>
      let later := page kubeconfig rest
      { later with lines := shown.lines ++ later.lines }

end ClusterAudit.Console
