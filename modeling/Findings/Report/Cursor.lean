import Findings.Defect
import Findings.Report.IssueTracker
import Findings.Report.Kind
import Findings.Report.Native
import Findings.Report.Sarif
/-!
The cursor over the records of a document. Records wait in `pending`; the runs of a SARIF log are
opened one by one, when the results of the run before are used up, and opening a run replaces the
rule table.

* `remaining_next`: each record taken leaves fewer to take.
-/

namespace Findings.Report

open Json (Value)

structure Cursor where
  /-- The number of the next record, counted from zero over the whole document. -/
  index : Nat := 0
  /-- Rules of the run that is open. -/
  table : Sarif.RuleTable := []
  pending : List Value := []
  runs : List Value := []

namespace Cursor

def ofRecords (records : List Value) : Cursor := { pending := records }

def ofRuns (runs : List Value) : Cursor := { runs }

/-- A cursor at the first record. -/
def start (k : Kind) (root : Value) : Except FormatFault Cursor :=
  (k.records root).map fun records =>
    match k with
    | .sarif => ofRuns records
    | _ => ofRecords records

/-- What opening runs comes to: the results of the first run that has some, or none at all. -/
structure Opened where
  table : Sarif.RuleTable
  pending : List Value
  runs : List Value
  notices : List Notice := []
  oversize : Option Decimal.Oversize := none

def skipped : Notice := ⟨.debug, "Skipping SARIF run that is not an object"⟩

/-- Opens runs until one has results. A rule whose number cannot be read ends the sequence. -/
def openRuns (table : Sarif.RuleTable) : List Value → Opened
  | [] => { table, pending := [], runs := [] }
  | run :: rest =>
    match run with
    | .object _ =>
      match Sarif.ruleTable run with
      | .error o => { table, pending := [], runs := [], oversize := some o }
      | .ok own =>
        match Sarif.results run with
        | [] => openRuns own rest
        | results => { table := own, pending := results, runs := rest }
    | _ =>
      let opened := openRuns table rest
      { opened with notices := skipped :: opened.notices }

/-- The record taken, if any, and the cursor behind it. -/
structure Taken where
  record : Except Decimal.Oversize (Option (Nat × Value))
  cursor : Cursor
  notices : List Notice := []

def next (c : Cursor) : Taken :=
  match c.pending with
  | node :: rest =>
    { record := .ok (some (c.index, node))
      cursor := { c with index := c.index + 1, pending := rest } }
  | [] =>
    let o := openRuns c.table c.runs
    match o.oversize, o.pending with
    | some f, _ =>
      { record := .error f
        cursor := { c with table := o.table, pending := [], runs := [] }
        notices := o.notices }
    | none, [] =>
      { record := .ok none
        cursor := { c with table := o.table, pending := [], runs := [] }
        notices := o.notices }
    | none, node :: rest =>
      { record := .ok (some (c.index, node))
        cursor := { index := c.index + 1, table := o.table, pending := rest, runs := o.runs }
        notices := o.notices }

/-! ## How much is left -/

/-- Every run counts once, and so does every result. -/
def runsSize : List Value → Nat
  | [] => 0
  | run :: rest => 1 + (Sarif.results run).length + runsSize rest

def remaining (c : Cursor) : Nat := c.pending.length + runsSize c.runs

theorem openRuns_size (table : Sarif.RuleTable) (runs : List Value) :
    (openRuns table runs).pending.length + runsSize (openRuns table runs).runs ≤
      runsSize runs := by
  induction runs generalizing table with
  | nil => simp [openRuns, runsSize]
  | cons run rest ih =>
    cases run with
    | object fields =>
      simp only [openRuns]
      split
      · simp [runsSize]
      · split
        · have := ih
          simp only [runsSize]
          exact Nat.le_trans (ih _) (by omega)
        · next h => simp only [runsSize]; omega
    | _ =>
      simp only [openRuns, runsSize]
      exact Nat.le_trans (ih table) (by omega)

theorem remaining_next (c : Cursor) (i : Nat) (node : Value)
    (h : c.next.record = .ok (some (i, node))) : c.next.cursor.remaining < c.remaining := by
  unfold next at h ⊢
  split
  · next hp => simp [remaining, hp]
  · next hp =>
    have size := openRuns_size c.table c.runs
    simp only [hp] at h
    split at h
    · simp at h
    · simp at h
    · next heq ho =>
      simp only [remaining, heq, hp, ho, List.length_nil] at size ⊢
      simp only [List.length_cons] at size
      omega

end Cursor

/-! ## Decoding the record under the cursor -/

/-- What became of one record. -/
inductive Status where
  | decoded (d : Defect)
  | rejected
  | failed (fault : RecordFault)
  deriving DecidableEq, Repr

structure Outcome where
  index : Nat
  status : Status
  deriving DecidableEq, Repr

/-- A defect has to have an event. -/
def Status.ofDefect (d : Defect) : Status :=
  if d.trace.isEmpty then .failed .noTrace else .decoded d

def Status.ofDecoded : Decoded (Option Defect) → Except Decimal.Oversize Status
  | .ok (some d) => .ok (.ofDefect d)
  | .ok none => .ok .rejected
  | .error (.record f) => .ok (.failed f)
  | .error (.oversize o) => .error o

/-- Decodes one record as its format says. -/
def Kind.decode (k : Kind) (rules : List Cleanup.Rule) (table : Sarif.RuleTable) (node : Value) :
    Decoded (Option Defect) :=
  match k with
  | .native => (ofField (Native.defect node)).map some
  | .issueTracker => (IssueTracker.defect node).map some
  | .sarif => (ofField (Sarif.defect table node)).map some
  | .shellLinter => ShellLinter.defect rules node
  | .compiler => Compiler.defect rules node

/-- What a report says about its scan, or why it is malformed. What is nested too deep to be written
is nobody's to handle. -/
def Kind.scanProps (k : Kind) (depth : Nat) (root : Value) :
    Except Json.WriteFault (Except RecordFault (List (String × String))) :=
  match k with
  | .native => (Native.scanProps depth root).map .ok
  | .sarif => .ok (Sarif.scanProps root)
  | _ => .ok (.ok [])

/-- An outcome, none at the end, and the cursor behind the record. -/
structure Cursor.Read where
  outcome : Except Decimal.Oversize (Option Outcome)
  cursor : Cursor
  notices : List Notice := []

/-- Takes the next record and decodes it with `decode`, which sees the rules of the open run. -/
def Cursor.readWith (decode : Sarif.RuleTable → Value → Decoded (Option Defect)) (c : Cursor) :
    Cursor.Read :=
  let taken := c.next
  { cursor := taken.cursor
    notices := taken.notices
    outcome :=
      match taken.record with
      | .error o => .error o
      | .ok none => .ok none
      | .ok (some (index, node)) =>
        (Status.ofDecoded (decode taken.cursor.table node)).map fun status =>
          some { index, status } }

def Cursor.read (k : Kind) (rules : List Cleanup.Rule) (c : Cursor) : Cursor.Read :=
  c.readWith (k.decode rules)

theorem Cursor.remaining_read (k : Kind) (rules : List Cleanup.Rule) (c : Cursor) (o : Outcome)
    (h : (c.read k rules).outcome = .ok (some o)) :
    (c.read k rules).cursor.remaining < c.remaining := by
  simp only [read, readWith] at h ⊢
  split at h
  · simp at h
  · simp at h
  · next i node hn => exact c.remaining_next i node hn

end Findings.Report
