import Findings.Assoc
import Findings.Defect
/-!
Defects that wait to be claimed: rows by checker, in a row lists by normalized file, oldest first.
Rows and lists stand in the order in which they were begun.

A row is removed with its last list and a list with its last defect, so a key that is present has a
defect. A file that cannot be normalized leaves the backlog as it was.
-/

namespace Findings

/-- Brings the spellings of one path together; it may fail on some paths. -/
abbrev Normalizer (ε : Type) := String → Except ε String

/-- The lists of one checker. -/
abbrev Row := List (String × List Defect)

structure Backlog where
  rows : List (String × Row) := []
  deriving DecidableEq, Repr

/-- Why a defect cannot be filed. -/
inductive FilingFault (ε : Type) where
  | noTrace
  | path (fault : ε)
  deriving DecidableEq, Repr

def FilingFault.message {ε : Type} (pathMessage : ε → String) : FilingFault ε → String
  | noTrace => "list index out of range"
  | path fault => pathMessage fault

namespace Backlog

variable {ε : Type}

def row (b : Backlog) (checker : String) : Row := (Assoc.get? checker b.rows).getD []

def listAt (b : Backlog) (checker path : String) : List Defect :=
  (Assoc.get? path (b.row checker)).getD []

/-- Puts a defect behind those with its key. -/
def push (b : Backlog) (path : String) (d : Defect) : Backlog :=
  ⟨Assoc.put d.checker (Assoc.put path (b.listAt d.checker path ++ [d]) (b.row d.checker)) b.rows⟩

/-- The key of a defect: its checker and the normalized file of its key event. -/
def fileKey (normalize : Normalizer ε) (d : Defect) : Except (FilingFault ε) String :=
  match d.trace with
  | [] => .error .noTrace
  | key :: _ =>
    match normalize key.file with
    | .ok path => .ok path
    | .error fault => .error (.path fault)

def insert (normalize : Normalizer ε) (d : Defect) (b : Backlog) :
    Except (FilingFault ε) Backlog :=
  (fileKey normalize d).map fun path => b.push path d

/-- A defect taken out, if there was one. -/
structure Taken where
  defect : Option Defect
  backlog : Backlog
  notices : List Notice := []

def debug (text : String) : Notice := ⟨.debug, text⟩

/-- Takes the oldest defect of a list out of its row. -/
def takeFrom (b : Backlog) (checker path : String) (row : Row) (list : List Defect) : Taken :=
  match list with
  | [] => { defect := none, backlog := b }
  | d :: rest =>
    if rest.isEmpty then
      let row := Assoc.erase path row
      let gone := debug (checker ++ ": " ++ path ++ ": list removed, " ++ toString row.length ++
        " left in row")
      if row.isEmpty then
        let rows := Assoc.erase checker b.rows
        { defect := some d
          backlog := ⟨rows⟩
          notices := [gone, debug (checker ++ ": row removed, " ++ toString rows.length ++
            " rows left")] }
      else { defect := some d, backlog := ⟨Assoc.put checker row b.rows⟩, notices := [gone] }
    else { defect := some d, backlog := ⟨Assoc.put checker (Assoc.put path rest row) b.rows⟩ }

/-- Takes the oldest defect filed under a key. The file is normalized only if the checker has a
row. -/
def lookup (normalize : Normalizer ε) (checker file : String) (b : Backlog) : Except ε Taken :=
  match Assoc.get? checker b.rows with
  | none => .ok { defect := none, backlog := b, notices := [debug (checker ++ ": not found")] }
  | some row =>
    match normalize file with
    | .error fault => .error fault
    | .ok path =>
      match Assoc.get? path row with
      | none =>
        .ok { defect := none, backlog := b
              notices := [debug (checker ++ ": " ++ path ++ ": not found")] }
      | some list => .ok (b.takeFrom checker path row list)

def isEmpty (b : Backlog) : Bool := b.rows.isEmpty

/-- All waiting defects, row by row and list by list. -/
def toList (b : Backlog) : List Defect := b.rows.flatMap fun (_, row) => row.flatMap Prod.snd

def size (b : Backlog) : Nat := b.toList.length

/-- Takes all waiting defects out. -/
def drain (b : Backlog) : List Defect × Backlog := (b.toList, {})

end Backlog

end Findings
