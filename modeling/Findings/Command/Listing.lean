import Findings.Command.Outcome
/-!
The listing of a report: its format, what it says about the scan, and a table of its defects by
their key events.
-/

namespace Findings.Command

open Console (Column Table Writer styled)

structure Listing where
  defects : List Defect
  total : Nat
  hasError : Bool
  deriving DecidableEq, Repr

namespace Listing

def kindName (kind : Option Report.Kind) : String := (kind.map (·.name)).getD "empty"

section Printing

variable (w : Writer)

/-- What is known before the first defect is read. -/
def header (path : String) (kind : Option Report.Kind) (scanProps : List (String × String)) :
    List Print :=
  .message w (styled "bold" "defectlink" ++ " reading " ++ styled "cyan" (w.escape path) ++
      " as " ++ styled "cyan" (kindName kind)) ::
    scanProps.map fun (key, value) =>
      .message w ("  " ++ styled "dim" (w.escape key ++ ":") ++ " " ++ w.escape value)

def columns : List Column :=
  [{ heading := "Class" }, { heading := "File" }, { heading := "Line", alignment := .right },
    { heading := "Event" }, { heading := "Message", limit := some 60 },
    { heading := "CWE", alignment := .right }]

/-- The cells of a defect; an unknown weakness class leaves its cell empty. -/
def cells (d : Defect) : List String :=
  let key := d.trace.headD {}
  [w.escape d.checker, w.escape key.file, toString key.line, w.escape key.label,
    w.escape key.message, if d.cwe = 0 then "" else toString d.cwe]

def table (defects : List Defect) : Table :=
  { title := "Defects", columns, body := defects.map (cells w) }

def prints (l : Listing) : List Print :=
  (if l.defects.isEmpty then .message w (styled "green" "No defects.")
    else ⟨.output, w.table (table w l.defects)⟩) ::
  .message w ("\nTotal defects: " ++ toString l.total) ::
  if l.hasError then [.message w (styled "red" "Some records could not be decoded")] else []

end Printing

/-- Only a document without any fault is a success. -/
def exitCode (l : Listing) : Nat := if l.hasError then 1 else 0

/-- The listing of what a stream gave. -/
def ofGathering (g : Report.Gathering) : Except Decimal.Oversize Listing :=
  g.defects.map fun defects =>
    { defects, total := g.stream.count, hasError := g.stream.document.hasError }

end Listing

/-- Lists what a stream gives, after the notices of its opening. -/
def list (w : Writer) (path : String) (s : Report.Stream) (opening : List Notice) : Outcome :=
  let gathering := s.gather
  let rest : Outcome :=
    match Listing.ofGathering gathering with
    | .error o => .ofEscape (.report (.oversize o))
    | .ok l => .printing w.advice { exitCode := l.exitCode } (l.prints w)
  .behind opening <|
    .printing w.advice (rest.behind gathering.notices) (Listing.header w path s.kind s.scanProps)

end Findings.Command
