/-!
What the library hands on. The canonical defect has the checker that found it and a trace of events.
The first event of the trace is the key event; defects are filed under its file.

Notices are what the user is told on the way: lines with a severity, in the order in which they
arise. Operations return them as data, so a caller decides where they go.
-/

namespace Findings

def unknownFile : String := "<unknown>"

def unknownMessage : String := "<unknown>"

/-- One step of a trace. -/
structure Event where
  label : String := ""
  file : String := unknownFile
  line : Int := 0
  column : Int := 0
  message : String := ""
  deriving DecidableEq, Repr

structure Defect where
  checker : String := ""
  trace : List Event := []
  /-- The weakness class; zero when unknown. -/
  cwe : Int := 0
  annotation : String := ""
  deriving DecidableEq, Repr

/-- The event as `file:line:column: label: message`; a column that is not positive is left out. -/
def Event.listing (e : Event) : String :=
  let place := e.file ++ ":" ++ toString e.line ++ ":"
  let place := if 0 < e.column then place ++ toString e.column ++ ":" else place
  place ++ " " ++ e.label ++ ": " ++ e.message

/-- Changes the key event; without events nothing happens. -/
def Defect.mapKey (f : Event → Event) (d : Defect) : Defect :=
  match d.trace with
  | [] => d
  | e :: rest => { d with trace := f e :: rest }

/-! ## Notices -/

inductive Severity where
  | debug
  | warning
  | error
  deriving DecidableEq, Repr

def Severity.name : Severity → String
  | debug => "DEBUG"
  | warning => "WARNING"
  | error => "ERROR"

structure Notice where
  severity : Severity
  text : String
  deriving DecidableEq, Repr

end Findings
