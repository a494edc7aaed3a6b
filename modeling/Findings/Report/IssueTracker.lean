import Findings.Defect
import Findings.Field
/-!
The export of an issue tracker: `issues` with a checker name, properties of the checker, and events.
An issue without events is given one, at the place of its main event.
-/

namespace Findings.Report.IssueTracker

open Json (Value)

/-- Label of the event that stands for an issue without events. -/
def mainLabel : String := "defect"

def event (node : Value) : Except RecordFault Event := do
  Field.requireObject node "event"
  let label ← Field.text node "eventTag" ""
  if label.isEmpty then throw (.unnamedEvent "eventTag")
  let file ← Field.text node "filePathname" unknownFile
  let line ← Field.number node "lineNumber" 0
  let column ← Field.number node "columnNumber" 0
  let message ← Field.text node "eventDescription" ""
  return { label, file, line, column, message }

def mainEvent (node props : Value) : Except RecordFault Event := do
  let file ← Field.text node "mainEventFilePathname" ""
  if file.isEmpty then throw .noMainEvent
  let line ← Field.number node "mainEventLineNumber" 0
  let message ← Field.text props "subcategoryLongDescription" ""
  return { label := mainLabel, file, line, message }

def trace (node props : Value) : Except RecordFault (List Event) :=
  match (node.field "events").children with
  | [] => do return [← mainEvent node props]
  | nodes => nodes.mapM event

/-- A category is a number or says that there is none, in any words. -/
def category (s : String) : Except Decimal.Oversize Nat :=
  let cs := s.toList
  if !cs.isEmpty && cs.all Char.isDigit then Decimal.natural cs else .ok 0

def defect (node : Value) : Decoded Defect := do
  ofField (Field.requireObject node "issue")
  let checker ← ofField (Field.text node "checkerName" "")
  if checker.isEmpty then throw (.record (.missing "checkerName"))
  let props := node.field "checkerProperties"
  let trace ← ofField (trace node props)
  let shown ← ofField (Field.text props "cweCategory" "")
  let cwe ← ofDigits (category shown)
  return { checker, trace, cwe }

end Findings.Report.IssueTracker
