import Findings.Defect
import Findings.Field
import Findings.Json.Printer
/-!
The native report: an object whose `defects` have a checker and a trace each, and whose `scan`
object describes the scan.
-/

namespace Findings.Report.Native

open Json (Value)

def event (node : Value) : Except RecordFault Event := do
  Field.requireObject node "event"
  let label ← Field.text node "event" ""
  if label.isEmpty then throw (.unnamedEvent "a name")
  let file ← Field.text node "file_name" unknownFile
  let line ← Field.number node "line" 0
  let column ← Field.number node "column" 0
  let message ← Field.text node "message" ""
  return { label, file, line, column, message }

/-- The events of a record; they have to be a non-empty array. -/
def eventNodes (node : Value) : Except RecordFault (List Value) :=
  match node.field "events" with
  | .array (first :: rest) => .ok (first :: rest)
  | _ => .error (.missing "events")

def defect (node : Value) : Except RecordFault Defect := do
  Field.requireObject node "defect"
  let checker ← Field.text node "checker" ""
  if checker.isEmpty then throw (.missing "checker")
  let nodes ← eventNodes node
  let trace ← nodes.mapM event
  let cwe ← Field.number node "cwe" 0
  let annotation ← Field.text node "annotation" ""
  return { checker, trace, cwe, annotation }

/-- Texts stand for themselves, everything else for its JSON text. -/
def property (depth : Nat) : Value → Except Json.WriteFault String
  | .text s => .ok s
  | v => Json.write depth v

/-- The fields of the scan, which fall short together if one of them cannot be written. -/
def scanProps (depth : Nat) (root : Value) : Except Json.WriteFault (List (String × String)) :=
  match root.field "scan" with
  | .object fields => fields.mapM fun (key, v) => (property depth v).map fun shown => (key, shown)
  | _ => .ok []

end Findings.Report.Native
