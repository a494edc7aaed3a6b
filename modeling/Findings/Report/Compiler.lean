import Findings.Cleanup
import Findings.Field
/-!
Compiler diagnostics: a top-level array whose items have a kind, a location, a message, and child
diagnostics. What has no kind is left out without a word, on both levels.
-/

namespace Findings.Report.Compiler

open Json (Value)

/-- A message with a bracketed tag behind it; an empty tag adds nothing. -/
def tagged (message tag : String) : String :=
  if tag.isEmpty then message else message ++ " [" ++ tag ++ "]"

/-- The caret of the first location. -/
def caret (node : Value) : Value := (node.field "locations").firstChild.field "caret"

/-- One diagnostic; none when it has no kind. -/
def event? (node : Value) : Except RecordFault (Option Event) := do
  Field.requireObject node "diagnostic"
  let label ← Field.text node "kind" ""
  if label.isEmpty then return none
  let file ← Field.text (caret node) "file" unknownFile
  let line ← Field.number (caret node) "line" 0
  let column ← Field.number (caret node) "byte-column" 0
  let message ← Field.text node "message" unknownMessage
  let option ← Field.text node "option" ""
  return some { label, file, line, column, message := tagged message option }

/-- The events of the child diagnostics that have a kind. -/
def childEvents : List Value → Except RecordFault (List Event)
  | [] => .ok []
  | node :: rest => do
    let event ← event? node
    let events ← childEvents rest
    return event.toList ++ events

/-- The defect before clean-up. -/
def raw (node : Value) : Except RecordFault (Option Defect) := do
  match ← event? node with
  | none => return none
  | some key =>
    let children ← childEvents (node.field "children").children
    let cwe ← Field.number (node.field "metadata") "cwe" 0
    return some { checker := compilerWarning, trace := key :: children, cwe }

def defect (rules : List Cleanup.Rule) (node : Value) : Decoded (Option Defect) := do
  match ← ofField (raw node) with
  | none => return none
  | some d => return some (← ofDigits (Cleanup.run rules d))

end Findings.Report.Compiler
