import Findings.Report.Compiler
/-!
Comments of the shell linter: flat records under `comments`, one event each. A comment without a
level is left out without a word.
-/

namespace Findings.Report.ShellLinter

open Json (Value)

def warning : String := "SHELLCHECK_WARNING"

/-- The name of the rule with this number. -/
def ruleTag (code : String) : String := if code.isEmpty then "" else "SC" ++ code

def event? (node : Value) : Except RecordFault (Option Event) := do
  Field.requireObject node "comment"
  let label ← Field.text node "level" ""
  if label.isEmpty then return none
  let file ← Field.text node "file" unknownFile
  let line ← Field.number node "line" 0
  let column ← Field.number node "byte-column" 0
  let message ← Field.text node "message" unknownMessage
  let code ← Field.text node "code" ""
  return some { label, file, line, column, message := Compiler.tagged message (ruleTag code) }

def defect (rules : List Cleanup.Rule) (node : Value) : Decoded (Option Defect) := do
  match ← ofField (event? node) with
  | none => return none
  | some event =>
    return some (← ofDigits (Cleanup.run rules { checker := warning, trace := [event] }))

end Findings.Report.ShellLinter
