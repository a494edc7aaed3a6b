import Findings.Report.ShellLinter
/-!
SARIF logs: `runs`, each with the rules of its tool and its results. The weakness number of a result
comes from the rules of its own run.

Not covered: the order in which runs are opened, which is the cursor's matter.
-/

namespace Findings.Report.Sarif

open Json (Value)

def warning : String := "SARIF_WARNING"

/-! ## Recognisers -/

/-- The text without one final line break. -/
def body (cs : List Char) : List Char := (Cleanup.reversedBody cs).reverse

def isNumber (cs : List Char) : Bool := !cs.isEmpty && cs.all Char.isDigit

/-- The letters `SC` and a number. -/
def isShellRule (id : String) : Bool :=
  match body id.toList with
  | 'S' :: 'C' :: digits => isNumber digits
  | _ => false

/-- The number of a tag `cwe-<number>`, perhaps behind `external/cwe/`, in any letter case. -/
def cweTag? (s : String) : Option (List Char) :=
  let cs := (body s.toList).map Char.toLower
  let cs := ("external/cwe/".toList.isPrefixOf? cs).getD cs
  match "cwe-".toList.isPrefixOf? cs with
  | some digits => if isNumber digits then some digits else none
  | none => none

/-! ## Rules -/

/-- The number of the first tag that has one. -/
def tagCwe : List Value → Except Decimal.Oversize Int
  | [] => .ok 0
  | .text s :: rest =>
    match cweTag? s with
    | some digits => (Decimal.natural digits).map fun n => (n : Int)
    | none => tagCwe rest
  | _ :: rest => tagCwe rest

/-- The weakness number of a rule: a property, else a tag. -/
def ruleCwe (rule : Value) : Except Decimal.Oversize Int :=
  let props := rule.field "properties"
  let tags := (props.field "tags").children
  match props.field "cwe" with
  | .int n => .ok n
  | .text s =>
    match cweTag? s with
    | some digits => (Decimal.natural digits).map fun n => (n : Int)
    | none =>
      if isNumber s.toList then (Decimal.natural s.toList).map fun n => (n : Int)
      else tagCwe tags
  | _ => tagCwe tags

/-- Weakness numbers by rule name. -/
abbrev RuleTable := List (String × Int)

/-- Adds rules to a table; of two rules of one name the later one wins. -/
def addRules (table : RuleTable) : List Value → Except Decimal.Oversize RuleTable
  | [] => .ok table
  | rule :: rest =>
    match rule.field "id" with
    | .text id =>
      match ruleCwe rule with
      | .ok cwe => addRules (Assoc.put id cwe table) rest
      | .error o => .error o
    | _ => addRules table rest

def driver (run : Value) : Value := (run.field "tool").field "driver"

def ruleTable (run : Value) : Except Decimal.Oversize RuleTable :=
  addRules [] ((driver run).field "rules").children

def results (run : Value) : List Value := (run.field "results").children

/-! ## Results -/

def withoutScheme (uri : String) : String :=
  match "file://".toList.isPrefixOf? uri.toList with
  | some path => String.ofList path
  | none => uri

/-- Puts an event where a location says; without a physical location it stays where it is. -/
def locate (event : Event) (location : Value) : Except RecordFault Event := do
  let place := location.field "physicalLocation"
  if place.isNull then return event
  let uri ← Field.text (place.field "artifactLocation") "uri" ""
  let region := place.field "region"
  let line ← Field.number region "startLine" 0
  let column ← Field.number region "startColumn" 0
  let file := if uri.isEmpty then event.file else withoutScheme uri
  return { event with file, line, column }

/-- One step of a code flow. -/
def note (step : Value) : Except RecordFault Event := do
  let location := step.field "location"
  let event ← locate { label := "note" } location
  let message ← Field.text (location.field "message") "text" ""
  return { event with message }

/-- The steps of the first thread of the first code flow. -/
def steps (node : Value) : List Value :=
  let flow := (node.field "codeFlows").firstChild
  ((flow.field "threadFlows").firstChild.field "locations").children

def orElse (s other : String) : String := if s.isEmpty then other else s

def keyEvent (ruleId : String) (node : Value) : Except RecordFault Event := do
  let level ← Field.text node "level" ""
  let event ← locate { label := orElse level "warning" } (node.field "locations").firstChild
  let message ← Field.text (node.field "message") "text" unknownMessage
  return { event with message := Compiler.tagged message ruleId }

def defect (table : RuleTable) (node : Value) : Except RecordFault Defect := do
  Field.requireObject node "result"
  let ruleId ← Field.text node "ruleId" ""
  let key ← keyEvent ruleId node
  let notes ← (steps node).mapM note
  return { checker := if isShellRule ruleId then ShellLinter.warning else warning
           trace := key :: notes
           cwe := (Assoc.get? ruleId table).getD 0 }

/-! ## The tool -/

/-- A property; an empty one is left out. -/
def named (key value : String) : List (String × String) :=
  if value.isEmpty then [] else [(key, value)]

/-- The tool of the first run. -/
def scanProps (root : Value) : Except RecordFault (List (String × String)) := do
  let tool := driver (root.field "runs").firstChild
  let name ← Field.text tool "name" ""
  let version ← Field.text tool "version" ""
  let version ← if version.isEmpty then Field.text tool "semanticVersion" "" else pure version
  let url ← Field.text tool "informationUri" ""
  return named "tool" name ++ named "tool-version" version ++ named "tool-url" url

end Findings.Report.Sarif
