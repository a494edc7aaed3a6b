import Findings.Json.Value
/-!
The report formats, and how a document shows which one it has: by a field at the top, in a fixed
order of precedence, else by a first child with a `kind`.
-/

namespace Findings.Report

inductive Kind where
  | native
  | issueTracker
  | sarif
  | shellLinter
  | compiler
  deriving DecidableEq, Repr

/-- Why a document has no format. -/
inductive FormatFault where
  | unrecognized
  | notArray (key : String)
  deriving DecidableEq, Repr

def FormatFault.message : FormatFault → String
  | unrecognized => "unknown JSON format"
  | notArray key => "\x27" ++ key ++ "\x27 is not a JSON array"

namespace Kind

open Json (Value)

def name : Kind → String
  | native => "native"
  | issueTracker => "issue-tracker"
  | sarif => "sarif"
  | shellLinter => "shell-linter"
  | compiler => "compiler"

def ofName? : String → Option Kind
  | "native" => some native
  | "issue-tracker" => some issueTracker
  | "sarif" => some sarif
  | "shell-linter" => some shellLinter
  | "compiler" => some compiler
  | _ => none

/-- The field that holds the records; compiler diagnostics are records at the top level. -/
def recordsKey? : Kind → Option String
  | native => some "defects"
  | issueTracker => some "issues"
  | sarif => some "runs"
  | shellLinter => some "comments"
  | compiler => none

/-- Formats known by a field at the top, the first one winning. -/
def marked : List Kind := [native, issueTracker, sarif, shellLinter]

def marks (root : Value) (k : Kind) : Bool :=
  match k.recordsKey? with
  | some key => root.hasKey key
  | none => false

def detect (root : Value) : Except FormatFault Kind :=
  match marked.find? (marks root) with
  | some k => .ok k
  | none => if root.firstChild.hasKey "kind" then .ok compiler else .error .unrecognized

end Kind

/-- The children of the field that holds the records. -/
def recordsUnder (root : Json.Value) (key : String) : Except FormatFault (List Json.Value) :=
  let found := root.field key
  if found.isContainer then .ok found.children else .error (.notArray key)

/-- The records of a document; in a SARIF log these are its runs. -/
def Kind.records (k : Kind) (root : Json.Value) : Except FormatFault (List Json.Value) :=
  match k.recordsKey? with
  | some key => recordsUnder root key
  | none => .ok root.children

end Findings.Report
