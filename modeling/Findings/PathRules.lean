import Findings.Pattern.Grammar
import Findings.Pattern.Substitution
/-!
An ordered list of rules for paths, which brings different spellings of one path together. A rule
replaces every match of its pattern.

The pattern of a rule is read when the list is made, its replacement when it is applied; a faulty
replacement therefore shows on the first path, whether the pattern matches there or not. So does a
pattern of bytes, which can be read but is not for texts.
-/

namespace Findings

structure PathRule where
  pattern : Pattern.Source
  replacement : String := ""
  deriving DecidableEq, Repr

/-- Build trees and a leading `./` are of no interest. -/
def PathRule.standard : List PathRule :=
  [{ pattern := "^/builddir/build/BUILD/[^/]+/" }, { pattern := "^\\./" }]

/-- Rules whose patterns were read without fault. -/
structure PathRules where
  rules : List (PathRule × Pattern.Compiled)
  deriving DecidableEq, Repr

namespace PathRules

/-- Reads the patterns; the first faulty one counts. -/
def readRules : List PathRule → Except Pattern.Fault (List (PathRule × Pattern.Compiled))
  | [] => .ok []
  | rule :: rest =>
    match Pattern.compile rule.pattern with
    | .error fault => .error fault
    | .ok compiled =>
      match readRules rest with
      | .error fault => .error fault
      | .ok rules => .ok ((rule, compiled) :: rules)

def ofRules (rules : List PathRule) : Except Pattern.Fault PathRules :=
  match readRules rules with
  | .error fault => .error fault
  | .ok rules => .ok ⟨rules⟩

def applyRule (rule : PathRule) (compiled : Pattern.Compiled) (path : String) :
    Except Pattern.Fault String :=
  match Pattern.Template.read compiled rule.replacement with
  | .error fault => .error fault
  | .ok template =>
    let replaced :=
      if rule.pattern.isBinary then .error .binaryPattern else compiled.replaceAll template path
    replaced.mapError fun cause => { cause, position := none, source := rule.pattern }

def applyRules : List (PathRule × Pattern.Compiled) → String → Except Pattern.Fault String
  | [], path => .ok path
  | (rule, compiled) :: rest, path =>
    match applyRule rule compiled path with
    | .error fault => .error fault
    | .ok path => applyRules rest path

/-- Applies the rules one after another. -/
def apply (r : PathRules) (path : String) : Except Pattern.Fault String :=
  applyRules r.rules path

end PathRules

end Findings
