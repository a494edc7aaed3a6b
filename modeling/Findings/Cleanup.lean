import Findings.Decimal.Integer
import Findings.Defect
/-!
Rules that tidy a decoded defect by the message of its key event: a trailing weakness number moves
into the field it belongs to, and warnings of the compiler's analyzer get a checker of their own.

Both rules look at the end of the message; one final line break there does not count.
-/

namespace Findings

def compilerWarning : String := "COMPILER_WARNING"

def analyzerWarning : String := "GCC_ANALYZER_WARNING"

namespace Cleanup

/-- The characters, last one first, without one final line break. -/
def reversedBody (cs : List Char) : List Char :=
  match cs.reverse with
  | '\n' :: body => body
  | body => body

/-- Splits `<before> [CWE-<digits>]`. -/
def splitCwe? (cs : List Char) : Option (List Char × List Char) :=
  match reversedBody cs with
  | ']' :: body =>
    let digits := (body.takeWhile Char.isDigit).reverse
    if digits.isEmpty then none
    else match body.dropWhile Char.isDigit with
      | '-' :: 'E' :: 'W' :: 'C' :: '[' :: ' ' :: before => some (before.reverse, digits)
      | _ => none
  | _ => none

/-- Whether the word occurs with at least one character behind it. -/
def occursBefore (word : List Char) : List Char → Bool
  | [] => false
  | c :: cs =>
    (match word.isPrefixOf? (c :: cs) with
      | some (_ :: _) => true
      | _ => false) || occursBefore word cs

/-- Whether the text ends in ` [-Wanalyzer-<name>]`, where the name has no closing bracket. -/
def endsInAnalyzer (cs : List Char) : Bool :=
  match reversedBody cs with
  | ']' :: body =>
    occursBefore " [-Wanalyzer-".toList (body.takeWhile (· ≠ ']')).reverse
  | _ => false

inductive Rule where
  | cweSuffix
  | analyzerClass
  deriving DecidableEq, Repr

/-- A number that is already there wins over the one in the message. -/
def moveCwe (d : Defect) (key : Event) : Except Decimal.Oversize Defect :=
  match splitCwe? key.message.toList with
  | none => .ok d
  | some (before, digits) =>
    let shorter := d.mapKey fun e => { e with message := String.ofList before }
    if d.cwe = 0 then
      (Decimal.natural digits).map fun n => { shorter with cwe := n }
    else .ok shorter

def classify (d : Defect) (key : Event) : Defect :=
  if d.checker = compilerWarning ∧ endsInAnalyzer key.message.toList then
    { d with checker := analyzerWarning }
  else d

/-- Applies one rule; a defect without events stays as it is. -/
def Rule.apply (r : Rule) (d : Defect) : Except Decimal.Oversize Defect :=
  match d.trace, r with
  | [], _ => .ok d
  | key :: _, cweSuffix => moveCwe d key
  | key :: _, analyzerClass => .ok (classify d key)

def standard : List Rule := [.cweSuffix, .analyzerClass]

/-- Applies the rules one after another. -/
def run : List Rule → Defect → Except Decimal.Oversize Defect
  | [], d => .ok d
  | r :: rest, d =>
    match r.apply d with
    | .ok d => run rest d
    | .error o => .error o

end Cleanup

end Findings
