import Findings.Decimal.Integer
import Findings.Text.Blank
import Findings.Text.Digit
/-!
Integers as people write them: blanks around, an optional sign, decimal digits of any script, single
underscores between digits.
-/

namespace Findings.Text.Numeral

/-- Digits that follow a first one, each perhaps after an underscore. -/
def moreDigits : List Char → Option (List Nat)
  | [] => some []
  | '_' :: c :: rest =>
    match Digit.value? c, moreDigits rest with
    | some d, some ds => some (d :: ds)
    | _, _ => none
  | c :: rest =>
    match Digit.value? c, moreDigits rest with
    | some d, some ds => some (d :: ds)
    | _, _ => none

/-- One digit or more. -/
def digits? : List Char → Option (List Nat)
  | [] => none
  | c :: rest =>
    match Digit.value? c, moreDigits rest with
    | some d, some ds => some (d :: ds)
    | _, _ => none

def ofDigits (ds : List Nat) : Nat := ds.foldl (fun n d => 10 * n + d) 0

/-- An unsigned numeral; one of more than `Decimal.maxDigits` digits is none. -/
def natural? (cs : List Char) : Option Nat :=
  match digits? cs with
  | some ds => if ds.length ≤ Decimal.maxDigits then some (ofDigits ds) else none
  | none => none

def signed? : List Char → Option Int
  | '-' :: cs => (natural? cs).map fun n => -(n : Int)
  | '+' :: cs => (natural? cs).map fun n => (n : Int)
  | cs => (natural? cs).map fun n => (n : Int)

def integer? (s : String) : Option Int := signed? (trimBlanks s.toList)

end Findings.Text.Numeral
