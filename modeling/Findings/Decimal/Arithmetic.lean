import Findings.Decimal.Binary64
/-!
Sums and products of binary64 numbers, each rounded to the nearest number.
-/

namespace Findings.Decimal.Binary64

def ofNat (n : Nat) : Binary64 := ofRatio false n 1

def isNegative : Binary64 → Bool
  | nan => false
  | infinite negative => negative
  | finite negative _ _ => negative

def neg : Binary64 → Binary64
  | nan => nan
  | infinite negative => infinite !negative
  | finite negative m e => finite (!negative) m e

/-- The numerator with its sign. -/
def signed (negative : Bool) (n : Nat) : Int := if negative then -(n : Int) else n

/-- A sum of zero is positive unless both numbers are negative. -/
def add : Binary64 → Binary64 → Binary64
  | nan, _ | _, nan => nan
  | infinite a, infinite b => if a = b then infinite a else nan
  | infinite a, _ => infinite a
  | _, infinite b => infinite b
  | x, y =>
    let (n, d) := x.magnitude
    let (n', d') := y.magnitude
    let sum := signed x.isNegative n * d' + signed y.isNegative n' * d
    if sum = 0 then finite (x.isNegative && y.isNegative) 0 (-1074)
    else ofRatio (sum < 0) sum.natAbs (d * d')

def isZero (x : Binary64) : Bool :=
  match x with
  | finite _ 0 _ => true
  | _ => false

def mul (x y : Binary64) : Binary64 :=
  let negative := x.isNegative != y.isNegative
  match x, y with
  | nan, _ | _, nan => nan
  | infinite _, _ => if y.isZero then nan else infinite negative
  | _, infinite _ => if x.isZero then nan else infinite negative
  | _, _ =>
    let (n, d) := x.magnitude
    let (n', d') := y.magnitude
    ofRatio negative (n * n') (d * d')

end Findings.Decimal.Binary64
