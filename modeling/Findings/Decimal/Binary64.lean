/-!
Binary64 numbers as exact dyadics, and the correct rounding of a decimal to one of them: the
nearest, and of two nearest the one with the even mantissa.
-/

namespace Findings.Decimal

/-- The quotient rounded to the nearest whole number, a half to the even neighbour. -/
def divNearest (num den : Nat) : Nat :=
  let q := num / den
  let r := num % den
  if 2 * r < den ∨ (2 * r = den ∧ q % 2 = 0) then q else q + 1

/-- A finite number is `± mantissa · 2 ^ exponent`. -/
inductive Binary64 where
  | nan
  | infinite (negative : Bool)
  | finite (negative : Bool) (mantissa : Nat) (exponent : Int)
  deriving DecidableEq, Repr, Inhabited

namespace Binary64

/-- The quotient `num / den` divided by `2 ^ e`, as a pair. -/
def scaled (num den : Nat) (e : Int) : Nat × Nat :=
  if 0 ≤ e then (num, den * Nat.pow 2 e.toNat) else (num * Nat.pow 2 (-e).toNat, den)

/-- The exponent at which the quotient has 53 binary digits, though never below the least one. -/
def exponentFor (num den : Nat) : Int :=
  let guess : Int := (num.log2 : Int) - den.log2 - 52
  let (n, d) := scaled num den guess
  max (-1074) (if n / d < Nat.pow 2 52 then guess - 1 else guess)

/-- The number nearest to `± num / den`. -/
def ofRatio (negative : Bool) (num den : Nat) : Binary64 :=
  if num = 0 then .finite negative 0 (-1074)
  else
    let e := exponentFor num den
    let (n, d) := scaled num den e
    let m := divNearest n d
    let (m, e) := if m = Nat.pow 2 53 then (Nat.pow 2 52, e + 1) else (m, e)
    if 971 < e then .infinite negative else .finite negative m e

/-- The number nearest to `± digits · 10 ^ exponent`. Far outside the range the answer is known
without forming the power: `log2` bounds the size of the digits. -/
def ofDecimal (negative : Bool) (digits : Nat) (exponent : Int) : Binary64 :=
  if digits = 0 then .finite negative 0 (-1074)
  else if 400 < (digits.log2 : Int) * 30102 / 100000 + exponent then .infinite negative
  else if ((digits.log2 : Int) + 1) * 30103 / 100000 + 1 + exponent < -400 then
    .finite negative 0 (-1074)
  else if 0 ≤ exponent then ofRatio negative (digits * Nat.pow 10 exponent.toNat) 1
  else ofRatio negative digits (Nat.pow 10 (-exponent).toNat)

/-- The absolute value of a finite number as a quotient. -/
def magnitude : Binary64 → Nat × Nat
  | .finite _ m e =>
    if 0 ≤ e then (m * Nat.pow 2 e.toNat, 1) else (m, Nat.pow 2 (-e).toNat)
  | _ => (0, 1)

/-- The value, if it is a whole number. -/
def toInt? : Binary64 → Option Int
  | .finite negative m e =>
    let sign (n : Nat) : Int := if negative then -(n : Int) else n
    if 0 ≤ e then some (sign (m * Nat.pow 2 e.toNat))
    else
      let unit := Nat.pow 2 (-e).toNat
      if m % unit = 0 then some (sign (m / unit))
      else none
  | _ => none

end Binary64

end Findings.Decimal
