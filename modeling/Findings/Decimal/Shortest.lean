import Findings.Decimal.Binary64
/-!
The decimal with the fewest digits that reads back as a given binary64 number. On the grid of one
digit, then two, up to seventeen, the two neighbours of the number are tried; the first grid with a
neighbour that reads back wins, of two such neighbours the nearer, at equal distance the even one.
All comparisons are exact, over natural numbers.
-/

namespace Findings.Decimal

/-- The number `digits · 10 ^ exponent`. -/
structure Scientific where
  digits : Nat
  exponent : Int
  deriving DecidableEq, Repr, Inhabited

namespace Binary64

/-- The reals that round to `mantissa · 2 ^ exponent`, in units of `2 ^ (exponent - 2)`: the number
itself, the two ends, and whether the ends belong. -/
structure Basin where
  centre : Nat
  low : Nat
  high : Nat
  closed : Bool

def basin (m : Nat) (e : Int) : Basin :=
  let low := if m = Nat.pow 2 52 ∧ -1074 < e then 4 * m - 1 else 4 * m - 2
  ⟨4 * m, low, 4 * m + 2, m % 2 = 0⟩

/-- Powers that bring `2 ^ (e - 2)` and `10 ^ k` over one denominator: a number of units of the
first is compared with a number of units of the second after multiplying by these factors. -/
def factors (e k : Int) : Nat × Nat :=
  let two := e - 2
  ((if 0 ≤ two then Nat.pow 2 two.toNat else 1) * (if 0 ≤ k then 1 else Nat.pow 10 (-k).toNat),
   (if 0 ≤ two then 1 else Nat.pow 2 (-two).toNat) * (if 0 ≤ k then Nat.pow 10 k.toNat else 1))

/-- The better of the two neighbours on the grid of multiples of `10 ^ k`, if one reads back. -/
def onGrid (m : Nat) (e k : Int) : Option Nat :=
  let b := basin m e
  let (f, g) := factors e k
  let centre := b.centre * f
  let lower := centre / g
  let inside (n : Nat) : Bool :=
    let x := n * g
    if b.closed then b.low * f ≤ x && x ≤ b.high * f else b.low * f < x && x < b.high * f
  match inside lower, inside (lower + 1) with
  | true, true =>
    let below := centre - lower * g
    let above := (lower + 1) * g - centre
    if below < above ∨ (below = above ∧ lower % 2 = 0) then some lower else some (lower + 1)
  | true, false => some lower
  | false, true => some (lower + 1)
  | false, false => none

/-- Grids from `10 ^ k` on to finer ones. -/
def firstGrid (m : Nat) (e : Int) : Nat → Int → Scientific
  | 0, k => ⟨(onGrid m e k).getD 0, k⟩
  | n + 1, k =>
    match onGrid m e k with
    | some d => if d = 0 then firstGrid m e n (k - 1) else ⟨d, k⟩
    | none => firstGrid m e n (k - 1)

/-- An upper estimate of the decimal exponent: `m · 2 ^ e < 10 ^ (estimate + 1)`. -/
def decimalExponent (m : Nat) (e : Int) : Int := ((m.log2 : Int) + 1 + e) * 30103 / 100000 + 1

def dropZeros : Nat → Scientific → Scientific
  | 0, s => s
  | n + 1, s => if s.digits % 10 = 0 then dropZeros n ⟨s.digits / 10, s.exponent + 1⟩ else s

/-- The shortest decimal that reads back as `m · 2 ^ e`, where `m` is not zero. -/
def shortest (m : Nat) (e : Int) : Scientific :=
  dropZeros 20 (firstGrid m e 20 (decimalExponent m e))

end Binary64

end Findings.Decimal
