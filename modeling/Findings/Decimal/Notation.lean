import Findings.Decimal.Shortest
/-!
The text of a binary64 number: shortest digits, laid out by a record of the format's choices.
-/

namespace Findings.Decimal

/-- Numbers whose leading digit stands at a decimal place from `least` up to but not including
`limit` are written positionally, all others with an exponent of at least `width` digits. -/
structure Layout where
  least : Int
  limit : Int
  width : Nat
  nan : String
  infinity : String

/-- Positional from `1e-4` below `1e16`, whole numbers keep `.0`, exponents have a sign and two
digits at least. -/
def plain : Layout := ⟨-4, 16, 2, "nan", "inf"⟩

namespace Layout

def pad (width : Nat) (cs : List Char) : List Char :=
  List.replicate (width - cs.length) '0' ++ cs

/-- Digits with the point after the first `place + 1` of them. -/
def positional (digits : List Char) (place : Int) : List Char :=
  if place < 0 then
    '0' :: '.' :: (List.replicate (-place - 1).toNat '0' ++ digits)
  else
    let whole := place.toNat + 1
    let after := digits.drop whole
    digits.take whole ++ List.replicate (whole - digits.length) '0' ++
      '.' :: (if after.isEmpty then ['0'] else after)

def exponential (width : Nat) (digits : List Char) (place : Int) : List Char :=
  let head := match digits with
    | [] => ['0']
    | [d] => [d]
    | d :: ds => d :: '.' :: ds
  head ++ 'e' :: (if place < 0 then '-' else '+') ::
    pad width (Nat.toDigits 10 place.natAbs)

def magnitude (l : Layout) (m : Nat) (e : Int) : List Char :=
  if m = 0 then ['0', '.', '0']
  else
    let s := Binary64.shortest m e
    let digits := Nat.toDigits 10 s.digits
    let place := s.exponent + digits.length - 1
    if l.least ≤ place ∧ place < l.limit then positional digits place
    else exponential l.width digits place

def text (l : Layout) : Binary64 → String
  | .nan => l.nan
  | .infinite negative => if negative then "-" ++ l.infinity else l.infinity
  | .finite negative m e =>
    String.ofList (if negative then '-' :: l.magnitude m e else l.magnitude m e)

end Layout

end Findings.Decimal
