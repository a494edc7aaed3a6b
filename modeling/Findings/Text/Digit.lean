/-!
Digits. Decimal digits of Unicode 14: each script's digits are ten code points in a row, so a table
of the zeros tells the value of every digit. Hexadecimal digits are of ASCII; numbers are written
with lower-case ones, of a fixed width.

* `value?_of_isDigit`: the digits 0 to 9 have their usual values.
-/

namespace Findings.Text.Digit

/-- The zero of each run of ten digits. -/
def zeros : List Nat :=
  [48, 1632, 1776, 1984, 2406, 2534, 2662, 2790, 2918, 3046, 3174, 3302, 3430, 3558, 3664, 3792,
    3872, 4160, 4240, 6112, 6160, 6470, 6608, 6784, 6800, 6992, 7088, 7232, 7248, 42528, 43216,
    43264, 43472, 43504, 43600, 44016, 65296, 66720, 68912, 69734, 69872, 69942, 70096, 70384,
    70736, 70864, 71248, 71360, 71472, 71904, 72016, 72784, 73040, 73120, 92768, 92864, 93008,
    120782, 120792, 120802, 120812, 120822, 123200, 123632, 125264, 130032]

def valueFrom (code : Nat) : List Nat → Option Nat
  | [] => none
  | z :: rest => if z ≤ code ∧ code < z + 10 then some (code - z) else valueFrom code rest

/-- The value of a digit of any script; other characters have none. -/
def value? (c : Char) : Option Nat := valueFrom c.toNat zeros

theorem value?_of_isDigit (c : Char) (h : c.isDigit = true) :
    value? c = some (c.toNat - '0'.toNat) := by
  simp only [Char.isDigit, Bool.and_eq_true, decide_eq_true_eq] at h
  have lo : 48 ≤ c.toNat := h.1
  have hi : c.toNat ≤ 57 := h.2
  simp [value?, zeros, valueFrom, lo, show c.toNat < 58 by omega, show '0'.toNat = 48 from rfl]

end Findings.Text.Digit

namespace Findings.Text.Hex

def digits (width n : Nat) : List Char :=
  let ds := Nat.toDigits 16 n
  List.replicate (width - ds.length) '0' ++ ds

/-- The value of a hexadecimal digit of either case. -/
def value? (c : Char) : Option Nat :=
  if '0' ≤ c ∧ c ≤ '9' then some (c.toNat - 48)
  else if 'a' ≤ c ∧ c ≤ 'f' then some (c.toNat - 87)
  else if 'A' ≤ c ∧ c ≤ 'F' then some (c.toNat - 55)
  else none

/-- The number that all of the digits form; none if one of them is not a digit. -/
def number? (cs : List Char) : Option Nat :=
  cs.foldl (fun acc c =>
    match acc, value? c with
    | some n, some d => some (16 * n + d)
    | _, _ => none) (some 0)

end Findings.Text.Hex
