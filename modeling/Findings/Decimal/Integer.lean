/-!
Decimal integers: how many digits a text may have to be read, how many a number may have to be
written, and what is said when it has more.

* `toList_toString`: the text of a number is that of its digits;
* `natural_toDigits`: a number of at most `maxDigits` digits is read back from its digits.
-/

namespace Findings.Decimal

/-- Longer runs of digits are refused, so that reading stays cheap. -/
def maxDigits : Nat := 4300

/-- A run of more than `maxDigits` digits. -/
structure Oversize where
  digits : Nat
  deriving DecidableEq, Repr

def Oversize.message (o : Oversize) : String :=
  "Exceeds the limit (" ++ toString maxDigits ++
    " digits) for integer string conversion: value has " ++ toString o.digits ++
    " digits; use sys.set_int_max_str_digits() to increase the limit"

/-- A number whose digits would be more than `maxDigits`. -/
structure Unwritable where
  deriving DecidableEq, Repr

def Unwritable.message (_ : Unwritable) : String :=
  "Exceeds the limit (" ++ toString maxDigits ++
    " digits) for integer string conversion; use sys.set_int_max_str_digits() to increase the limit"

/-- The digits of a number, with its sign. -/
def written (n : Int) : Except Unwritable String :=
  if n.natAbs < Nat.pow 10 maxDigits then .ok (toString n) else .error {}

/-- Reads a run of digits 0 to 9; leading zeros count as digits. -/
def natural (cs : List Char) : Except Oversize Nat :=
  if cs.length ≤ maxDigits then .ok (Nat.ofDigitChars 10 cs 0) else .error ⟨cs.length⟩

/-- A number that is not negative is written without a sign. -/
theorem toList_toString (n : Nat) : (toString (n : Int)).toList = Nat.toDigits 10 n :=
  Nat.toList_repr

theorem toList_toString_negSucc (n : Nat) :
    (toString (Int.negSucc n)).toList = '-' :: Nat.toDigits 10 (n + 1) := by
  rw [← toList_toString (n + 1)]
  exact String.toList_append ..

theorem isDigit_of_mem_toDigits {n : Nat} {c : Char} (mem : c ∈ Nat.toDigits 10 n) : c.isDigit :=
  Nat.isDigit_of_mem_toDigits (by decide) (by decide) mem

theorem natural_toDigits (n : Nat) (h : (Nat.toDigits 10 n).length ≤ maxDigits) :
    natural (Nat.toDigits 10 n) = .ok n := by
  simp [natural, h, Nat.ofDigitChars_ten_toDigits]

/-- A minus sign or none, then digits 0 to 9, one at least. -/
def isSigned : List Char → Bool
  | '-' :: ds => !ds.isEmpty && ds.all Char.isDigit
  | ds => !ds.isEmpty && ds.all Char.isDigit

/-- The value of a text that `isSigned` accepts. -/
def signed : List Char → Except Oversize Int
  | '-' :: ds => (natural ds).map fun n => -(n : Int)
  | ds => (natural ds).map fun n => (n : Int)

end Findings.Decimal
