import Findings.Decimal.Arithmetic
import Findings.Decimal.Integer
import Findings.Text.Case
import Findings.Text.Digit
import Findings.Text.Numeral
import Findings.Text.Quoted
import Findings.Text.Split
/-!
Numbers of a YAML text. Underscores do not count. A whole number is written in base two, eight or
sixteen, as its beginning tells, else in base ten or in parts of base sixty; a real number in base
ten or in parts of base sixty. Digits may be of any script, and blanks may stand around a number and
around each part.
-/

namespace Findings.Yaml.Number

/-- Why a text is no number. -/
inductive Fault where
  /-- There is nothing where a digit has to be. -/
  | missing
  | notWhole (base : Nat) (text : String)
  | oversize (o : Decimal.Oversize)
  | notReal (text : String)
  /-- The first part would weigh more than any number. -/
  | tooManyParts
  deriving DecidableEq, Repr

/-- The beginning of a text in quotes, quotes included. -/
def shown (limit : Nat) (s : String) : String :=
  String.ofList ((Text.quoted s).toList.take limit)

def Fault.message : Fault → String
  | missing => "string index out of range"
  | notWhole base text =>
    "invalid literal for int() with base " ++ toString base ++ ": " ++ shown 200 text
  | oversize o => o.message
  | notReal text => "could not convert string to float: " ++ Text.quoted text
  | tooManyParts => "int too large to convert to float"

/-- A sign and what is behind it. -/
def splitSign : List Char → Bool × List Char
  | '-' :: cs => (true, cs)
  | '+' :: cs => (false, cs)
  | cs => (false, cs)

def signedInt (negative : Bool) (n : Nat) : Int := if negative then -(n : Int) else n

/-! ## Whole numbers -/

/-- Decimal digits of any script, then letters. -/
def digitValue? (c : Char) : Option Nat := Text.Digit.value? c <|> Text.Hex.value? c

/-- The letter that names a base behind a zero. -/
def baseLetter? : Nat → Option Char
  | 2 => some 'b'
  | 8 => some 'o'
  | 16 => some 'x'
  | _ => none

def withoutBase (base : Nat) : List Char → List Char
  | '0' :: c :: cs => if baseLetter? base = some c.toLower then cs else '0' :: c :: cs
  | cs => cs

def isDigitOf (base : Nat) (c : Char) : Bool := (digitValue? c).any (· < base)

/-- Reads a number in one base. Only runs of decimal digits are limited. -/
def wholeIn (base : Nat) (cs : List Char) : Except Fault Int :=
  let (negative, body) := splitSign (Text.trimMargins cs)
  let body := withoutBase base body
  let digits := body.takeWhile (isDigitOf base)
  if base = 10 ∧ Decimal.maxDigits < digits.length then .error (.oversize ⟨digits.length⟩)
  else if digits.isEmpty ∨ digits.length < body.length then
    .error (.notWhole base (String.ofList cs))
  else
    .ok (signedInt negative (digits.foldl (fun n c => n * base + (digitValue? c).getD 0) 0))

def withoutUnderscores (s : String) : List Char := s.toList.filter (· ≠ '_')

/-- Reads a number whose base its beginning tells. -/
def unsignedWhole (cs : List Char) : Except Fault Int :=
  match cs with
  | [] => .error .missing
  | ['0'] => .ok 0
  | '0' :: 'b' :: digits => wholeIn 2 digits
  | '0' :: 'x' :: digits => wholeIn 16 digits
  | '0' :: _ => wholeIn 8 cs
  | _ =>
    if cs.contains ':' then
      (Text.splitAt ':' cs).foldlM (fun acc part => (wholeIn 10 part).map (acc * 60 + ·)) 0
    else wholeIn 10 cs

def whole (s : String) : Except Fault Int :=
  let (negative, cs) := splitSign (withoutUnderscores s)
  (unsignedWhole cs).map fun n => if negative then -n else n

/-! ## Real numbers -/

/-- A decimal with digits around a point and perhaps an exponent. -/
structure Parts where
  digits : List Char
  places : Nat
  exponent : Int

def exponentOf? (cs : List Char) : Option Int :=
  match cs with
  | [] => some 0
  | 'e' :: rest =>
    let (negative, ds) := splitSign rest
    if !ds.isEmpty && ds.all Char.isDigit then
      some (signedInt negative (Nat.ofDigitChars 10 ds 0))
    else none
  | _ => none

def parts? (cs : List Char) : Option Parts :=
  let whole := cs.takeWhile Char.isDigit
  let rest := cs.dropWhile Char.isDigit
  let (places, behind) := match rest with
    | '.' :: r => (r.takeWhile Char.isDigit, r.dropWhile Char.isDigit)
    | r => ([], r)
  if whole.isEmpty && places.isEmpty then none
  else (exponentOf? behind).map fun e => ⟨whole ++ places, places.length, e⟩

/-- The usual form of a digit. -/
def plainDigit (c : Char) : Char :=
  match Text.Digit.value? c with
  | some d => Char.ofNat ('0'.toNat + d)
  | none => c

/-- Reads a decimal, or one of the words for what no digits can tell. -/
def decimal (cs : List Char) : Except Fault Decimal.Binary64 :=
  let (negative, body) := splitSign (Text.trimMargins cs)
  if ["inf", "infinity"].contains (String.ofList body) then .ok (.infinite negative)
  else if String.ofList body = "nan" then .ok .nan
  else
    match parts? (body.map plainDigit) with
    | some p =>
      .ok (.ofDecimal negative (Nat.ofDigitChars 10 p.digits 0) (p.exponent - p.places))
    | none => .error (.notReal (String.ofList cs))

/-- Adds parts in base sixty, the one with the least weight first. -/
def sexagesimal (weight : Nat) (sum : Decimal.Binary64) :
    List Decimal.Binary64 → Except Fault Decimal.Binary64
  | [] => .ok sum
  | part :: parts =>
    match Decimal.Binary64.ofNat weight with
    | .finite negative m e =>
      sexagesimal (weight * 60) (sum.add (part.mul (.finite negative m e))) parts
    | _ => .error .tooManyParts

def unsignedReal (cs : List Char) : Except Fault Decimal.Binary64 :=
  if cs = ".inf".toList then .ok (.infinite false)
  else if cs = ".nan".toList then .ok .nan
  else if cs.contains ':' then
    match (Text.splitAt ':' cs).mapM decimal with
    | .ok parts => sexagesimal 1 (.ofNat 0) parts.reverse
    | .error fault => .error fault
  else decimal cs

/-- The text without underscores, in lower case. -/
def realText (s : String) : List Char := Text.lower (withoutUnderscores s)

def real (s : String) : Except Fault Decimal.Binary64 :=
  match realText s with
  | [] => .error .missing
  | cs =>
    let (negative, body) := splitSign cs
    (unsignedReal body).map fun x => if negative then x.neg else x

/-- Whether a text stands for the one value that is no number, in so many signs. -/
def isNotANumber (s : String) : Bool := (splitSign (realText s)).2 = ".nan".toList

end Findings.Yaml.Number
