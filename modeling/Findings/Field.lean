import Findings.Json.Display
import Findings.Text.Numeral
/-!
Typed reading of the fields of a record, and what can be wrong with a record.

* A field that is missing or null reads as the default.
* A number may be written as a whole number, as a float without fraction, or as a text.
* A text may be written as a number.
-/

namespace Findings

/-- Why a record is malformed. -/
inductive RecordFault where
  | notNumber (key shown : String)
  | notText (key kind : String)
  | notObject (what : String)
  | missing (what : String)
  | unnamedEvent (label : String)
  | noMainEvent
  | noTrace
  deriving DecidableEq, Repr

def RecordFault.message : RecordFault → String
  | notNumber key shown => key ++ ": expected a number, got " ++ shown
  | notText key kind => key ++ ": expected a string, got " ++ kind
  | notObject what => what ++ " node is not a JSON object"
  | missing what => "missing " ++ what
  | unnamedEvent label => "event without " ++ label
  | noMainEvent => "issue has neither events nor a main event"
  | noTrace => "defect has no events"

namespace Field

open Json (Value)

/-- The number a value stands for. -/
def asNumber? : Value → Option Int
  | .int n => some n
  | .real x => x.toInt?
  | .text s => Text.Numeral.integer? s
  | _ => none

/-- The text a value stands for. -/
def asText? : Value → Option String
  | .text s => some s
  | .int n => some (toString n)
  | .real x => some (Decimal.plain.text x)
  | _ => none

def number (v : Value) (key : String) (default : Int) : Except RecordFault Int :=
  let found := v.field key
  if found.isNull then .ok default
  else match asNumber? found with
    | some n => .ok n
    | none => .error (.notNumber key found.display)

def text (v : Value) (key : String) (default : String) : Except RecordFault String :=
  let found := v.field key
  if found.isNull then .ok default
  else match asText? found with
    | some s => .ok s
    | none => .error (.notText key found.kindName)

/-- Only objects have fields of their own to read. -/
def requireObject (v : Value) (what : String) : Except RecordFault Unit :=
  match v with
  | .object _ => .ok ()
  | _ => .error (.notObject what)

end Field

end Findings

namespace Findings.Report

inductive DecodeFault where
  /-- The record is malformed; the records after it are not affected. -/
  | record (fault : RecordFault)
  /-- A run of digits is too long to be read; nobody handles this one. -/
  | oversize (o : Decimal.Oversize)
  deriving DecidableEq, Repr

/-- Reading as part of decoding. -/
abbrev Decoded (α : Type) := Except DecodeFault α

def ofField {α : Type} : Except RecordFault α → Decoded α
  | .ok a => .ok a
  | .error f => .error (.record f)

def ofDigits {α : Type} : Except Decimal.Oversize α → Decoded α
  | .ok a => .ok a
  | .error o => .error (.oversize o)

end Findings.Report
