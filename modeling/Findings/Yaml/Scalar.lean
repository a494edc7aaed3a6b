import Findings.Text.Base64
import Findings.Yaml.Number
import Findings.Yaml.Timestamp
import Findings.Yaml.Value
/-!
The value of a scalar: a truth value, a number, a date, bytes or a text, as its tag says.
-/

namespace Findings.Yaml

/-- Why a text has no value. -/
inductive LoadFault where
  /-- The text is not YAML, or a tag does not fit. -/
  | malformed
  | noCharacter (code : Nat)
  | number (fault : Number.Fault)
  | timestamp (fault : Timestamp.Fault)
  | unknownWord (word : String)
  /-- The text nests too deep. -/
  | tooDeep
  deriving DecidableEq, Repr

namespace LoadFault

/-- Code points from here on are not even numbers of the right size. -/
def codeLimit : Nat := 2147483648

def message : LoadFault → String
  | malformed => ""
  | noCharacter code =>
    if code < codeLimit then "chr() arg not in range(0x110000)"
    else "Python int too large to convert to C int"
  | number fault => fault.message
  | timestamp fault => fault.message
  | unknownWord word => Text.quoted word
  | tooDeep => "maximum recursion depth exceeded"

/-- Whether it is the value of a scalar that is wrong. -/
def isBadValue : LoadFault → Bool
  | noCharacter code => code < codeLimit
  | number fault =>
    match fault with
    | .missing | .tooManyParts => false
    | _ => true
  | timestamp fault => fault != .noForm && fault != .noText
  | malformed | unknownWord _ | tooDeep => false

end LoadFault

namespace Scalar

/-- Words for truth values, in any case. -/
def bool (s : String) : Except LoadFault Bool :=
  let word := String.ofList (Text.lower s.toList)
  if ["yes", "true", "on"].contains word then .ok true
  else if ["no", "false", "off"].contains word then .ok false
  else .error (.unknownWord word)

def isAscii (c : Char) : Bool := c.toNat < 128

def bytes (s : String) : Except LoadFault (List UInt8) :=
  match if s.toList.all isAscii then Text.Base64.decode? s.toList else none with
  | some bs => .ok bs
  | none => .error .malformed

/-- What is no number, at a node. -/
def realValue (n : Nat) (s : String) : Decimal.Binary64 → Value
  | .nan => .notANumber (if Number.isNotANumber s then none else some n)
  | x => .real x

/-- The value of the scalar at a node; `isText` tells whether the node holds just its text. -/
def value (n : Nat) (tag : Tag) (isText : Bool) (s : String) : Except LoadFault Value :=
  match tag with
  | .null => .ok .null
  | .string => .ok (.text s)
  | .bool => (bool s).map .bool
  | .int => ((Number.whole s).map .int).mapError .number
  | .float => ((Number.real s).map (realValue n s)).mapError .number
  | .binary => (bytes s).map .bytes
  | .timestamp =>
    if !isText then .error (.timestamp .noText)
    else
      match Timestamp.read s with
      | .ok (.date d) => .ok (.date d)
      | .ok (.moment m) => .ok (.moment m)
      | .error fault => .error (.timestamp fault)
  | _ => .error .malformed

end Scalar

end Findings.Yaml
