import Findings.Decimal.Notation
import Findings.Json.Value
import Findings.Text.Point
/-!
JSON text of a value: `", "` and `": "` as separators, and ASCII characters only. A value is written
only if its containers do not nest too deep.
-/

namespace Findings.Json

namespace Printer

/-- Number words where the standard has none. -/
def layout : Decimal.Layout := { Decimal.plain with nan := "NaN", infinity := "Infinity" }

def unit16 (n : Nat) : List Char := '\\' :: 'u' :: Text.Hex.digits 4 n

/-- Characters beyond the first plane are written as two escapes. -/
def escapeChar (c : Char) : List Char :=
  match c with
  | '"' => ['\\', '"']
  | '\\' => ['\\', '\\']
  | '\n' => ['\\', 'n']
  | '\r' => ['\\', 'r']
  | '\t' => ['\\', 't']
  | '\x0c' => ['\\', 'f']
  | '\x08' => ['\\', 'b']
  | c =>
    if 0x20 ≤ c.toNat ∧ c.toNat < 0x7f then [c]
    else if c.toNat < 0x10000 then unit16 c.toNat
    else
      let n := c.toNat - 0x10000
      unit16 (0xD800 + n / 0x400) ++ unit16 (0xDC00 + n % 0x400)

def escape : Text.Point → List Char
  | .char c => escapeChar c
  | p => unit16 p.code

def string (s : String) : String :=
  "\"" ++ String.ofList ((Text.points s.toList).flatMap escape) ++ "\""

mutual

def value : Value → String
  | .null => "null"
  | .bool true => "true"
  | .bool false => "false"
  | .int n => toString n
  | .real x => layout.text x
  | .text s => string s
  | .array items => "[" ++ String.intercalate ", " (values items) ++ "]"
  | .object fields => "\x7b" ++ String.intercalate ", " (members fields) ++ "\x7d"

def values : List Value → List String
  | [] => []
  | v :: rest => value v :: values rest

def members : List (String × Value) → List String
  | [] => []
  | (k, v) :: rest => (string k ++ ": " ++ value v) :: members rest

end

end Printer

/-- Why a value cannot be written. -/
inductive WriteFault where
  | nesting
  deriving DecidableEq, Repr

def WriteFault.message : WriteFault → String
  | nesting => "maximum recursion depth exceeded while encoding a JSON object"

/-- The text of a value whose containers nest at most `depth` deep. -/
def write (depth : Nat) (v : Value) : Except WriteFault String :=
  if v.nesting ≤ depth then .ok (Printer.value v) else .error .nesting

end Findings.Json
