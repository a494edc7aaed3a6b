import Findings.Decimal.Notation
import Findings.Json.Value
import Findings.Text.Quoted
/-!
Values as messages show them, and the names of their kinds.
-/

namespace Findings.Json.Value

mutual

def display : Value → String
  | .null => "None"
  | .bool true => "True"
  | .bool false => "False"
  | .int n => toString n
  | .real x => Decimal.plain.text x
  | .text s => Text.quoted s
  | .array items => "[" ++ String.intercalate ", " (displays items) ++ "]"
  | .object fields => "\x7b" ++ String.intercalate ", " (memberDisplays fields) ++ "\x7d"

def displays : List Value → List String
  | [] => []
  | v :: rest => display v :: displays rest

def memberDisplays : List (String × Value) → List String
  | [] => []
  | (k, v) :: rest => (Text.quoted k ++ ": " ++ display v) :: memberDisplays rest

end

def kindName : Value → String
  | .null => "NoneType"
  | .bool _ => "bool"
  | .int _ => "int"
  | .real _ => "float"
  | .text _ => "str"
  | .array _ => "list"
  | .object _ => "dict"

end Findings.Json.Value
