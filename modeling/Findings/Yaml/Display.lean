import Findings.Decimal.Integer
import Findings.Decimal.Notation
import Findings.Text.Quoted
import Findings.Yaml.Value
/-!
How values show in messages and in text. A collection that is met inside itself shows as an
ellipsis in its brackets. A value does not show that nests too deep, nor does one with a number that
has too many digits to be written.
-/

namespace Findings.Yaml

/-- Why a value does not show. -/
inductive DisplayFault where
  | unwritable (fault : Decimal.Unwritable)
  | tooDeep
  deriving DecidableEq, Repr

def DisplayFault.message : DisplayFault → String
  | unwritable fault => fault.message
  | tooDeep => "maximum recursion depth exceeded while getting the repr of an object"

namespace Collection

/-- What stands for the collection inside of itself. -/
def ellipsis : Collection → String
  | list _ | pairs _ => "[...]"
  | set _ | mapping _ => "\x7b...\x7d"

end Collection

namespace Value

def joined (left right : String) (parts : List String) : String :=
  left ++ String.intercalate ", " parts ++ right

/-- The text of a value inside collections. It may take so many levels, its own among them; a pair
has one of its own, and so has the list that shows what is in a set. -/
def displayIn (collections : Collections) : Nat → List Nat → Value → Except DisplayFault String
  | 0, _, _ => .error .tooDeep
  | _ + 1, _, null => .ok "None"
  | _ + 1, _, bool b => .ok (if b then "True" else "False")
  | _ + 1, _, int n => (Decimal.written n).mapError .unwritable
  | _ + 1, _, real x => .ok (Decimal.plain.text x)
  | _ + 1, _, notANumber _ => .ok (Decimal.plain.text .nan)
  | _ + 1, _, text s => .ok (Text.quoted s)
  | _ + 1, _, bytes bs => .ok (Text.quotedBytes bs)
  | _ + 1, _, date d => .ok d.display
  | _ + 1, _, moment m => .ok m.display
  | depth + 1, around, collection n =>
    if around.contains n then .ok (collections.collection n).ellipsis
    else
      let inside := displayIn collections depth (n :: around)
      let further : Value → Except DisplayFault String := match depth with
        | 0 => fun _ => .error .tooDeep
        | depth + 1 => displayIn collections depth (n :: around)
      match collections.collection n with
      | .list items => (items.mapM inside).map (joined "[" "]")
      | .set [] => .ok "set()"
      | .set items => (items.mapM further).map (joined "\x7b" "\x7d")
      | .pairs items => do
        let shown ← items.mapM fun (k, v) => do
          return joined "(" ")" [← further k, ← further v]
        return joined "[" "]" shown
      | .mapping entries => do
        let shown ← entries.mapM fun (k, v) => do
          return (← inside k) ++ ": " ++ (← inside v)
        return joined "\x7b" "\x7d" shown

/-- The text of a value in a message, which may take so many levels. -/
def display (depth : Nat) (collections : Collections) (v : Value) : Except DisplayFault String :=
  displayIn collections depth [] v

/-- The text of a pair of values in a message. -/
def displayPair (collections : Collections) (p : Value × Value) :
    Nat → Except DisplayFault String
  | 0 => .error .tooDeep
  | depth + 1 => do
    return joined "(" ")" [← p.1.display depth collections, ← p.2.display depth collections]

/-- The value as a text of its own. -/
def asText (depth : Nat) (collections : Collections) : Value → Except DisplayFault String
  | text s => .ok s
  | v => (v.display depth collections).map fun shown =>
    match v with
    | date d => d.iso
    | moment m => m.iso
    | _ => shown

/-- The name for values of this kind. -/
def kindName (collections : Collections) : Value → String
  | null => "NoneType"
  | bool _ => "bool"
  | int _ => "int"
  | real _ | notANumber _ => "float"
  | text _ => "str"
  | bytes _ => "bytes"
  | date _ => "datetime.date"
  | moment _ => "datetime.datetime"
  | collection n =>
    match collections.collection n with
    | .list _ | .pairs _ => "list"
    | .set _ => "set"
    | .mapping _ => "dict"

end Value

end Findings.Yaml
