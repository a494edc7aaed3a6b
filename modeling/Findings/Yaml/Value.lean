import Findings.Decimal.Arithmetic
import Findings.Yaml.Moment
/-!
The values of a YAML text. A collection is known by the number of its node, and what is in it stands
apart, since a collection may be in several others, or in itself.
-/

namespace Findings.Yaml

inductive Value where
  | null
  | bool (b : Bool)
  | int (n : Int)
  | real (x : Decimal.Binary64)
  /-- A value that is no number and differs from all others. Written as such it is always the same;
  one that a node's text came to is that node's own. -/
  | notANumber (node : Option Nat)
  | text (s : String)
  | bytes (bs : List UInt8)
  | date (d : Date)
  | moment (m : Moment)
  /-- The collection that stands at a node. -/
  | collection (node : Nat)
  deriving DecidableEq, Repr, Inhabited

inductive Collection where
  | list (items : List Value)
  | pairs (items : List (Value × Value))
  | set (items : List Value)
  | mapping (entries : List (Value × Value))
  deriving DecidableEq, Repr, Inhabited

/-- The collections of a text by their nodes. -/
abbrev Collections := Array Collection

namespace Collections

def collection (cs : Collections) (node : Nat) : Collection := cs.getD node default

def put (cs : Collections) (node : Nat) (c : Collection) : Collections := cs.setIfInBounds node c

end Collections

/-- The value of a whole text. -/
structure Loaded where
  root : Value := .null
  collections : Collections := #[]
  deriving DecidableEq, Repr

namespace Value

/-- Collections cannot be keys. -/
def canBeKey : Value → Bool
  | collection _ => false
  | _ => true

/-- The number a key counts as: truth values are the numbers zero and one. -/
def asNumber? : Value → Option Int
  | bool b => some (if b then 1 else 0)
  | int n => some n
  | real x => x.toInt?
  | _ => none

/-- Whether two keys are the same key. -/
def sameKey (a b : Value) : Bool :=
  match a.asNumber?, b.asNumber? with
  | some x, some y => x = y
  | none, none =>
    match a, b with
    | moment m, moment n => m.same n
    | _, _ => a = b
  | _, _ => false

/-- Writes an entry; a key that is there keeps its place and its spelling. -/
def putEntry (key value : Value) : List (Value × Value) → List (Value × Value)
  | [] => [(key, value)]
  | (k, v) :: rest =>
    if sameKey k key then (k, value) :: rest else (k, v) :: putEntry key value rest

/-- The entry under a text key. -/
def entry? (key : String) (entries : List (Value × Value)) : Option Value :=
  (entries.find? fun (k, _) => sameKey k (text key)).map Prod.snd

end Value

end Findings.Yaml
