import Findings.Assoc
import Findings.Decimal.Binary64
/-!
JSON values. Whole numbers are unbounded and apart from numbers with a fraction or exponent; an
object is a list of fields in writing order, each name once.

Reading a field of something that is no object, or a field that is not there, gives `null`, so a
chain of such readings needs no case distinction.

Containers nest as deep as the stack of the caller allows, both in a text that is read and in a
value that is written. Writing takes more of the stack than reading does, so a value that was read
may be too deep to be written.
-/

namespace Findings.Json

inductive Value where
  | null
  | bool (b : Bool)
  | int (n : Int)
  | real (x : Decimal.Binary64)
  | text (s : String)
  | array (items : List Value)
  | object (fields : List (String × Value))
  deriving Inhabited

/-- How deep containers may nest, in a text that is read and in a value that is written. -/
structure Depths where
  read : Nat
  written : Nat
  deriving DecidableEq, Repr

namespace Value

def field (key : String) : Value → Value
  | object fields => (Assoc.get? key fields).getD null
  | _ => null

/-- The items of an array, or the values of an object. -/
def children : Value → List Value
  | array items => items
  | object fields => fields.map Prod.snd
  | _ => []

def firstChild (v : Value) : Value := v.children.headD null

def isNull : Value → Bool
  | null => true
  | _ => false

/-- Array or object. -/
def isContainer : Value → Bool
  | array _ | object _ => true
  | _ => false

def hasKey (key : String) : Value → Bool
  | object fields => (Assoc.get? key fields).isSome
  | _ => false

/-- An array or object without children; it stands for a report without defects. -/
def isEmpty (v : Value) : Bool := v.isContainer && v.children.isEmpty

@[simp] theorem field_object (key : String) (fields : List (String × Value)) :
    (object fields).field key = (Assoc.get? key fields).getD null := rfl

mutual

/-- How deep containers nest in a value. -/
def nesting : Value → Nat
  | array items => nestings items + 1
  | object fields => memberNestings fields + 1
  | _ => 0

def nestings : List Value → Nat
  | [] => 0
  | v :: rest => max (nesting v) (nestings rest)

def memberNestings : List (String × Value) → Nat
  | [] => 0
  | (_, v) :: rest => max (nesting v) (memberNestings rest)

end

theorem isEmpty_iff (v : Value) : v.isEmpty = true ↔ v = array [] ∨ v = object [] := by
  cases v <;> simp [isEmpty, isContainer, children]

end Value

end Findings.Json
