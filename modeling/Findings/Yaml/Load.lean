import Findings.Yaml.Merge
import Findings.Yaml.Scalar
import Findings.Yaml.SlotOrder
/-!
The value of a YAML text. A scalar has its value as soon as it is met; a collection is empty at
first and is filled in its turn, behind the collections that were met before it. So the faults of a
text come to light level by level, and a collection may be met again while it is filled.
-/

namespace Findings.Yaml

/-- A text on the way to its value. -/
structure Loader where
  graph : Graph
  values : Array (Option Value)
  collections : Collections
  /-- Collections to be filled, the last one first. -/
  pending : List Nat := []

abbrev Loading (α : Type) := StateT Loader (Except LoadFault) α

namespace Loading

def malformed {α : Type} : Loading α := throw .malformed

/-- The text of a scalar; that of a mapping is under its value sign. -/
def text? (g : Graph) : Nat → Nat → Option String
  | 0, _ => none
  | depth + 1, n =>
    match (g.node n).content with
    | .scalar s => some s
    | .sequence _ => none
    | .mapping entries =>
      match entries.find? fun (key, _) => (g.node key).tag == .value with
      | some (_, value) => text? g depth value
      | none => none

def isScalar (g : Graph) (n : Nat) : Bool :=
  match (g.node n).content with
  | .scalar _ => true
  | _ => false

/-- The collection that a tag asks for, with nothing in it. -/
def emptyOf? : Tag → Option Collection
  | .sequence => some (.list [])
  | .orderedMap | .pairs => some (.pairs [])
  | .set => some (.set [])
  | .mapping => some (.mapping [])
  | _ => none

def remember (n : Nat) (v : Value) : Loading Value := do
  modify fun l => { l with values := l.values.setIfInBounds n (some v) }
  return v

/-- The value of a node, which is the same whenever it is met. -/
def value (n : Nat) : Loading Value := do
  let l ← get
  if let some v := l.values.getD n none then return v
  let tag := (l.graph.node n).tag
  match emptyOf? tag with
  | some c =>
    set { l with collections := l.collections.put n c, pending := n :: l.pending }
    remember n (.collection n)
  | none =>
    match text? l.graph (l.graph.size + 1) n with
    | none => malformed
    | some s =>
      match Scalar.value n tag (isScalar l.graph n) s with
      | .ok v => remember n v
      | .error fault => throw fault

/-! ## Filling -/

def items (n : Nat) : Loading (List Value) := do
  match ((← get).graph.node n).content with
  | .sequence items => items.mapM value
  | _ => malformed

/-- A sequence of mappings with one entry each. -/
def pairs (n : Nat) : Loading (List (Value × Value)) := do
  match ((← get).graph.node n).content with
  | .sequence items =>
    items.mapM fun item => do
      match ((← get).graph.node item).content with
      | .mapping [(key, v)] => return (← value key, ← value v)
      | _ => malformed
  | _ => malformed

/-- The entries of a mapping, with merge keys filled in. -/
def entries (n : Nat) : Loading (List (Value × Value)) := do
  let l ← get
  if !l.graph.isMapping n then malformed
  match l.graph.merge n with
  | none => malformed
  | some graph =>
    set { l with graph }
    let read ← (graph.entries n).mapM fun (key, v) => do
      let key ← value key
      if !key.canBeKey then malformed
      return (key, ← value v)
    return read.foldl (fun acc (k, v) => Value.putEntry k v acc) []

def contentOf (n : Nat) : Collection → Loading Collection
  | .list _ => return .list (← items n)
  | .pairs _ => return .pairs (← pairs n)
  | .set _ => return .set (SlotOrder.orderOf ((← entries n).map Prod.fst))
  | .mapping _ => return .mapping (← entries n)

def fill (n : Nat) : Loading Unit := do
  let c ← contentOf n ((← get).collections.collection n)
  modify fun l => { l with collections := l.collections.put n c }

/-- Fills all collections, those that are in others after them. Every level has one at least. -/
def fillLevels : Nat → Loading Unit
  | 0 => return ()
  | levels + 1 => do
    let level := (← get).pending.reverse
    if !level.isEmpty then
      modify fun l => { l with pending := [] }
      level.forM fill
      fillLevels levels

def whole (root : Nat) : Loading Value := do
  let v ← value root
  fillLevels ((← get).graph.size + 1)
  return v

end Loading

def Loader.ofGraph (graph : Graph) : Loader where
  graph := graph
  values := Array.replicate graph.size none
  collections := Array.replicate graph.size default

/-- The value of a text; one without a document is null. -/
def load (s : String) : Except LoadFault Loaded :=
  match Graph.ofText s with
  | .error .malformed => .error .malformed
  | .error (.noCharacter code) => .error (.noCharacter code)
  | .ok (_, none) => .ok {}
  | .ok (graph, some root) =>
    match (Loading.whole root).run (.ofGraph graph) with
    | .ok (root, l) => .ok { root, collections := l.collections }
    | .error fault => .error fault

end Findings.Yaml
