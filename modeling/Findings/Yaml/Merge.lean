import Findings.Yaml.Node
/-!
Merge keys. The entries of the mapping under a merge key, or of the mappings in the sequence under
it, go in front of the entries that are there; of several mappings the last one goes first, so that
an earlier one wins. A value sign as a key becomes a text. All this changes nodes for good, also for
those who mention them elsewhere.
-/

namespace Findings.Yaml.Graph

def entries (g : Graph) (n : Nat) : List (Nat × Nat) :=
  match (g.node n).content with
  | .mapping entries => entries
  | _ => []

def isMapping (g : Graph) (n : Nat) : Bool :=
  match (g.node n).content with
  | .mapping _ => true
  | _ => false

/-- Whether a key has something to do with merging. -/
def isSpecial (g : Graph) (key : Nat) : Bool :=
  let tag := (g.node key).tag
  tag == .merge || tag == .value

mutual

/-- Goes through the entries of a mapping from an index on, with the entries that merge keys have
brought so far; none if a merge key has no mappings. -/
def mergeFrom : Nat → Nat → Nat → List (Nat × Nat) → Graph → Option Graph
  | 0, _, _, _, _ => none
  | fuel + 1, n, i, merged, g =>
    match (g.entries n)[i]? with
    | none =>
      some (if merged.isEmpty then g else g.setContent n (.mapping (merged ++ g.entries n)))
    | some (key, value) =>
      match (g.node key).tag with
      | .merge =>
        let g := g.setContent n (.mapping ((g.entries n).eraseIdx i))
        match (g.node value).content with
        | .mapping _ =>
          match mergeFrom fuel value 0 [] g with
          | some g => mergeFrom fuel n i (merged ++ g.entries value) g
          | none => none
        | .sequence items =>
          match mergeAll fuel items [] g with
          | some (g, brought) => mergeFrom fuel n i (merged ++ brought) g
          | none => none
        | .scalar _ => none
      | .value => mergeFrom fuel n (i + 1) merged (g.setTag key .string)
      | _ => mergeFrom fuel n (i + 1) merged g

/-- The entries of several mappings, those of the last one first. -/
def mergeAll : Nat → List Nat → List (Nat × Nat) → Graph → Option (Graph × List (Nat × Nat))
  | 0, _, _, _ => none
  | _ + 1, [], brought, g => some (g, brought)
  | fuel + 1, n :: ns, brought, g =>
    if g.isMapping n then
      match mergeFrom fuel n 0 [] g with
      | some g => mergeAll fuel ns (g.entries n ++ brought) g
      | none => none
    else none

end

/-- How much there is to go through in a node. -/
def weight (node : Node) : Nat :=
  match node.content with
  | .scalar _ => 0
  | .sequence items => items.length
  | .mapping entries => entries.length

/-- The graph after merging into a mapping. -/
def merge (g : Graph) (n : Nat) : Option Graph :=
  if (g.entries n).any fun (key, _) => g.isSpecial key then
    let total := g.foldl (fun sum node => sum + weight node) 2
    mergeFrom (total * total) n 0 [] g
  else some g

end Findings.Yaml.Graph
