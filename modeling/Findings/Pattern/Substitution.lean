import Findings.Pattern.Matching
import Findings.Pattern.Template
/-!
Replacing every match in a text, from left to right. Empty matches are replaced too, also right
behind another match; after an empty match the next one at the same place must not be empty.
-/

namespace Findings.Pattern

/-- A match: where it begins, and what is remembered after it. -/
structure Match where
  start : Spot
  memory : Memory
  deriving DecidableEq, Repr

namespace Match

/-- Where the match ends. -/
def stop (f : Match) : Spot := f.memory.noted

def isEmpty (f : Match) : Bool := f.stop.index = f.start.index

/-- The text of a group, the whole match as group zero. -/
def group? (f : Match) (index : Nat) : Option (List Char) :=
  if index = 0 then some (f.start.upTo f.stop)
  else (f.memory.span? index).map fun (start, stop) => start.upTo stop

/-- What is put in the place of the match. Groups can be looked up only if each of them ends behind
its beginning. -/
def replacement (f : Match) (groups : Nat) (t : Template) : Except Cause (List Char) :=
  if t.any Piece.isGroup && (List.range groups).any (fun i => f.memory.isWrong (i + 1)) then
    .error .wrongSpan
  else .ok (t.expand f.group?)

end Match

namespace Compiled

/-- The first match from a place on; `goesOn` tells that there it must not be empty. -/
def search (p : Compiled) : List Char → (goesOn : Bool) → Spot → Option Match
  | [], goesOn, s => (p.match? goesOn s).map (⟨s, ·⟩)
  | c :: rest, goesOn, s =>
    match p.match? goesOn s with
    | some memory => some ⟨s, memory⟩
    | none => p.search rest false ⟨c :: s.before, rest, s.index + 1⟩

/-- The text from a place on, with up to so many matches replaced. -/
def replaced (p : Compiled) (t : Template) :
    Nat → (goesOn : Bool) → Spot → Except Cause (List Char)
  | 0, _, s => .ok s.after
  | fuel + 1, goesOn, s =>
    match p.search s.after goesOn s with
    | none => .ok s.after
    | some f =>
      match f.replacement p.groups t, p.replaced t fuel f.isEmpty f.stop with
      | .error cause, _ => .error cause
      | .ok _, .error cause => .error cause
      | .ok put, .ok rest => .ok (s.upTo f.start ++ put ++ rest)

/-- The text with every match replaced. At each place there are at most two matches. -/
def replaceAll (p : Compiled) (t : Template) (s : String) : Except Cause String :=
  (p.replaced t (2 * s.length + 3) false (Spot.start s.toList)).map String.ofList

end Compiled

end Findings.Pattern
