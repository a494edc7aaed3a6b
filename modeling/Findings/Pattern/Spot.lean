import Findings.Pattern.Node
/-!
Places in a text, and what a search through the text remembers: marks where groups begin and end,
and the place noted last.
-/

namespace Findings.Pattern

/-- A place in a text: the characters before it, nearest first, and those after it. -/
structure Spot where
  before : List Char
  after : List Char
  /-- How many characters are before it. -/
  index : Nat
  deriving DecidableEq, Repr

namespace Spot

/-- The beginning of a text. -/
def start (text : List Char) : Spot := ⟨[], text, 0⟩

/-- The place behind the next character, if that has a property. -/
def next? (p : Char → Bool) (s : Spot) : Option Spot :=
  match s.after with
  | [] => none
  | c :: rest => if p c then some ⟨c :: s.before, rest, s.index + 1⟩ else none

/-- Goes back so many characters, if there are so many. -/
def back? : Nat → Spot → Option Spot
  | 0, s => some s
  | _ + 1, ⟨[], _, _⟩ => none
  | n + 1, ⟨c :: rest, after, index⟩ => back? n ⟨rest, c :: after, index - 1⟩

/-- The text from here to a later place. -/
def upTo (s stop : Spot) : List Char := s.after.take (stop.index - s.index)

/-- Whether so many characters are ahead. -/
def hasAhead (s : Spot) (n : Nat) : Bool := n = 0 || !(s.after.drop (n - 1)).isEmpty

def headIs (p : Char → Bool) : List Char → Bool
  | [] => false
  | c :: _ => p c

/-- The places reached over up to `hi` of the characters ahead that have a property, the farthest
first, in front of `reached`. -/
def reach (p : Char → Bool) : List Char → Option Nat → Spot → List Spot → List Spot
  | [], _, s, reached => s :: reached
  | c :: rest, hi, s, reached =>
    if hi != some 0 && p c then
      reach p rest (hi.map (· - 1)) ⟨c :: s.before, rest, s.index + 1⟩ (s :: reached)
    else s :: reached

end Spot

namespace Anchor

def isWordEdge (ascii : Bool) (s : Spot) : Bool :=
  let isWord (c : Char) := Category.word.holds ascii c
  Spot.headIs isWord s.before != Spot.headIs isWord s.after

/-- An empty text has no word edges, nor places that are none. -/
def holds (s : Spot) : Anchor → Bool
  | textStart => s.before.isEmpty
  | lineStart => s.before.isEmpty || Spot.headIs (· = '\n') s.before
  | textEnd => s.after.isEmpty
  | lastLineEnd => s.after.isEmpty || s.after = ['\n']
  | lineEnd => s.after.isEmpty || Spot.headIs (· = '\n') s.after
  | wordEdge ascii => !(s.before.isEmpty && s.after.isEmpty) && isWordEdge ascii s
  | notWordEdge ascii => !(s.before.isEmpty && s.after.isEmpty) && !isWordEdge ascii s

end Anchor

/-- Two marks for each group that was met, where it begins and where it ends; and the place noted
last. -/
structure Memory where
  marks : List (Option Spot) := []
  noted : Spot
  deriving DecidableEq, Repr

namespace Memory

def note (m : Memory) (s : Spot) : Memory := { m with noted := s }

/-- Sets a mark; marks before it that were never set stay empty. -/
def mark (m : Memory) (i : Nat) (s : Spot) : Memory :=
  { m with marks := (m.marks ++ List.replicate (i + 1 - m.marks.length) none).set i (some s) }

def opened (m : Memory) (group : Nat) (s : Spot) : Memory := m.mark (2 * group - 2) s

def closed (m : Memory) (group : Nat) (s : Spot) : Memory := m.mark (2 * group - 1) s

/-- Where a group begins and ends. -/
def span? (m : Memory) (group : Nat) : Option (Spot × Spot) :=
  match m.marks[2 * group - 2]?, m.marks[2 * group - 1]? with
  | some (some start), some (some stop) => some (start, stop)
  | _, _ => none

/-- Whether a group ends before it begins; marks that were set at different times can do so. -/
def isWrong (m : Memory) (group : Nat) : Bool :=
  match m.span? group with
  | some (start, stop) => stop.index < start.index
  | none => false

/-- The text of a group. -/
def text? (m : Memory) (group : Nat) : Option (List Char) :=
  if m.isWrong group then none else (m.span? group).map fun (start, stop) => start.upTo stop

/-- Goes back to earlier marks. Outside of repetitions, only marks set since then for the first time
are taken back. -/
def restored (m : Memory) (nested : Bool) (marks : List (Option Spot)) : Memory :=
  { m with marks := if nested then marks else m.marks.take marks.length }

end Memory

end Findings.Pattern
