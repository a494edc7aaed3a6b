import Findings.Pattern.CharSet
/-!
Patterns as trees: how many characters a tree can match, which character a match begins with, and
how sequences, repetitions and alternatives are put together.
-/

namespace Findings.Pattern

/-- Places between characters. -/
inductive Anchor where
  | textStart
  | lineStart
  | textEnd
  /-- The end of the text, or the line break that ends it. -/
  | lastLineEnd
  | lineEnd
  | wordEdge (ascii : Bool)
  | notWordEdge (ascii : Bool)
  deriving DecidableEq, Repr

/-- Which number of repetitions is tried first, and whether others are tried at all. -/
inductive Greed where
  | greedy
  | lazy
  | possessive
  deriving DecidableEq, Repr

/-- Least and greatest number of characters; none is without bound. -/
structure Width where
  lo : Nat
  hi : Option Nat
  deriving DecidableEq, Repr

namespace Width

def exact (n : Nat) : Width := ⟨n, some n⟩

def add (a b : Width) : Width :=
  ⟨a.lo + b.lo, match a.hi, b.hi with | some x, some y => some (x + y) | _, _ => none⟩

def or (a b : Width) : Width :=
  ⟨min a.lo b.lo, match a.hi, b.hi with | some x, some y => some (max x y) | _, _ => none⟩

def times (w : Width) (lo : Nat) (hi : Option Nat) : Width :=
  ⟨w.lo * lo, match w.hi, hi with
    | some x, some n => some (x * n)
    | some 0, none => some 0
    | _, _ => none⟩

/-- Widths from here on do not count as fixed. -/
def unfixed : Nat := 4294967295

/-- Whether every match has the same width. -/
def isFixed (w : Width) : Bool := w.hi = some w.lo && w.lo < unfixed

end Width

inductive Node where
  | empty
  /-- Matches nowhere. -/
  | fail
  | one (c : CharClass)
  | anchor (a : Anchor)
  | seq (first second : Node)
  | alt (first second : Node)
  /-- A repetition of one character. -/
  | series (lo : Nat) (hi : Option Nat) (greed : Greed) (c : CharClass)
  | loop (lo : Nat) (hi : Option Nat) (greed : Greed) (body : Node)
  | group (index : Nat) (body : Node)
  /-- A group that has flags of its own and no number. -/
  | flagged (body : Node)
  | backref (index : Nat) (ignoreCase ascii : Bool)
  | ahead (positive : Bool) (body : Node)
  /-- The body matches just in front; a fixed width tells where it begins. -/
  | behind (positive : Bool) (width : Width) (body : Node)
  | atomic (body : Node)
  | ifGroup (index : Nat) (yes no : Node)
  deriving DecidableEq, Repr

namespace Node

def joined : List Node → Node
  | [] => empty
  | [node] => node
  | node :: rest => seq node (joined rest)

/-- The character that the tree stands for, if it stands for one. -/
def class? : Node → Option CharClass
  | one c => some c
  | flagged body => body.class?
  | _ => none

def isSilent : Node → Bool
  | empty => true
  | seq a b => a.isSilent && b.isSilent
  | flagged body => body.isSilent
  | _ => false

/-- The character that a match has to begin with, where the tree or what follows begins with one. -/
def head? (next : Option CharClass) : Node → Option CharClass
  | empty => next
  | one c => some c
  | seq a b => if a.isSilent then b.head? next else a.head? none
  | flagged body => body.head? next
  | _ => none

/-- Repeats a tree; a repetition of one character is a series. -/
def repeated (lo : Nat) (hi : Option Nat) (greed : Greed) (body : Node) : Node :=
  match body.class? with
  | some c => series lo hi greed c
  | none => loop lo hi greed body

/-- The width of a tree, given the widths of the groups before it. -/
def width (groups : Nat → Width) : Node → Width
  | empty | fail | anchor _ | ahead _ _ | behind _ _ _ => .exact 0
  | one _ => .exact 1
  | seq a b => (a.width groups).add (b.width groups)
  | alt a fail => a.width groups
  | alt a b => (a.width groups).or (b.width groups)
  | series lo hi _ _ => (Width.exact 1).times lo hi
  | loop lo hi _ body => (body.width groups).times lo hi
  | group _ body | flagged body | atomic body => body.width groups
  | backref index _ _ => groups index
  | ifGroup _ yes no => (yes.width groups).or (no.width groups)

/-! ## Alternatives -/

/-- Whether alternatives that begin with this can share it. -/
def isShareable : Node → Bool
  | fail | one _ | anchor _ | backref _ _ _ => true
  | _ => false

/-- What all the alternatives begin with, and what is left of them. -/
def shared : List Node → List (List Node) → List Node × List (List Node)
  | [], others => ([], [] :: others)
  | node :: rest, others =>
    if node.isShareable ∧ others.all (fun o => o.head? = some node) then
      let (first, alternatives) := shared rest (others.map List.tail)
      (node :: first, alternatives)
    else ([], (node :: rest) :: others)

/-- The members of a set that is the whole alternative. -/
def setItems? : List Node → Option (List CharItem)
  | [one (.set s)] => if s.negated then none else some s.items
  | _ => none

/-- Alternatives in order of preference, closed by one that matches nowhere. -/
def chain : List (List Node) → Node
  | [] => fail
  | nodes :: rest => alt (joined nodes) (chain rest)

/-- Alternatives as a sequence: first what they share, then, if each of the rests is a set of
characters, one set with all their members. -/
def alternatives (flags : Flags) : List Node → List (List Node) → List Node
  | nodes, [] => nodes
  | nodes, others =>
    let (first, rests) := shared nodes others
    match rests.mapM setItems? with
    | some items => first ++ [one (.set (.ofItems flags false items.flatten))]
    | none => first ++ [chain rests]

end Node

/-- A pattern that was read without fault. -/
structure Compiled where
  node : Node
  /-- How many groups it has. -/
  groups : Nat
  /-- The numbers of the named groups. -/
  names : List (String × Nat)
  /-- No match is sought where fewer characters are left. -/
  least : Nat := 0
  deriving DecidableEq, Repr

end Findings.Pattern
