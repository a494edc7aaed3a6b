import Findings.Text.Blank
import Findings.Text.Case
import Findings.Text.Digit
import Findings.Text.Point
import Findings.Text.Word
/-!
Sets of characters as a pattern names them: single characters, ranges and categories, perhaps
negated, perhaps without regard to case.

* `CharSet.accepts_only`, `CharSet.accepts_allBut`: a set of one character, and one of all others.
-/

namespace Findings.Pattern

structure Flags where
  ignoreCase : Bool := false
  multiline : Bool := false
  dotAll : Bool := false
  /-- Categories and case know ASCII only. -/
  ascii : Bool := false
  verbose : Bool := false
  /-- The pattern has to do without repetitions. -/
  template : Bool := false
  deriving DecidableEq, Repr

inductive Category where
  | digit
  | space
  | word
  deriving DecidableEq, Repr

namespace Category

def asciiHolds (c : Char) : Category → Bool
  | digit => c.isDigit
  | space => c = ' ' || ('\t' ≤ c && c ≤ '\r')
  | word => c.isAlphanum || c = '_'

def holds (ascii : Bool) (c : Char) (k : Category) : Bool :=
  if ascii then k.asciiHolds c
  else match k with
    | digit => (Text.Digit.value? c).isSome
    | space => Text.isBlank c
    | word => Text.isWord c

end Category

/-- Whether the character has another case. -/
def isCased (ascii : Bool) (code : Nat) : Bool :=
  if ascii then (65 ≤ code && code ≤ 90) || (97 ≤ code && code ≤ 122) else Text.isCased code

/-- The code point in lower case. -/
def foldCode (ascii : Bool) (code : Nat) : Nat :=
  if ascii then (if 65 ≤ code ∧ code ≤ 90 then code + 32 else code) else Text.lowerCode code

/-- Lower-case letters that count as equal to the lower-case letter at `code`. -/
def equals (ascii : Bool) (code : Nat) : List Nat :=
  code :: if ascii then [] else Text.kinOf code

/-- Code points whose lower case is `code`. -/
def unfolded (ascii : Bool) (code : Nat) : List Nat :=
  if ascii then (if 97 ≤ code ∧ code ≤ 122 then [code, code - 32] else [code])
  else Text.raised code

inductive CharItem where
  | single (code : Nat)
  | range (lo hi : Nat)
  | category (k : Category) (negated : Bool)
  deriving DecidableEq, Repr

namespace CharItem

/-- Whether the item is a single character. -/
def isSingle : CharItem → Bool
  | single _ => true
  | _ => false

/-- Whether the items are one single character. -/
def areOne (items : List CharItem) : Bool := items.length = 1 && items.all isSingle

/-- The last code point of the basic plane. -/
def basic : Nat := 0xFFFF

/-- Whether case can make a difference to the item. Of characters outside the basic plane this is
assumed where they stand beside other items. -/
def folds (ascii beside : Bool) : CharItem → Bool
  | single code => isCased ascii code || (beside && basic < code)
  | range lo hi => basic < hi || (List.range' lo (hi + 1 - lo)).any (isCased ascii)
  | category _ _ => false

end CharItem

structure CharSet where
  items : List CharItem
  negated : Bool := false
  ascii : Bool := false
  /-- Whether case does not count. -/
  folding : Bool := false
  deriving DecidableEq, Repr

namespace CharSet

/-- The set of the given items; case counts unless the flags say otherwise and it can make a
difference. -/
def ofItems (flags : Flags) (negated : Bool) (items : List CharItem) : CharSet :=
  let items := items.eraseDups
  { items, negated, ascii := flags.ascii
    folding := flags.ignoreCase && items.any (CharItem.folds flags.ascii !(CharItem.areOne items)) }

/-- Whether the set names just one character, which it has or lacks. -/
def isSingle (s : CharSet) : Bool := CharItem.areOne s.items

def inRange (lo hi code : Nat) : Bool := lo ≤ code && code ≤ hi

/-- Whether the item has the character, without regard to case. Beside other items, a single
character outside of the basic plane has to be the lower case of the given one; a range that goes
beyond the basic plane has each character whose lower case it has, or the capital of that. -/
def inFolded (s : CharSet) (c : Char) : CharItem → Bool
  | .single code =>
    let lower := foldCode s.ascii (Text.codeOf c)
    if !s.isSingle && CharItem.basic < code then lower = code
    else (equals s.ascii (foldCode s.ascii code)).contains lower
  | .range lo hi =>
    let lower := foldCode s.ascii (Text.codeOf c)
    (equals s.ascii lower).any (fun l => (unfolded s.ascii l).any (inRange lo hi)) ||
      (CharItem.basic < hi && (inRange lo hi lower || inRange lo hi (Text.upperCode lower)))
  | .category k negated => k.holds s.ascii c != negated

/-- Whether the item has the character as it is. -/
def inPlain (s : CharSet) (c : Char) : CharItem → Bool
  | .single code => Text.codeOf c = code
  | .range lo hi => inRange lo hi (Text.codeOf c)
  | .category k negated => k.holds s.ascii c != negated

def accepts (s : CharSet) (c : Char) : Bool :=
  s.items.any (if s.folding then s.inFolded c else s.inPlain c) != s.negated

/-- One character and no other. -/
def only (c : Char) : CharSet := { items := [.single (Text.codeOf c)] }

/-- Any character but one. -/
def allBut (c : Char) : CharSet := { items := [.single (Text.codeOf c)], negated := true }

@[simp] theorem accepts_only (a c : Char) : (only a).accepts c = decide (c = a) := by
  simp [only, accepts, inPlain, Text.codeOf_inj]

@[simp] theorem accepts_allBut (a c : Char) : (allBut a).accepts c = !decide (c = a) := by
  simp [allBut, accepts, inPlain, Text.codeOf_inj]

/-- The only character of the set, where case counts. -/
def literal? (s : CharSet) : Option Nat :=
  match s.items with
  | [.single code] => if s.negated || s.folding then none else some code
  | _ => none

/-- Whether a look at one character settles the choice of this set: case counts, and it is no set of
all characters but one. -/
def isPlain (s : CharSet) : Bool := !s.folding && !(s.isSingle && s.negated)

/-- Whether a series of this set is counted character by character: case does not count, and more
than one letter is in play. -/
def isCounted (s : CharSet) : Bool :=
  s.folding && s.items.any fun
    | .single code => !s.isSingle || 1 < (equals s.ascii (foldCode s.ascii code)).length
    | _ => true

end CharSet

/-- What one character has to be. -/
inductive CharClass where
  | any (dotAll : Bool)
  | set (s : CharSet)
  deriving DecidableEq, Repr

namespace CharClass

def accepts (c : Char) : CharClass → Bool
  | any dotAll => dotAll || c != '\n'
  | set s => s.accepts c

def literal? : CharClass → Option Nat
  | any _ => none
  | set s => s.literal?

def isPlain : CharClass → Bool
  | any _ => false
  | set s => s.isPlain

def isCounted : CharClass → Bool
  | any _ => false
  | set s => s.isCounted

end CharClass

end Findings.Pattern
