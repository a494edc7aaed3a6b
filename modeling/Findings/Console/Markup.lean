import Findings.Console.Sign
import Findings.Text.Blank
import Findings.Text.Case
/-!
Text with style tags in square brackets, and how a console without styles shows it: the tags vanish.
A backslash keeps a tag from being one, and two backslashes in front of a tag stand for one. A tag
that begins with a slash closes the last one of its name, or the last one of all if it has no name.

A bracket that opens no tag needs no backslash and swallows one that stands before it. The name of a
sign between colons stands for the sign. `escape` takes care of tags only, so a text with the former
or the latter does not show as it is.
-/

namespace Findings.Console.Markup

/-! ## Tags -/

/-- What stands before the bracket that closes a tag, and what is behind it. -/
def closing : List Char → Option (List Char × List Char)
  | [] => none
  | c :: cs =>
    if c = ']' then some ([], cs)
    else if c = '[' then none
    else (closing cs).map fun (body, rest) => (c :: body, rest)

def opensTag (c : Char) : Bool := ('a' ≤ c && c ≤ 'z') || c = '#' || c = '/' || c = '@'

/-- The tag, brackets included, at the front of a text. -/
def tag? : List Char → Option (List Char)
  | '[' :: c :: cs =>
    if opensTag c then (closing cs).map fun (body, _) => '[' :: c :: body ++ [']'] else none
  | _ => none

inductive Piece where
  | plain (cs : List Char)
  /-- A tag and how many backslashes stand right before it. -/
  | tag (slashes : Nat) (cs : List Char)
  deriving DecidableEq, Repr

def addPlain (c : Char) : List Piece → List Piece
  | .plain cs :: ps => .plain (c :: cs) :: ps
  | ps => .plain [c] :: ps

/-- The pieces of a text behind characters that belong to a piece already. -/
def piecesAfter : Nat → List Char → List Piece
  | _, [] => []
  | skipped + 1, _ :: cs => piecesAfter skipped cs
  | 0, c :: cs =>
    let slashes := ((c :: cs).takeWhile (· = '\\')).length
    match tag? ((c :: cs).drop slashes) with
    | some t => .tag slashes t :: piecesAfter (slashes + t.length - 1) cs
    | none => addPlain c (piecesAfter 0 cs)

def pieces (cs : List Char) : List Piece := piecesAfter 0 cs

/-! ## Escaping -/

def slashes (n : Nat) : List Char := List.replicate n '\\'

def Piece.escape : Piece → List Char
  | plain cs => cs
  | tag n cs => slashes (2 * n + 1) ++ cs

/-- A single backslash at the end is doubled, lest it falls on a tag behind it. -/
def guardEnd (cs : List Char) : List Char :=
  match cs.reverse with
  | '\\' :: '\\' :: _ => cs
  | '\\' :: _ => cs ++ ['\\']
  | _ => cs

/-- The text with its tags taken as plain text. -/
def escape (s : String) : String :=
  String.ofList (guardEnd ((pieces s.toList).flatMap Piece.escape))

/-! ## Showing -/

/-- Endings that ask for one form of a sign, with the mark for it. -/
def forms : List (String × Char) := [("-text", '\ufe0e'), ("-emoji", '\ufe0f')]

/-- The sign for what stands between two colons, in whatever case. -/
def signOf? (name : List Char) : Option (List Char) :=
  let named (cs : List Char) := Sign.ofName? (String.ofList (Text.lower cs))
  match forms.findSome? fun (ending, mark) =>
      (Sign.without? ending.toList name).map fun base => (base, mark) with
  | some (base, mark) => (named base).map (· ++ [mark])
  | none => named name

/-- Puts signs for their names between colons, in a text behind characters that are done with. -/
def withSignsAfter : Nat → List Char → List Char
  | _, [] => []
  | skipped + 1, _ :: cs => withSignsAfter skipped cs
  | 0, c :: cs =>
    let name := if c = ':' then cs.takeWhile fun c => c ≠ ':' && !Text.isBlank c else []
    if c = ':' ∧ (cs.drop name.length).head? = some ':' then
      (signOf? name).getD (c :: name ++ [':']) ++ withSignsAfter (name.length + 1) cs
    else c :: withSignsAfter 0 cs

/-- A backslash in front of a bracket vanishes. -/
def bareBrackets : List Char → List Char
  | '\\' :: '[' :: cs => '[' :: bareBrackets cs
  | c :: cs => c :: bareBrackets cs
  | [] => []

def shownPlain (cs : List Char) : List Char := withSignsAfter 0 (bareBrackets cs)

def Piece.shown : Piece → List Char
  | plain cs => shownPlain cs
  | tag n cs => slashes (n / 2) ++ if n % 2 = 1 then shownPlain cs else []

/-- What a console shows for a text. -/
def shown (cs : List Char) : List Char :=
  if cs.contains '[' then (pieces cs).flatMap Piece.shown else withSignsAfter 0 cs

/-! ## Faults -/

/-- A tag that closes what was never opened, and the position of its bracket. -/
inductive Fault where
  | nothingOpen (position : Nat)
  | notOpen (tag : List Char) (position : Nat)
  deriving DecidableEq, Repr

def Fault.message : Fault → String
  | nothingOpen position =>
    "closing tag \x27[/]\x27 at position " ++ toString position ++ " has nothing to close"
  | notOpen tag position =>
    "closing tag \x27" ++ String.ofList tag ++ "\x27 at position " ++ toString position ++
      " doesn\x27t match any open tag"

/-- The name in a tag; an equals sign ends it. -/
def tagName (tag : List Char) : List Char := (tag.drop 1).dropLast.takeWhile (· ≠ '=')

/-- Names differ neither by case nor by blanks around them. -/
def normalName (name : List Char) : List Char := Text.lower (Text.trimBlanks name)

/-- The first fault in pieces that begin at a position, with the names that are open there, the last
one first. -/
def faultFrom (opened : List (List Char)) (position : Nat) : List Piece → Option Fault
  | [] => none
  | .plain cs :: ps => faultFrom opened (position + cs.length) ps
  | .tag n cs :: ps =>
    let next := position + n + cs.length
    if n % 2 = 1 then faultFrom opened next ps
    else
      match tagName cs with
      | '/' :: name =>
        let name := normalName name
        if name.isEmpty then
          if opened.isEmpty then some (.nothingOpen (position + n))
          else faultFrom opened.tail next ps
        else if opened.contains name then faultFrom (opened.erase name) next ps
        else some (.notOpen cs (position + n))
      | name => faultFrom (normalName name :: opened) next ps

def fault? (cs : List Char) : Option Fault := faultFrom [] 0 (pieces cs)

end Findings.Console.Markup
