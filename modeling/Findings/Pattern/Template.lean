import Findings.Pattern.Escape
/-!
Replacements: literal characters and references to groups. A replacement without a backslash stands
for itself; one with a backslash may be faulty, also by naming a group that the pattern lacks.
-/

namespace Findings.Pattern

inductive Piece where
  | literal (c : Char)
  | group (index : Nat)
  deriving DecidableEq, Repr

/-- Whether the piece refers to a group. -/
def Piece.isGroup : Piece → Bool
  | literal _ => false
  | group _ => true

abbrev Template := List Piece

namespace Template

open Reading Escape

/-- A reference; the group has to be there. -/
def reference (groups index back : Nat) : Reading Piece :=
  if groups < index then fail (.invalidGroup index) back else return .group index

/-- The group in angle brackets, by name or number. An unknown name is a fault without a place. -/
def bracketed (p : Compiled) : Reading Piece := do
  if !(← accept '<') then fail (.missing "<") 0
  let name ← name '>' "group name"
  let back := name.length + 1
  if isName name then
    match p.names.lookup name with
    | some index => return .group index
    | none => failAt (.unknownGroupName name) none
  else match groupNumber? name with
    | some index => reference p.groups index back
    | none => fail (.badGroupName name) back

/-- A number: three octal digits are a character, otherwise one or two digits name a group. -/
def numbered (groups : Nat) (c : Char) : Reading Piece := do
  let second ← takeWhile Char.isDigit 1
  let third ←
    if isOctal c && !second.isEmpty && second.all isOctal then takeWhile isOctal 1 else pure []
  let digits := c :: second ++ third
  if !third.isEmpty then return .literal (Char.ofNat (← checkOctal digits))
  reference groups (Nat.ofDigitChars 10 digits 0) digits.length

/-- What stands behind a backslash. -/
def escape (p : Compiled) (c : Char) : Reading (List Piece) := do
  if c = 'g' then return [← bracketed p]
  else if c = '0' then
    return [.literal (Char.ofNat (octal (← takeWhile isOctal 2)))]
  else if c.isDigit then return [← numbered p.groups c]
  else match control? c with
    | some d => return [.literal d]
    | none =>
      if c.isAlpha then fail (.badEscape (shown [c])) 2
      else return [.literal '\\', .literal c]

def pieces (p : Compiled) : Nat → Reading (List Piece)
  | 0 => return []
  | fuel + 1 => do
    match ← take with
    | none => return []
    | some (.plain c) => return .literal c :: (← pieces p fuel)
    | some (.escaped c) =>
      let first ← escape p c
      return first ++ (← pieces p fuel)
    | some .dangling => fail .danglingEscape 0

def whole (p : Compiled) (fuel : Nat) : Reading Template := do
  look
  pieces p fuel

/-- Reads a replacement for a pattern. -/
def read (p : Compiled) (source : String) : Except Fault Template :=
  if source.toList.contains '\\' then
    let ahead := Token.split source.toList
    (whole p (ahead.length + 1)).run' { source, ahead }
  else .ok (source.toList.map .literal)

/-- Fills in the groups; one that took no part is empty. -/
def expand (captured : Nat → Option (List Char)) : Template → List Char
  | [] => []
  | .literal c :: rest => c :: expand captured rest
  | .group index :: rest => (captured index).getD [] ++ expand captured rest

end Template

end Findings.Pattern
