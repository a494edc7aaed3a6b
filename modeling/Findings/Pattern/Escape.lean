import Findings.Pattern.Scan
import Findings.Text.CharName
/-!
Escapes: a backslash and what stands behind it, in a pattern and within brackets.
-/

namespace Findings.Pattern.Escape

open Reading

/-- Letters that stand for control characters. -/
def control? : Char → Option Char
  | 'a' => some '\x07'
  | 'b' => some '\x08'
  | 'f' => some '\x0c'
  | 'n' => some '\n'
  | 'r' => some '\r'
  | 't' => some '\t'
  | 'v' => some '\x0b'
  | '\\' => some '\\'
  | _ => none

def category? : Char → Option CharItem
  | 'd' => some (.category .digit false)
  | 'D' => some (.category .digit true)
  | 's' => some (.category .space false)
  | 'S' => some (.category .space true)
  | 'w' => some (.category .word false)
  | 'W' => some (.category .word true)
  | _ => none

def isOctal (c : Char) : Bool := '0' ≤ c && c ≤ '7'

def octal (cs : List Char) : Nat := Nat.ofDigitChars 8 cs 0

def isHex (c : Char) : Bool := (Text.Hex.value? c).isSome

def shown (cs : List Char) : String := String.ofList ('\\' :: cs)

/-- The code point that so many hexadecimal digits behind the letter give. -/
def hex (letter : Char) (count : Nat) : Reading Nat := do
  let digits ← takeWhile isHex count
  let text := letter :: digits
  if digits.length ≠ count then fail (.incompleteEscape (shown text)) (digits.length + 2)
  let code := (Text.Hex.number? digits).getD 0
  if 0x10FFFF < code then fail (.badEscape (shown text)) (digits.length + 2)
  return code

/-- The code point of the character whose name stands in braces. -/
def named : Reading Nat := do
  if !(← accept '\x7b') then fail (.missing "\x7b") 0
  let name ← name '\x7d' "character name"
  match Text.CharName.code? name with
  | some code => return code
  | none => fail (.unknownCharacter name) (name.length + 4)

/-- Escapes that mean the same inside and outside of brackets; bytes know the shortest only. -/
def common? (binary : Bool) (c : Char) : Option (Reading Nat) :=
  if c = 'x' then some (hex c 2)
  else if binary then none
  else if c = 'u' then some (hex c 4)
  else if c = 'U' then some (hex c 8)
  else if c = 'N' then some named
  else none

/-- A letter must mean something; any other character stands for itself. -/
def literal (c : Char) : Reading Nat :=
  if c.isAlpha then fail (.badEscape (shown [c])) 2 else return Text.codeOf c

def checkOctal (digits : List Char) : Reading Nat := do
  let code := octal digits
  if 0o377 < code then fail (.octalRange (shown digits)) (digits.length + 1)
  return code

/-- An escape within brackets. -/
def inSet (c : Char) : Reading CharItem := do
  match control? c, category? c, common? (← get).source.isBinary c with
  | some d, _, _ => return .single d.toNat
  | none, some item, _ => return item
  | none, none, some code => return .single (← code)
  | none, none, none =>
    if isOctal c then
      return .single (← checkOctal (c :: (← takeWhile isOctal 2)))
    else if c.isDigit then fail (.badEscape (shown [c])) 2
    else return .single (← literal c)

def anchor? (flags : Flags) : Char → Option Anchor
  | 'A' => some .textStart
  | 'Z' => some .textEnd
  | 'b' => some (.wordEdge flags.ascii)
  | 'B' => some (.notWordEdge flags.ascii)
  | _ => none

/-- Only a group that is closed can be referred to, and not from a lookbehind that has it. -/
def checkLookbehind (index : Nat) : Reading Unit := do
  let s ← get
  match s.lookbehind with
  | none => pure ()
  | some limit =>
    if (s.closed.lookup index).isNone then fail .openGroup 0
    if limit < index then fail .sameLookbehind 0

/-- A reference to a group that ends so many characters before the token ahead. -/
def reference (index back : Nat) : Reading Node := do
  let s ← get
  if (s.closed.lookup index).isNone then fail .openGroup back
  checkLookbehind index
  return .backref index s.flags.ignoreCase s.flags.ascii

def single (flags : Flags) (item : CharItem) : Node :=
  .one (.set (.ofItems flags false [item]))

/-- The character and no other. -/
def itself (flags : Flags) (c : Char) : Node := single flags (.single (Text.codeOf c))

/-- A number: three octal digits are a character, otherwise one or two digits name a group. -/
def numbered (c : Char) : Reading Node := do
  let flags := (← get).flags
  let second ← takeWhile Char.isDigit 1
  let third ←
    if isOctal c && !second.isEmpty && second.all isOctal then takeWhile isOctal 1 else pure []
  let digits := c :: second ++ third
  if !third.isEmpty then return single flags (.single (← checkOctal digits))
  let index := Nat.ofDigitChars 10 digits 0
  if index ≤ (← get).groups then reference index (digits.length + 1)
  else fail (.invalidGroup index) digits.length

/-- An escape outside of brackets. -/
def inPattern (c : Char) : Reading Node := do
  let flags := (← get).flags
  match anchor? flags c, category? c, control? c, common? (← get).source.isBinary c with
  | some a, _, _, _ => return .anchor a
  | none, some item, _, _ => return single flags item
  | none, none, some d, _ => return single flags (.single d.toNat)
  | none, none, none, some code => return single flags (.single (← code))
  | none, none, none, none =>
    if c = '0' then
      return single flags (.single (octal (c :: (← takeWhile isOctal 2))))
    else if c.isDigit then numbered c
    else return single flags (.single (← literal c))

end Findings.Pattern.Escape
