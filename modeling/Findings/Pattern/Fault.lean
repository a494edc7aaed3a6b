import Findings.Decimal.Integer
import Findings.Text.Quoted
/-!
What a pattern is written as; what can be wrong with a pattern or a replacement, and how it is told.
-/

namespace Findings.Pattern

/-- What is read: a text, or bytes, each of which counts as the character with its number. -/
inductive Source where
  | text (s : String)
  | bytes (bs : List UInt8)
  deriving DecidableEq, Repr

instance : Coe String Source := ⟨.text⟩

namespace Source

def chars : Source → List Char
  | text s => s.toList
  | bytes bs => bs.map fun b => Char.ofNat b.toNat

def isBinary : Source → Bool
  | text _ => false
  | bytes _ => true

def quoted : Source → String
  | text s => Text.quoted s
  | bytes bs => Text.quotedBytes bs

end Source

inductive Cause where
  | danglingEscape
  | badEscape (shown : String)
  | incompleteEscape (shown : String)
  | octalRange (shown : String)
  | missing (what : String)
  | unterminatedName (closing : Char)
  | badGroupName (name : String)
  | unknownGroupName (name : String)
  | unknownCharacter (name : String)
  | openGroup
  | sameLookbehind
  | invalidGroup (index : Nat)
  | zeroGroup
  | redefined (name : String) (index old : Nat)
  | unterminatedSet
  | badRange (lo hi : String)
  | nothingToRepeat
  | multipleRepeat
  | minOverMax
  | repeatTooLarge
  | oversize (o : Decimal.Oversize)
  | unexpectedEnd
  | unknownExtension (shown : String)
  | unterminatedComment
  | unterminatedGroup
  | tooManyBranches
  | lateFlags
  | unknownFlag
  | badFlags (why : String)
  | clashingFlags (other : String)
  | unbalanced
  | variableLookbehind
  | repetitionInTemplate (operator : String)
  | wrongSpan
  /-- A pattern of bytes finds nothing in a text, and does not look. -/
  | binaryPattern
  deriving DecidableEq, Repr

def Cause.message : Cause → String
  | danglingEscape => "bad escape (end of pattern)"
  | badEscape shown => "bad escape " ++ shown
  | incompleteEscape shown => "incomplete escape " ++ shown
  | octalRange shown => "octal escape value " ++ shown ++ " outside of range 0-0o377"
  | missing what => "missing " ++ what
  | unterminatedName closing => "missing " ++ String.singleton closing ++ ", unterminated name"
  | badGroupName name => "bad character in group name " ++ Text.quoted name
  | unknownGroupName name => "unknown group name " ++ Text.quoted name
  | unknownCharacter name => "undefined character name " ++ Text.quoted name
  | openGroup => "cannot refer to an open group"
  | sameLookbehind => "cannot refer to group defined in the same lookbehind subpattern"
  | invalidGroup index => "invalid group reference " ++ toString index
  | zeroGroup => "bad group number"
  | redefined name index old =>
    "redefinition of group name " ++ Text.quoted name ++ " as group " ++ toString index ++
      "; was group " ++ toString old
  | unterminatedSet => "unterminated character set"
  | badRange lo hi => "bad character range " ++ lo ++ "-" ++ hi
  | nothingToRepeat => "nothing to repeat"
  | multipleRepeat => "multiple repeat"
  | minOverMax => "min repeat greater than max repeat"
  | repeatTooLarge => "the repetition number is too large"
  | oversize o => o.message
  | unexpectedEnd => "unexpected end of pattern"
  | unknownExtension shown => "unknown extension ?" ++ shown
  | unterminatedComment => "missing ), unterminated comment"
  | unterminatedGroup => "missing ), unterminated subpattern"
  | tooManyBranches => "conditional backref with more than two branches"
  | lateFlags => "global flags not at the start of the expression"
  | unknownFlag => "unknown flag"
  | badFlags why => "bad inline flags: " ++ why
  | clashingFlags other => "ASCII and " ++ other ++ " flags are incompatible"
  | unbalanced => "unbalanced parenthesis"
  | variableLookbehind => "look-behind requires fixed-width pattern"
  | repetitionInTemplate operator => "internal: unsupported template operator " ++ operator
  | wrongSpan =>
    "The span of capturing group is wrong, please report a bug for the re module."
  | binaryPattern => "cannot use a bytes pattern on a string-like object"

/-- A cause, where it is in what it was found in, if at one place, and what that is. -/
structure Fault where
  cause : Cause
  position : Option Nat
  source : Source
  deriving DecidableEq, Repr

namespace Fault

/-- The place by line and column, told only if there is more than one line. -/
def lineAndColumn (source : List Char) (position : Nat) : String :=
  if source.contains '\n' then
    let before := source.take position
    let column := (before.reverse.takeWhile (· ≠ '\n')).length + 1
    " (line " ++ toString (before.count '\n' + 1) ++ ", column " ++ toString column ++ ")"
  else ""

/-- Characters that are not ASCII by their numbers, as a fault of bytes is told. -/
def asciiOf (s : String) : String :=
  String.ofList <| s.toList.flatMap fun c =>
    if c.toNat < 128 then [c] else '\\' :: 'x' :: Text.Hex.digits 2 c.toNat

/-- What is wrong, without the place. -/
def told (f : Fault) : String :=
  if f.source.isBinary then asciiOf f.cause.message else f.cause.message

def message (f : Fault) : String :=
  match f.position with
  | none => f.told
  | some p => f.told ++ " at position " ++ toString p ++ lineAndColumn f.source.chars p

end Fault

end Findings.Pattern
