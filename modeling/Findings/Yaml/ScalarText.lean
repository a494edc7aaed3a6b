import Findings.Text.Digit
import Findings.Text.Point
import Findings.Yaml.Lexer
/-!
The texts of scalars: blocks of lines, quoted texts, and plain texts, with lines folded as each of
them demands.
-/

namespace Findings.Yaml.ScalarText

open Lexing

/-! ## Blocks -/

/-- What becomes of the line breaks at the end of a block. -/
inductive Chomping where
  | clip
  | strip
  | keep
  deriving DecidableEq, Repr

def chomping? : Char → Option Chomping
  | '+' => some .keep
  | '-' => some .strip
  | _ => none

/-- A digit that gives the indentation; zero is none. -/
def increment? : Lexing (Option Nat) := do
  let c ← peek 0
  if c.isDigit then
    if c = '0' then fail
    forward 1
    return some (c.toNat - '0'.toNat)
  else return none

def chomping : Lexing (Option Chomping) := do
  match chomping? (← peek 0) with
  | some k =>
    forward 1
    return some k
  | none => return none

/-- The signs behind the bar or the angle, in either order. -/
def header : Lexing (Chomping × Option Nat) := do
  let first ← chomping
  let increment ← increment?
  let second ← if first.isSome then pure none else if increment.isSome then chomping else pure none
  if !isSpaceOrEnd (← peek 0) then fail
  return ((first.or second).getD .clip, increment)

/-- Skips the empty lines at the top; gives their breaks and the widest indentation seen. -/
def leading : Nat → Nat → List Char → Lexing (List Char × Nat)
  | 0, widest, breaks => return (breaks, widest)
  | n + 1, widest, breaks => do
    let c ← peek 0
    if c = ' ' then
      forward 1
      leading n (max widest (← get).column) breaks
    else if isBreak c then
      let b ← lineBreak
      leading n widest (breaks ++ b)
    else return (breaks, widest)

/-- Skips the indentation of a line, up to the given width. -/
def indentation (indent : Nat) : Nat → Lexing Unit
  | 0 => return ()
  | n + 1 => do
    if (← get).column < indent ∧ (← peek 0) = ' ' then
      forward 1
      indentation indent n

/-- Skips empty lines and gives their breaks. -/
def emptyLines (indent : Nat) : Nat → List Char → Lexing (List Char)
  | 0, breaks => return breaks
  | n + 1, breaks => do
    indentation indent indent
    if isBreak (← peek 0) then
      let b ← lineBreak
      emptyLines indent n (breaks ++ b)
    else return breaks

def isBlank (c : Char) : Bool := c = ' ' || c = '\t'

/-- The lines of a block; `breaks` are the empty lines in front. Gives the text, the last line break
and the breaks behind it. -/
def lines (folded : Bool) (indent : Nat) :
    Nat → List Char → List Char → Lexing (List Char × List Char × List Char)
  | 0, breaks, acc => return (acc, [], breaks)
  | n + 1, breaks, acc => do
    if (← get).column ≠ indent ∨ (← peek 0) = endMark then return (acc, [], breaks)
    let acc := acc ++ breaks
    let startsBlank := isBlank (← peek 0)
    let line ← takeWhile (fun c => !isBreak c)
    let acc := acc ++ line
    let lastBreak ← lineBreak
    let breaks ← emptyLines indent (← fuel) []
    if (← get).column = indent ∧ (← peek 0) ≠ endMark then
      let isFolded := folded && lastBreak == ['\n'] && !startsBlank && !isBlank (← peek 0)
      let joint := if isFolded then (if breaks.isEmpty then [' '] else []) else lastBreak
      lines folded indent n breaks (acc ++ joint)
    else return (acc, lastBreak, breaks)

def block (folded : Bool) : Lexing String := do
  forward 1
  let (chomping, increment) ← header
  ignoredLine
  let least := (max ((← get).indent + 1) 1).toNat
  let (breaks, indent) ← match increment with
    | none => do
      let (breaks, widest) ← leading (← fuel) 0 []
      pure (breaks, max least widest)
    | some n => do
      let indent := least + n - 1
      pure (← emptyLines indent (← fuel) [], indent)
  let (text, lastBreak, rest) ← lines folded indent (← fuel) breaks []
  return String.ofList <| match chomping with
    | .strip => text
    | .clip => text ++ lastBreak
    | .keep => text ++ lastBreak ++ rest

/-! ## Quotes -/

def single : Char := '\x27'

/-- What a backslash and this character stand for. -/
def escape? : Char → Option Char
  | '0' => some '\x00'
  | 'a' => some '\x07'
  | 'b' => some '\x08'
  | 't' | '\t' => some '\t'
  | 'n' => some '\n'
  | 'v' => some '\x0b'
  | 'f' => some '\x0c'
  | 'r' => some '\r'
  | 'e' => some '\x1b'
  | ' ' => some ' '
  | '"' => some '"'
  | '\\' => some '\\'
  | '/' => some '/'
  | 'N' => some '\x85'
  | '_' => some '\xa0'
  | 'L' => some '\u2028'
  | 'P' => some '\u2029'
  | _ => none

/-- The number of digits of an escape by code point. -/
def escapeWidth? : Char → Option Nat
  | 'x' => some 2
  | 'u' => some 4
  | 'U' => some 8
  | _ => none

/-- Empty lines inside quotes; a document may not end there. -/
def quotedBreaks : Nat → List Char → Lexing (List Char)
  | 0, breaks => return breaks
  | n + 1, breaks => do
    if ← atDocumentMarker then fail
    let _ ← takeWhile isBlank
    if isBreak (← peek 0) then
      let b ← lineBreak
      quotedBreaks n (breaks ++ b)
    else return breaks

/-- Blanks inside quotes; a line break counts as a space, further ones as themselves. -/
def quotedSpaces : Lexing (List Char) := do
  let blanks ← takeWhile isBlank
  let c ← peek 0
  if c = endMark then fail
  if isBreak c then
    let first ← lineBreak
    let breaks ← quotedBreaks (← fuel) []
    if first ≠ ['\n'] then return first ++ breaks
    else if breaks.isEmpty then return [' ']
    else return breaks
  else return blanks

/-- Behind a backslash. -/
def escaped : Lexing (List Char) := do
  let c ← peek 0
  match escape? c, escapeWidth? c with
  | some d, _ =>
    forward 1
    return [d]
  | none, some width =>
    forward 1
    let digits := (← get).ahead.take width
    match Text.Hex.number? digits with
    | none => fail
    | some code =>
      if digits.length ≠ width then fail
      if 0x10FFFF < code then throw (.noCharacter code)
      forward width
      return (Text.Point.ofCode code).chars
  | none, none =>
    if isBreak c then
      let _ ← lineBreak
      quotedBreaks (← fuel) []
    else fail

/-- The inside of quotes up to and with the closing one. -/
def inside (double : Bool) : Nat → List Char → Lexing (List Char)
  | 0, _ => fail
  | n + 1, acc => do
    let c ← peek 0
    if c = endMark then fail
    if double ∧ c = '"' then
      forward 1
      return acc
    else if double ∧ c = '\\' then
      forward 1
      let cs ← escaped
      inside double n (acc ++ cs)
    else if !double ∧ c = single then
      if (← peek 1) = single then
        forward 2
        inside double n (acc ++ [single])
      else
        forward 1
        return acc
    else if isBlank c || isBreak c then
      let cs ← quotedSpaces
      inside double n (acc ++ cs)
    else
      forward 1
      inside double n (acc ++ [c])

def quoted (double : Bool) : Lexing String := do
  forward 1
  return String.ofList (← inside double (← fuel) [])

/-! ## Plain -/

def isFlowIndicator (c : Char) : Bool := ",[]\x7b\x7d".toList.contains c

/-- Whether a plain text ends before this character. -/
def endsPlain (inFlow : Bool) (c next : Char) : Bool :=
  isGapOrEnd c ||
    (c = ':' && (isGapOrEnd next || (inFlow && isFlowIndicator next))) ||
    (inFlow && (c = '?' || isFlowIndicator c))

def plainLength (inFlow : Bool) : List Char → Nat
  | [] => 0
  | c :: rest =>
    if endsPlain inFlow c (rest.headD endMark) then 0 else plainLength inFlow rest + 1

/-- Empty lines between the lines of a plain text; none where a document ends. -/
def plainBreaks : Nat → List Char → Lexing (Option (List Char))
  | 0, breaks => return some breaks
  | n + 1, breaks => do
    let c ← peek 0
    if c = ' ' then
      forward 1
      plainBreaks n breaks
    else if isBreak c then
      let b ← lineBreak
      if ← atDocumentMarker then return none
      plainBreaks n (breaks ++ b)
    else return some breaks

/-- What stands between two words of a plain text; empty if the text ends here. -/
def plainSpaces : Lexing (List Char) := do
  let spaces ← takeWhile (· = ' ')
  if isBreak (← peek 0) then
    let first ← lineBreak
    allowKey true
    if ← atDocumentMarker then return []
    match ← plainBreaks (← fuel) [] with
    | none => return []
    | some breaks =>
      if first ≠ ['\n'] then return first ++ breaks
      else if breaks.isEmpty then return [' ']
      else return breaks
  else return spaces

def words (indent : Int) : Nat → List Char → List Char → Lexing (List Char)
  | 0, _, acc => return acc
  | n + 1, spaces, acc => do
    let l ← get
    if l.peekAt 0 = '#' then return acc
    let length := plainLength (l.flow ≠ 0) l.ahead
    if length = 0 then return acc
    allowKey false
    let acc := acc ++ spaces ++ l.ahead.take length
    forward length
    let spaces ← plainSpaces
    let l ← get
    if spaces.isEmpty ∨ l.peekAt 0 = '#' ∨ (l.flow = 0 ∧ (l.column : Int) < indent) then return acc
    words indent n spaces acc

def plain : Lexing String := do
  return String.ofList (← words ((← get).indent + 1) (← fuel) [] [])

end Findings.Yaml.ScalarText
