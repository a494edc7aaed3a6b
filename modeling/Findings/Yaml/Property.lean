import Findings.Text.Digit
import Findings.Yaml.Lexer
/-!
What stands beside the content of a YAML text: directives, anchors and aliases, and tags.
-/

namespace Findings.Yaml.Property

open Lexing

/-- A name of letters, digits, hyphens and underscores. -/
def name : Lexing String := do
  let cs ← takeWhile isNameChar
  if cs.isEmpty then fail
  return String.ofList cs

def anchorName : Lexing String := do
  forward 1
  let n ← name
  let c ← peek 0
  if isGapOrEnd c || "?:,]\x7d%@\x60".toList.contains c then return n else fail

/-! ## Tags -/

def isUriChar (c : Char) : Bool := c.isAlphanum || "-;/?:@&=+$,_.!~*\x27()[]%".toList.contains c

/-- Octets written in hexadecimal, each behind a percent sign. -/
def octets : Nat → List UInt8 → Lexing (List UInt8)
  | 0, acc => return acc
  | n + 1, acc => do
    if (← peek 0) = '%' then
      forward 1
      let digits := (← get).ahead.take 2
      match Text.Hex.number? digits with
      | some v =>
        if digits.length ≠ 2 then fail
        forward 2
        octets n (acc ++ [v.toUInt8])
      | none => fail
    else return acc

def uriEscapes : Lexing (List Char) := do
  let bytes ← octets (← fuel) []
  match String.fromUTF8? ⟨bytes.toArray⟩ with
  | some s => return s.toList
  | none => fail

def uriParts : Nat → List Char → Lexing (List Char)
  | 0, acc => return acc
  | n + 1, acc => do
    let c ← peek 0
    if c = '%' then
      let cs ← uriEscapes
      uriParts n (acc ++ cs)
    else if isUriChar c then
      forward 1
      uriParts n (acc ++ [c])
    else return acc

def uri : Lexing String := do
  let cs ← uriParts (← fuel) []
  if cs.isEmpty then fail
  return String.ofList cs

/-- An exclamation mark alone, or a name between two of them. -/
def handle : Lexing String := do
  if (← peek 0) ≠ '!' then fail
  if (← peek 1) = ' ' then
    forward 1
    return "!"
  forward 1
  let cs ← takeWhile isNameChar
  if (← peek 0) ≠ '!' then fail
  forward 1
  return String.ofList ('!' :: cs ++ ['!'])

/-- Whether another exclamation mark follows in the same word. -/
def hasHandle (cs : List Char) : Bool :=
  (cs.takeWhile fun c => !isSpaceOrEnd c).contains '!'

def tag : Lexing Token := do
  let c ← peek 1
  let token ←
    if c = '<' then
      forward 2
      let suffix ← uri
      if (← peek 0) ≠ '>' then fail
      forward 1
      pure (Token.tag none suffix)
    else if isGapOrEnd c then
      forward 1
      pure (Token.tag none "!")
    else if hasHandle ((← get).ahead.drop 1) then
      let h ← handle
      pure (Token.tag (some h) (← uri))
    else
      forward 1
      pure (Token.tag (some "!") (← uri))
  if !isSpaceOrEnd (← peek 0) then fail
  return token

/-! ## Directives -/

def number : Lexing String := do
  let cs ← takeWhile Char.isDigit
  if cs.isEmpty then fail
  return String.ofList cs

/-- A version: its two numbers. -/
def version : Lexing Token := do
  skipSpaces
  let major ← number
  if (← peek 0) ≠ '.' then fail
  forward 1
  let minor ← number
  if !isSpaceOrEnd (← peek 0) then fail
  return .directive "YAML" major minor

/-- What a tag handle stands for. -/
def tagHandle : Lexing Token := do
  skipSpaces
  let h ← handle
  if (← peek 0) ≠ ' ' then fail
  skipSpaces
  let text ← uri
  if !isSpaceOrEnd (← peek 0) then fail
  return .directive "TAG" h text

def directive : Lexing Token := do
  forward 1
  let n ← name
  if !isSpaceOrEnd (← peek 0) then fail
  let token ←
    if n = "YAML" then version
    else if n = "TAG" then tagHandle
    else
      let _ ← takeWhile (fun c => !isBreak c)
      pure (Token.directive n "" "")
  ignoredLine
  return token

end Findings.Yaml.Property
