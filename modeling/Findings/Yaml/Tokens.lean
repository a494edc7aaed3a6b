import Findings.Yaml.Property
import Findings.Yaml.ScalarText
/-!
A YAML text as a list of tokens. Blocks that are told by indentation alone get tokens for their
beginning and end.
-/

namespace Findings.Yaml.Tokens

open Lexing

/-- Skips spaces, comments and line breaks. A new line outside of flow collections may begin a
key. -/
def skipGap : Nat → Lexing Unit
  | 0 => return ()
  | n + 1 => do
    skipSpaces
    comment
    if isBreak (← peek 0) then
      let _ ← lineBreak
      if (← get).flow = 0 then allowKey true
      skipGap n

def skipByteOrderMark : Lexing Unit := do
  if (← get).index = 0 ∧ (← peek 0) = '\uFEFF' then forward 1

/-- Ends all blocks, and with them all chances of a key. -/
def endBlocks : Lexing Unit := do
  unwind (-1)
  forgetKey
  allowKey false

def documentMarker (t : Token) : Lexing Unit := do
  endBlocks
  forward 3
  push t

def openFlow (t : Token) : Lexing Unit := do
  rememberKey
  modify fun l => { l with flow := l.flow + 1, keyAllowed := true }
  forward 1
  push t

def closeFlow (t : Token) : Lexing Unit := do
  forgetKey
  modify fun l => { l with flow := l.flow - 1, keyAllowed := false }
  forward 1
  push t

def flowEntry : Lexing Unit := do
  allowKey true
  forgetKey
  forward 1
  push .flowEntry

/-- An entry or a key in block style opens its block, if it is indented more. -/
def blockIndicator (opening : Token) : Lexing Unit := do
  let l ← get
  if l.flow = 0 then
    if !l.keyAllowed then fail
    if ← indentTo l.column then push opening

def blockEntry : Lexing Unit := do
  blockIndicator .blockSequenceStart
  allowKey true
  forgetKey
  forward 1
  push .blockEntry

def explicitKey : Lexing Unit := do
  blockIndicator .blockMappingStart
  allowKey ((← get).flow = 0)
  forgetKey
  forward 1
  push .key

/-- A colon makes a key of what was remembered; without that it belongs to an explicit key. -/
def value : Lexing Unit := do
  let l ← get
  match l.places.lookup l.flow with
  | some place =>
    set { l with places := l.places.filter fun (flow, _) => flow != l.flow }
    insertAt place.tokens .key
    if l.flow = 0 then
      if ← indentTo place.column then insertAt place.tokens .blockMappingStart
    allowKey false
  | none =>
    blockIndicator .blockMappingStart
    allowKey ((← get).flow = 0)
    forgetKey
  forward 1
  push .value

/-- A token that may be a key itself. -/
def node (read : Lexing Token) : Lexing Unit := do
  rememberKey
  allowKey false
  push (← read)

def plainScalar : Lexing Token := do return .scalar (← ScalarText.plain) true

def quotedScalar (double : Bool) : Lexing Token := do
  return .scalar (← ScalarText.quoted double) false

def blockScalar (folded : Bool) : Lexing Unit := do
  allowKey true
  forgetKey
  push (.scalar (← ScalarText.block folded) false)

/-- Characters that cannot begin a plain text. -/
def isIndicator (c : Char) : Bool :=
  isGapOrEnd c || "-?:,[]\x7b\x7d#&*!|>\x27\"%@\x60".toList.contains c

def startsPlain (inFlow : Bool) (c next : Char) : Bool :=
  !isIndicator c || (!isGapOrEnd next && (c = '-' || (!inFlow && (c = '?' || c = ':'))))

/-- The next token, other than the end of the text. -/
def next : Lexing Unit := do
  let l ← get
  let c := l.peekAt 0
  let inFlow := l.flow ≠ 0
  let gapBehind := isGapOrEnd (l.peekAt 1)
  let atStart := l.column = 0
  if c = '%' ∧ atStart then
    endBlocks
    push (← Property.directive)
  else if atStart ∧ (← atMarker '-') then documentMarker .documentStart
  else if atStart ∧ (← atMarker '.') then documentMarker .documentEnd
  else if c = '[' then openFlow .flowSequenceStart
  else if c = '\x7b' then openFlow .flowMappingStart
  else if c = ']' then closeFlow .flowSequenceEnd
  else if c = '\x7d' then closeFlow .flowMappingEnd
  else if c = ',' then flowEntry
  else if c = '-' ∧ gapBehind then blockEntry
  else if c = '?' ∧ (inFlow ∨ gapBehind) then explicitKey
  else if c = ':' ∧ (inFlow ∨ gapBehind) then value
  else if c = '*' then node do return .alias (← Property.anchorName)
  else if c = '&' then node do return .anchor (← Property.anchorName)
  else if c = '!' then node Property.tag
  else if c = '|' ∧ !inFlow then blockScalar false
  else if c = '>' ∧ !inFlow then blockScalar true
  else if c = ScalarText.single then node (quotedScalar false)
  else if c = '"' then node (quotedScalar true)
  else if startsPlain inFlow c (l.peekAt 1) then node plainScalar
  else fail

def all : Nat → Lexing Unit
  | 0 => fail
  | n + 1 => do
    skipByteOrderMark
    skipGap (← fuel)
    dropStaleKeys
    unwind (← get).column
    if (← get).ahead.isEmpty then
      endBlocks
      push .streamEnd
    else
      match next.run (← get) with
      | .ok ((), l) =>
        set l
        all n
      | .error (.noCharacter code) => push (.noCharacter code)
      | .error .malformed => fail

/-- Characters that a YAML text may contain. -/
def isAllowed (c : Char) : Bool :=
  let n := c.toNat
  c = '\t' || c = '\n' || c = '\r' || c = '\x85' || (0x20 ≤ n && n ≤ 0x7E) ||
    (0xA0 ≤ n && n ≤ 0xFFFD) || 0x10000 ≤ n

/-- The tokens of a text, the last of them its end or a character that there is none. -/
def ofText (s : String) : Option (List Token) :=
  let cs := s.toList
  if cs.all isAllowed then
    match (all (cs.length + 1)).run { ahead := cs } with
    | .ok ((), l) => some l.tokens.reverse
    | .error _ => none
  else none

end Findings.Yaml.Tokens
