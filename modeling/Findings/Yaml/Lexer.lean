/-!
The state of cutting a YAML text into tokens: where the reader is, how the text is indented, and
which tokens may turn out to begin a key. A key written without a question mark is known only by the
colon behind it; until then its place in the token list is remembered.

Why a text is not YAML is not told, except that an escape may ask for a character that there is
none.
-/

namespace Findings.Yaml

inductive Token where
  | directive (name : String) (handle text : String)
  | documentStart
  | documentEnd
  | streamEnd
  | blockSequenceStart
  | blockMappingStart
  | blockEnd
  | flowSequenceStart
  | flowSequenceEnd
  | flowMappingStart
  | flowMappingEnd
  | blockEntry
  | flowEntry
  | key
  | value
  | alias (name : String)
  | anchor (name : String)
  | tag (handle : Option String) (suffix : String)
  | scalar (text : String) (plain : Bool)
  /-- Here a text asks for the character at this code point, and the tokens end. -/
  | noCharacter (code : Nat)
  deriving DecidableEq, Repr

/-- A place where a key may begin. -/
structure KeyPlace where
  /-- How many tokens stand before it. -/
  tokens : Nat
  /-- Whether there has to be a key. -/
  required : Bool
  index : Nat
  line : Nat
  column : Nat
  deriving DecidableEq, Repr

structure Lexer where
  ahead : List Char
  index : Nat := 0
  line : Nat := 0
  column : Nat := 0
  /-- How many flow collections are open. -/
  flow : Nat := 0
  indent : Int := -1
  /-- Indentations further out. -/
  outer : List Int := []
  keyAllowed : Bool := true
  /-- Possible keys, by the number of flow collections around them. -/
  places : List (Nat × KeyPlace) := []
  /-- The tokens so far, the last one first. -/
  tokens : List Token := []

/-- Why a text cannot be cut any further. -/
inductive CutFault where
  | malformed
  | noCharacter (code : Nat)
  deriving DecidableEq, Repr

abbrev Lexing (α : Type) := StateT Lexer (Except CutFault) α

/-- Stands for the end of the text; a text does not contain it. -/
def endMark : Char := '\x00'

def isBreak (c : Char) : Bool := c = '\n' || c = '\r' || c = '\x85' || c = '\u2028' || c = '\u2029'

def isBreakOrEnd (c : Char) : Bool := c = endMark || isBreak c

def isSpaceOrEnd (c : Char) : Bool := c = ' ' || isBreakOrEnd c

/-- Blank, break or end: what may stand behind an indicator. -/
def isGapOrEnd (c : Char) : Bool := c = '\t' || isSpaceOrEnd c

def isNameChar (c : Char) : Bool := c.isAlphanum || c = '-' || c = '_'

namespace Lexer

def peekAt (l : Lexer) (n : Nat) : Char := (l.ahead[n]?).getD endMark

/-- Moves over one character. -/
def step (l : Lexer) : Lexer :=
  match l.ahead with
  | [] => l
  | c :: rest =>
    let breaks := c = '\n' || c = '\x85' || c = '\u2028' || c = '\u2029' ||
      (c = '\r' && rest.head? != some '\n')
    let l := { l with ahead := rest, index := l.index + 1 }
    if breaks then { l with line := l.line + 1, column := 0 }
    else if c = '\uFEFF' then l
    else { l with column := l.column + 1 }

end Lexer

namespace Lexing

def fail {α : Type} : Lexing α := throw .malformed

def peek (n : Nat) : Lexing Char := do return (← get).peekAt n

def forward : Nat → Lexing Unit
  | 0 => return ()
  | n + 1 => do
    modify Lexer.step
    forward n

/-- Takes characters while they have a property. -/
def takeWhile (p : Char → Bool) : Lexing (List Char) := do
  let cs := (← get).ahead.takeWhile p
  forward cs.length
  return cs

def skipSpaces : Lexing Unit := do
  let _ ← takeWhile (· = ' ')

/-- A bound on the number of rounds of a loop in which every round takes a character. -/
def fuel : Lexing Nat := do return (← get).ahead.length + 1

def push (t : Token) : Lexing Unit := modify fun l => { l with tokens := t :: l.tokens }

/-- Puts a token in front of those from the given number on. -/
def insertAt (n : Nat) (t : Token) : Lexing Unit :=
  modify fun l => { l with tokens := l.tokens.insertIdx (l.tokens.length - n) t }

/-- Takes a line break, as it counts in scalars; without one there is nothing to take. -/
def lineBreak : Lexing (List Char) := do
  match (← get).ahead with
  | '\r' :: '\n' :: _ => forward 2; return ['\n']
  | c :: _ =>
    if c = '\u2028' ∨ c = '\u2029' then forward 1; return [c]
    else if isBreak c then forward 1; return ['\n']
    else return []
  | [] => return []

/-- Takes a comment, if there is one. -/
def comment : Lexing Unit := do
  if (← peek 0) = '#' then
    let _ ← takeWhile (fun c => !isBreak c)

/-- The rest of a line may hold nothing but a comment. -/
def ignoredLine : Lexing Unit := do
  skipSpaces
  comment
  if !isBreakOrEnd (← peek 0) then fail
  let _ ← lineBreak

/-- Whether a marker of three characters stands here by itself. -/
def atMarker (marker : Char) : Lexing Bool := do
  let l ← get
  return l.peekAt 0 = marker && l.peekAt 1 = marker && l.peekAt 2 = marker &&
    isGapOrEnd (l.peekAt 3)

/-- Whether a document ends or begins here, regarded from the start of a line. -/
def atDocumentMarker : Lexing Bool := do
  return (← atMarker '-') || (← atMarker '.')

/-! ## Indentation -/

/-- Closes the blocks that are indented more than the column. -/
def unwind (column : Int) : Lexing Unit := do
  let l ← get
  if l.flow = 0 then loop l.outer.length
where
  loop : Nat → Lexing Unit
    | 0 => return ()
    | n + 1 => do
      let l ← get
      if column < l.indent then
        set { l with
          indent := l.outer.headD (-1), outer := l.outer.tail, tokens := .blockEnd :: l.tokens }
        loop n

/-- Opens a block at the column, if it is indented more than the one around it. -/
def indentTo (column : Int) : Lexing Bool := do
  let l ← get
  if l.indent < column then
    set { l with indent := column, outer := l.indent :: l.outer }
    return true
  else return false

/-! ## Possible keys -/

/-- A key is written in one line, and in at most 1024 characters. -/
def dropStaleKeys : Lexing Unit := do
  let l ← get
  let isStale (p : KeyPlace) : Bool := p.line != l.line || 1024 < l.index - p.index
  if l.places.any fun (_, p) => isStale p && p.required then fail
  set { l with places := l.places.filter fun (_, p) => !isStale p }

/-- Gives up the possible key of the innermost collection. -/
def forgetKey : Lexing Unit := do
  let l ← get
  match l.places.lookup l.flow with
  | none => return ()
  | some p =>
    if p.required then fail
    set { l with places := l.places.filter fun (flow, _) => flow != l.flow }

/-- The next token may begin a key. -/
def rememberKey : Lexing Unit := do
  if (← get).keyAllowed then
    forgetKey
    let l ← get
    let place : KeyPlace :=
      { tokens := l.tokens.length, required := l.flow = 0 && l.indent = l.column
        index := l.index, line := l.line, column := l.column }
    set { l with places := (l.flow, place) :: l.places }

def allowKey (allowed : Bool) : Lexing Unit := modify fun l => { l with keyAllowed := allowed }

end Lexing

end Findings.Yaml
