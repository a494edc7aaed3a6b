import Findings.Pattern.Escape
import Findings.Text.Word
/-!
Reading a pattern: alternatives of sequences of items, each perhaps repeated. Faults are told at the
place where reading from left to right meets them.
-/

namespace Findings.Pattern.Grammar

open Reading

/-- What a repetition may stand behind. -/
inductive ItemKind where
  | anchor
  | repetition
  | other
  deriving DecidableEq, Repr

/-- An item, which in a group without number and flags may be a whole sequence. -/
structure Item where
  nodes : List Node
  kind : ItemKind := .other

def Item.ofNode (node : Node) (kind : ItemKind := .other) : Item := { nodes := [node], kind }

/-! ## Brackets -/

/-- One member, or one end of a range: its text as written and what it means. -/
def member (t : Token) : Reading CharItem :=
  match t with
  | .plain c => return .single (Text.codeOf c)
  | .escaped c => Escape.inSet c
  | .dangling => fail .danglingEscape 0

/-- A range, from the end that was read to the one behind the hyphen. -/
def range (lo hi : Token) (loItem hiItem : CharItem) : Reading CharItem := do
  let back := lo.size + 1 + hi.size
  match loItem, hiItem with
  | .single a, .single b =>
    if b < a then fail (.badRange lo.text hi.text) back else return .range a b
  | _, _ => fail (.badRange lo.text hi.text) back

/-- Members up to and with the closing bracket, which counts as a member in first place. -/
def members (start : Nat) : Nat → List CharItem → Reading (List CharItem)
  | 0, _ => failAt .unterminatedSet (some start)
  | fuel + 1, acc => do
    match ← take with
    | none => failAt .unterminatedSet (some start)
    | some t =>
      if t = .plain ']' ∧ !acc.isEmpty then return acc.reverse
      let item ← member t
      if ← accept '-' then
        match ← take with
        | none => failAt .unterminatedSet (some start)
        | some t' =>
          if t' = .plain ']' then return (.single '-'.toNat :: item :: acc).reverse
          let item' ← member t'
          members start fuel ((← range t t' item item') :: acc)
      else members start fuel (item :: acc)

/-- Everything behind an opening bracket. -/
def bracketed : Reading Node := do
  let start := (← get).position - 1
  let flags := (← get).flags
  let negated ← accept '^'
  let items ← members start ((← get).ahead.length + 1) []
  return .one (.set (.ofItems flags negated items))

/-! ## Repetitions -/

/-- Counts beyond this are refused. -/
def maxRepeat : Nat := 4294967295

def count (digits : List Char) : Reading Nat := do
  match Decimal.natural digits with
  | .error o => failAt (.oversize o) none
  | .ok n => if maxRepeat ≤ n then failAt .repeatTooLarge none else return n

/-- Least and greatest number of repetitions in braces; without a proper closing brace the opening
one stands for itself, and nothing behind it has been taken. -/
def braces : Reading (Option (Nat × Option Nat)) := do
  let before ← get
  if (← peek) = some (.plain '\x7d') then return none
  let fuel := before.ahead.length
  let lo ← takeWhile Char.isDigit fuel
  let comma ← accept ','
  let hi ← if comma then takeWhile Char.isDigit fuel else pure lo
  if !(← accept '\x7d') then
    set before
    return none
  let least ← if lo.isEmpty then pure 0 else count lo
  if hi.isEmpty then return some (least, none)
  let greatest ← count hi
  if greatest < least then failAt .minOverMax (some before.position)
  return some (least, some greatest)

def greed : Reading Greed := do
  if ← accept '?' then return .lazy
  if ← accept '+' then return .possessive
  return .greedy

/-- Puts a repetition, written at `position`, on the last item. -/
def repeated (items : List Item) (position lo : Nat) (hi : Option Nat) : Reading (List Item) := do
  match items with
  | [] => failAt .nothingToRepeat (some position)
  | item :: rest =>
    if item.kind = .anchor then failAt .nothingToRepeat (some position)
    if item.kind = .repetition then failAt .multipleRepeat (some position)
    return .ofNode ((Node.joined item.nodes).repeated lo hi (← greed)) .repetition :: rest

/-! ## Flags -/

def isFlag (c : Char) : Bool := "iLmsxatu".toList.contains c

def isTypeFlag (c : Char) : Bool := "aLu".toList.contains c

/-- Turns flags on, then others off. -/
def change (f : Flags) (on off : List Char) : Flags :=
  { ignoreCase := (f.ignoreCase || on.contains 'i') && !off.contains 'i'
    multiline := (f.multiline || on.contains 'm') && !off.contains 'm'
    dotAll := (f.dotAll || on.contains 's') && !off.contains 's'
    verbose := (f.verbose || on.contains 'x') && !off.contains 'x'
    template := f.template || on.contains 't'
    ascii := if on.any isTypeFlag then on.contains 'a' else f.ascii }

/-- The letter taken, if it is a flag; otherwise a fault. -/
def flagLetter (what : String) (t : Option Token) : Reading Char := do
  match t with
  | none => fail (.missing what) 0
  | some t =>
    match t with
    | .plain c =>
      if isFlag c then return c
      else fail (if Text.isLetter c then .unknownFlag else .missing what) 1
    | t => fail (.missing what) t.size

/-- What a text must not ask for, and what bytes must not. -/
def forbidden? (binary : Bool) (c : Char) : Option Cause :=
  if binary && c = 'u' then some (.badFlags "cannot use \x27u\x27 flag with a bytes pattern")
  else if !binary && c = 'L' then some (.badFlags "cannot use \x27L\x27 flag with a str pattern")
  else none

/-- Flags to turn on, from the letter `c` on, and the character behind them. -/
def flagsOn : Nat → Char → List Char → Reading (List Char × Char)
  | 0, _, _ => fail (.missing "-, : or )") 0
  | fuel + 1, c, acc => do
    if let some cause := forbidden? (← get).source.isBinary c then fail cause 0
    let acc := acc ++ [c]
    if isTypeFlag c ∧ acc.any (fun d => isTypeFlag d && d != c) then
      fail (.badFlags "flags \x27a\x27, \x27u\x27 and \x27L\x27 are incompatible") 0
    let t ← take
    match t with
    | some (.plain d) =>
      if d = ')' ∨ d = '-' ∨ d = ':' then return (acc, d)
      flagsOn fuel (← flagLetter "-, : or )" t) acc
    | _ => flagsOn fuel (← flagLetter "-, : or )" t) acc

/-- Flags to turn off, from the letter `c` on, up to and with the colon. -/
def flagsOff : Nat → Char → List Char → Reading (List Char)
  | 0, _, _ => fail (.missing ":") 0
  | fuel + 1, c, acc => do
    if isTypeFlag c then
      fail (.badFlags "cannot turn off flags \x27a\x27, \x27u\x27 and \x27L\x27") 0
    let acc := acc ++ [c]
    let t ← take
    if t = some (.plain ':') then return acc
    flagsOff fuel (← flagLetter ":" t) acc

/-- Flags for the whole pattern, or flags to turn on and off in a group. -/
inductive FlagGroup where
  | global (on : List Char)
  | scoped (on off : List Char)

def flagGroup (c : Char) : Reading FlagGroup := do
  let fuel := (← get).ahead.length + 1
  let (on, stop) ← if c = '-' then pure ([], '-') else flagsOn fuel c []
  if stop = ')' then return .global on
  if on.contains 't' then fail (.badFlags "cannot turn on global flag") 1
  let off ←
    if stop = '-' then
      let c ← flagLetter "flag" (← take)
      flagsOff fuel c []
    else pure []
  if off.contains 't' then fail (.badFlags "cannot turn off global flag") 1
  if on.any off.contains then fail (.badFlags "flag turned on and off") 1
  return .scoped on off

/-! ## Groups -/

/-- Begins a group and gives its number. -/
def openGroup (name : Option String) : Reading Nat := do
  let s ← get
  let index := s.groups + 1
  match name with
  | none => set { s with groups := index }
  | some name =>
    match s.names.lookup name with
    | some old => fail (.redefined name index old) (name.length + 1)
    | none => set { s with groups := index, names := s.names ++ [(name, index)] }
  return index

def widthOf (node : Node) : Reading Width := do
  let s ← get
  return node.width fun index => (s.closed.lookup index).getD (.exact 0)

def closeGroup (index : Nat) (node : Node) : Reading Unit := do
  let width ← widthOf node
  modify fun s => { s with closed := (index, width) :: s.closed }

/-- The closing parenthesis of the group that began at `start`. -/
def close (start : Nat) : Reading Unit := do
  if !(← accept ')') then failAt .unterminatedGroup (some start)

def groupName (closing : Char) : Reading String := do
  let name ← name closing "group name"
  if !isName name then fail (.badGroupName name) (name.length + 1)
  return name

/-- The group that a condition speaks of. -/
def condition : Reading Nat := do
  let name ← name ')' "group name"
  let back := name.length + 1
  let index ←
    if isName name then
      match (← get).names.lookup name with
      | none => fail (.unknownGroupName name) back
      | some index => pure index
    else match groupNumber? name with
      | none => fail (.badGroupName name) back
      | some index => do
        if index = 0 then fail .zeroGroup back
        let place := (← get).position - back
        modify fun s =>
          if (s.conditions.lookup index).isSome then s
          else { s with conditions := s.conditions ++ [(index, place)] }
        pure index
  Escape.checkLookbehind index
  return index

/-- Skips to the end of a comment. -/
def comment (start : Nat) : Nat → Reading Unit
  | 0 => failAt .unterminatedComment (some start)
  | fuel + 1 => do
    match ← peek with
    | none => fail .unterminatedComment ((← get).position - start)
    | some t =>
      let _ ← take
      if t = .plain ')' then return () else comment start fuel

/-- Skips a comment that ends with the line. -/
def lineComment : Nat → Reading Unit
  | 0 => return ()
  | fuel + 1 => do
    match ← take with
    | none => return ()
    | some t => if t = .plain '\n' then return () else lineComment fuel

def isVerboseSpace (c : Char) : Bool := " \t\n\r\x0b\x0c".toList.contains c

/-! ## Sequences -/

/-- The items of a sequence, given the last one first, as one list of trees. -/
def flattened (items : List Item) : List Node := items.reverse.flatMap Item.nodes

/-- A look in one direction; that nothing must not follow holds nowhere. -/
def look (positive : Bool) (nodes : List Node) (tree : Node → Node) : Node :=
  if !positive ∧ nodes.isEmpty then .fail else tree (Node.joined nodes)

def lineStart (flags : Flags) : Anchor := if flags.multiline then .lineStart else .textStart

def lineEnd (flags : Flags) : Anchor := if flags.multiline then .lineEnd else .lastLineEnd

mutual

/-- Alternatives, up to a closing parenthesis or the end, as one sequence. -/
def alternatives : Nat → Bool → Reading (List Node)
  | 0, _ => fail .unexpectedEnd 0
  | fuel + 1, top => do
    let first ← sequence fuel top []
    let others ← otherAlternatives fuel
    return Node.alternatives (← get).flags first others

/-- Alternatives behind bars. -/
def otherAlternatives : Nat → Reading (List (List Node))
  | 0 => fail .unexpectedEnd 0
  | fuel + 1 => do
    if ← accept '|' then
      let first ← sequence fuel false []
      return first :: (← otherAlternatives fuel)
    else return []

/-- Items, up to a bar, a closing parenthesis or the end; `first` tells that nothing precedes. -/
def sequence : Nat → Bool → List Item → Reading (List Node)
  | 0, _, _ => fail .unexpectedEnd 0
  | fuel + 1, first, items => do
    match ← peek with
    | none | some (.plain '|') | some (.plain ')') => return flattened items
    | some t =>
      let position := (← get).position
      let _ ← take
      let flags := (← get).flags
      match t with
      | .dangling => fail .danglingEscape 0
      | .escaped c =>
        let node ← Escape.inPattern c
        let kind := match node with | .anchor _ => ItemKind.anchor | _ => .other
        sequence fuel first (.ofNode node kind :: items)
      | .plain c =>
        if flags.verbose ∧ isVerboseSpace c then sequence fuel first items
        else if flags.verbose ∧ c = '#' then
          lineComment ((← get).ahead.length + 1)
          sequence fuel first items
        else match c with
        | '[' => sequence fuel first (.ofNode (← bracketed) :: items)
        | '.' => sequence fuel first (.ofNode (.one (.any flags.dotAll)) :: items)
        | '^' => sequence fuel first (.ofNode (.anchor (lineStart flags)) .anchor :: items)
        | '$' => sequence fuel first (.ofNode (.anchor (lineEnd flags)) .anchor :: items)
        | '?' => sequence fuel first (← repeated items position 0 (some 1))
        | '*' => sequence fuel first (← repeated items position 0 none)
        | '+' => sequence fuel first (← repeated items position 1 none)
        | '\x7b' =>
          match ← braces with
          | some (lo, hi) => sequence fuel first (← repeated items position lo hi)
          | none => sequence fuel first (.ofNode (Escape.itself flags c) :: items)
        | '(' =>
          match ← group fuel (first && items.isEmpty) position with
          | some nodes => sequence fuel first ({ nodes } :: items)
          | none => sequence fuel first items
        | c => sequence fuel first (.ofNode (Escape.itself flags c) :: items)

/-- Everything behind an opening parenthesis at `start`; comments and flags for the whole pattern
are no items. -/
def group : Nat → Bool → Nat → Reading (Option (List Node))
  | 0, _, _ => fail .unexpectedEnd 0
  | fuel + 1, first, start => do
    let flags := (← get).flags
    if !(← accept '?') then
      return some [← captured fuel start none]
    match ← take with
    | none => fail .unexpectedEnd 0
    | some (.plain 'P') =>
      if ← accept '<' then
        let name ← groupName '>'
        return some [← captured fuel start (some name)]
      else if ← accept '=' then
        let name ← groupName ')'
        match (← get).names.lookup name with
        | none => fail (.unknownGroupName name) (name.length + 1)
        | some index => return some [← Escape.reference index (name.length + 1)]
      else
        match ← take with
        | none => fail .unexpectedEnd 0
        | some t => fail (.unknownExtension ("P" ++ t.text)) (t.size + 2)
    | some (.plain ':') => return some (← plainGroup fuel start)
    | some (.plain '#') =>
      comment start ((← get).ahead.length + 1)
      return none
    | some (.plain '=') => return some [look true (← plainGroup fuel start) (.ahead true)]
    | some (.plain '!') => return some [look false (← plainGroup fuel start) (.ahead false)]
    | some (.plain '<') =>
      match ← take with
      | none => fail .unexpectedEnd 0
      | some t =>
        if t = .plain '=' ∨ t = .plain '!' then
          let outer := (← get).lookbehind
          modify fun s => { s with lookbehind := some (outer.getD s.groups) }
          let body ← alternatives fuel false
          modify fun s => { s with lookbehind := outer }
          close start
          let width ← widthOf (Node.joined body)
          let positive := t = .plain '='
          return some [look positive body (.behind positive width)]
        else fail (.unknownExtension ("<" ++ t.text)) (t.size + 2)
    | some (.plain '(') =>
      let index ← condition
      let yes ← sequence fuel false []
      let no ←
        if ← accept '|' then
          let no ← sequence fuel false []
          if (← peek) = some (.plain '|') then fail .tooManyBranches 0
          pure no
        else pure []
      close start
      return some [.ifGroup index (Node.joined yes) (Node.joined no)]
    | some (.plain '>') => return some [.atomic (Node.joined (← plainGroup fuel start))]
    | some t =>
      match t with
      | .plain c =>
        if isFlag c ∨ c = '-' then
          match ← flagGroup c with
          | .global on =>
            if !first then failAt .lateFlags (some start)
            modify fun s =>
              { s with flags := change s.flags on [], letters := s.letters ++ on }
            return none
          | .scoped on off =>
            modify fun s => { s with flags := change s.flags on off }
            let body ← alternatives fuel false
            close start
            modify fun s => { s with flags }
            return some [.flagged (Node.joined body)]
        else fail (.unknownExtension (String.singleton c)) 2
      | t => fail (.unknownExtension t.text) (t.size + 1)

/-- The body of a group that captures nothing, and its closing parenthesis. -/
def plainGroup : Nat → Nat → Reading (List Node)
  | 0, _ => fail .unexpectedEnd 0
  | fuel + 1, start => do
    let body ← alternatives fuel false
    close start
    return body

/-- The body of a group with a number, and its closing parenthesis. -/
def captured : Nat → Nat → Option String → Reading Node
  | 0, _, _ => fail .unexpectedEnd 0
  | fuel + 1, start, name => do
    let index ← openGroup name
    let body := Node.joined (← alternatives fuel false)
    close start
    closeGroup index body
    return .group index body

end

/-- Flags in several groups for the whole pattern must not say both what categories know. -/
def checkLetters (letters : List Char) : Reading Unit := do
  let (other, name) := if (← get).source.isBinary then ('L', "LOCALE") else ('u', "UNICODE")
  if letters.contains 'a' && letters.contains other then failAt (.clashingFlags name) none

/-- Conditions may speak of groups that come later, but not of groups that never come. -/
def checkConditions (groups : Nat) : List (Nat × Nat) → Reading Unit
  | [] => return ()
  | (index, place) :: rest =>
    if groups < index then failAt (.invalidGroup index) (some place)
    else checkConditions groups rest

/-! ## Trees that match nothing sensible -/

/-- The name of a repetition in faults. -/
def operator : Greed → String
  | .greedy => "MAX_REPEAT"
  | .lazy => "MIN_REPEAT"
  | .possessive => "POSSESSIVE_REPEAT"

/-- What is wrong with a tree, first of all from left to right: a repetition in a template, or a
lookbehind whose width is not fixed. -/
def unfit? (template : Bool) : Node → Option Cause
  | .empty | .fail | .one _ | .anchor _ | .backref _ _ _ => none
  | .seq a b | .alt a b | .ifGroup _ a b => (unfit? template a).or (unfit? template b)
  | .series _ _ greed _ => if template then some (.repetitionInTemplate (operator greed)) else none
  | .loop _ _ greed body =>
    if template then some (.repetitionInTemplate (operator greed)) else unfit? template body
  | .group _ body | .flagged body | .ahead _ body | .atomic body => unfit? template body
  | .behind _ width body =>
    if width.isFixed then unfit? template body else some .variableLookbehind

def pattern (fuel : Nat) : Reading Compiled := do
  Reading.look
  let node := Node.joined (← alternatives fuel true)
  checkLetters (← get).letters
  if (← peek).isSome then fail .unbalanced 0
  let s ← get
  checkConditions s.groups s.conditions
  match unfit? s.flags.template node with
  | some cause => failAt cause none
  | none =>
    return { node, groups := s.groups, names := s.names, least := (← widthOf node).lo }

end Findings.Pattern.Grammar

namespace Findings.Pattern

/-- Reads a pattern. -/
def compile (source : Source) : Except Fault Compiled :=
  let ahead := Token.split source.chars
  (Grammar.pattern (4 * ahead.length + 4)).run' { source, ahead }

end Findings.Pattern
