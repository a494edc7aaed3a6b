import Findings.Yaml.Tag
import Findings.Yaml.Tokens
/-!
The nodes of a YAML text: scalars, sequences and mappings, each with a tag. Nodes have numbers and
tell what is in them by number, so an alias is one more mention of a node, and a collection may
contain itself.
-/

namespace Findings.Yaml

/-- What a node holds. -/
inductive Content where
  | scalar (text : String)
  | sequence (items : List Nat)
  | mapping (entries : List (Nat × Nat))
  deriving DecidableEq, Repr, Inhabited

structure Node where
  tag : Tag
  content : Content
  deriving DecidableEq, Repr, Inhabited

/-- Nodes by number. -/
abbrev Graph := Array Node

namespace Graph

def node (g : Graph) (n : Nat) : Node := g.getD n default

/-- The graph with another content of a node. -/
def setContent (g : Graph) (n : Nat) (content : Content) : Graph :=
  g.modify n fun node => { node with content }

def setTag (g : Graph) (n : Nat) (tag : Tag) : Graph := g.modify n fun node => { node with tag }

end Graph

/-- Why a text has no nodes. -/
inductive ReadFault where
  /-- The text is not YAML. -/
  | malformed
  /-- The text asks for a character that there is none. -/
  | noCharacter (code : Nat)
  deriving DecidableEq, Repr

namespace NodeReader

structure State where
  tokens : List Token
  graph : Graph := #[]
  /-- What tag handles stand for. -/
  handles : List (String × String) := []
  anchors : List (String × Nat) := []

abbrev Run (α : Type) := StateT State (Except ReadFault) α

def fail {α : Type} : Run α := throw .malformed

def peek : Run Token := do
  match (← get).tokens.headD .streamEnd with
  | .noCharacter code => throw (.noCharacter code)
  | t => return t

def skip : Run Unit := modify fun s => { s with tokens := s.tokens.tail }

/-- Takes the token if it is the next one. -/
def accept (t : Token) : Run Bool := do
  if (← peek) = t then
    skip
    return true
  else return false

def expect (t : Token) : Run Unit := do
  if !(← accept t) then fail

def nextIn (ts : List Token) : Run Bool := do return ts.contains (← peek)

/-- A new node. -/
def add (tag : Tag) (content : Content) : Run Nat := do
  let s ← get
  set { s with graph := s.graph.push { tag, content } }
  return s.graph.size

def fill (n : Nat) (content : Content) : Run Unit :=
  modify fun s => { s with graph := s.graph.setContent n content }

def emptyScalar : Run Nat := add .null (.scalar "")

/-! ## Properties -/

structure Properties where
  anchor : Option String := none
  /-- The tag as a full name; an exclamation mark alone stands for no tag. -/
  tag : Option String := none

def tagName (handle : Option String) (suffix : String) : Run String := do
  match handle with
  | none => return suffix
  | some h =>
    match (← get).handles.lookup h with
    | some text => return text ++ suffix
    | none => fail

/-- An anchor and a tag, in either order. -/
def properties : Run Properties := do
  match ← peek with
  | .anchor name =>
    skip
    match ← peek with
    | .tag handle suffix =>
      skip
      return { anchor := name, tag := ← tagName handle suffix }
    | _ => return { anchor := name }
  | .tag handle suffix =>
    skip
    let behind ← match ← peek with
      | .anchor name => do
        skip
        pure ({ anchor := some name } : Properties)
      | _ => pure {}
    return { behind with tag := ← tagName handle suffix }
  | _ => return {}

def given (p : Properties) (default : Tag) : Tag :=
  match p.tag with
  | none => default
  | some uri => if uri = "!" then default else .ofUri uri

/-- A plain scalar shows its kind by its text, and so does any scalar with an empty tag. -/
def scalarTag (p : Properties) (plain : Bool) (text : String) : Tag :=
  let asPlain := (plain && p.tag.isNone) || p.tag = some "!"
  given p (if asPlain then .ofPlain text else .string)

/-- A new node under its properties; a name may be given once. -/
def start (p : Properties) (tag : Tag) (content : Content) : Run Nat := do
  match p.anchor with
  | none => add tag content
  | some name =>
    if ((← get).anchors.lookup name).isSome then fail
    let n ← add tag content
    modify fun s => { s with anchors := (name, n) :: s.anchors }
    return n

/-- A node without content has to have an anchor or a tag. -/
def emptyNode (p : Properties) : Run Nat := do
  if p.anchor.isNone ∧ p.tag.isNone then fail
  let default := if p.tag.isNone ∨ p.tag = some "!" then .null else .string
  start p (given p default) (.scalar "")

/-- A sequence whose name is known to its items. -/
def sequence (p : Properties) (items : Run (List Nat)) : Run Nat := do
  let n ← start p (given p .sequence) (.sequence [])
  fill n (.sequence (← items))
  return n

/-- A mapping whose name is known to its entries. -/
def mapping (p : Properties) (entries : Run (List (Nat × Nat))) : Run Nat := do
  let n ← start p (given p .mapping) (.mapping [])
  fill n (.mapping (← entries))
  return n

/-! ## Content -/

mutual

/-- A node; `block` tells whether it may be in block style, `indentless` whether it may be a
sequence that is not indented. -/
def node : Nat → Bool → Bool → Run Nat
  | 0, _, _ => fail
  | fuel + 1, block, indentless => do
    match ← peek with
    | .alias name =>
      skip
      match (← get).anchors.lookup name with
      | some n => return n
      | none => fail
    | _ =>
      let p ← properties
      match ← peek with
      | .blockEntry => if indentless then sequence p (indentlessItems fuel) else emptyNode p
      | .scalar text plain =>
        skip
        start p (scalarTag p plain text) (.scalar text)
      | .flowSequenceStart =>
        skip
        sequence p (flowItems fuel true)
      | .flowMappingStart =>
        skip
        mapping p (flowEntries fuel true)
      | .blockSequenceStart =>
        if block then
          skip
          sequence p (blockItems fuel)
        else emptyNode p
      | .blockMappingStart =>
        if block then
          skip
          mapping p (blockEntries fuel)
        else emptyNode p
      | _ => emptyNode p

/-- A node, or nothing if one of the tokens follows. -/
def nodeUnless : Nat → List Token → Bool → Bool → Run Nat
  | 0, _, _, _ => fail
  | fuel + 1, stops, block, indentless => do
    if ← nextIn stops then emptyScalar else node fuel block indentless

def blockItems : Nat → Run (List Nat)
  | 0 => fail
  | fuel + 1 => do
    if ← accept .blockEntry then
      let item ← nodeUnless fuel [.blockEntry, .blockEnd] true false
      return item :: (← blockItems fuel)
    else
      expect .blockEnd
      return []

def indentlessItems : Nat → Run (List Nat)
  | 0 => fail
  | fuel + 1 => do
    if ← accept .blockEntry then
      let item ← nodeUnless fuel [.blockEntry, .key, .value, .blockEnd] true false
      return item :: (← indentlessItems fuel)
    else return []

def blockEntries : Nat → Run (List (Nat × Nat))
  | 0 => fail
  | fuel + 1 => do
    if ← accept .key then
      let stops := [.key, .value, .blockEnd]
      let key ← nodeUnless fuel stops true true
      let value ← if ← accept .value then nodeUnless fuel stops true true else emptyScalar
      return (key, value) :: (← blockEntries fuel)
    else
      expect .blockEnd
      return []

/-- The value behind a key in a flow collection that ends with the given token. -/
def flowValue : Nat → Token → Run Nat
  | 0, _ => fail
  | fuel + 1, closing => do
    if ← accept .value then nodeUnless fuel [.flowEntry, closing] false false else emptyScalar

/-- Items with commas between them; one comma may stand before the closing bracket. -/
def flowItems : Nat → Bool → Run (List Nat)
  | 0, _ => fail
  | fuel + 1, first => do
    if ← accept .flowSequenceEnd then return []
    if !first then expect .flowEntry
    if ← accept .key then
      let pair ← add .mapping (.mapping [])
      let key ← nodeUnless fuel [.value, .flowEntry, .flowSequenceEnd] false false
      let value ← flowValue fuel .flowSequenceEnd
      fill pair (.mapping [(key, value)])
      return pair :: (← flowItems fuel false)
    else if ← accept .flowSequenceEnd then return []
    else
      let item ← node fuel false false
      return item :: (← flowItems fuel false)

def flowEntries : Nat → Bool → Run (List (Nat × Nat))
  | 0, _ => fail
  | fuel + 1, first => do
    if ← accept .flowMappingEnd then return []
    if !first then expect .flowEntry
    if ← accept .key then
      let key ← nodeUnless fuel [.value, .flowEntry, .flowMappingEnd] false false
      let value ← flowValue fuel .flowMappingEnd
      return (key, value) :: (← flowEntries fuel false)
    else if ← accept .flowMappingEnd then return []
    else
      let key ← node fuel false false
      let value ← emptyScalar
      return (key, value) :: (← flowEntries fuel false)

end

/-! ## Documents -/

def defaultHandles : List (String × String) := [("!", "!"), ("!!", Tag.domain)]

/-- Directives in front of a document: at most one version, which has to be 1, and each tag handle
once. -/
def directives : Nat → Bool → List (String × String) → Run (List (String × String))
  | 0, _, _ => fail
  | fuel + 1, versioned, handles => do
    match ← peek with
    | .directive name first second =>
      skip
      if name = "YAML" then
        if versioned ∨ first.toNat? ≠ some 1 then fail
        directives fuel true handles
      else if name = "TAG" then
        if (handles.lookup first).isSome then fail
        directives fuel versioned (handles ++ [(first, second)])
      else directives fuel versioned handles
    | _ => return handles

def isDirective : Token → Bool
  | .directive _ _ _ => true
  | _ => false

def skipMarkers : Nat → Run Unit
  | 0 => return ()
  | n + 1 => do
    if ← accept .documentEnd then skipMarkers n

/-- The only document of a text, none if there is no document. -/
def document (fuel : Nat) : Run (Option Nat) := do
  let first ← peek
  if first = .streamEnd then return none
  let content ←
    if isDirective first ∨ first = .documentStart then do
      let handles ← directives fuel false []
      expect .documentStart
      modify fun s => { s with handles := handles ++ defaultHandles }
      let t ← peek
      if isDirective t ∨ t = .documentStart ∨ t = .documentEnd ∨ t = .streamEnd then
        emptyScalar
      else node fuel true false
    else do
      modify fun s => { s with handles := defaultHandles }
      node fuel true false
  skipMarkers fuel
  expect .streamEnd
  return some content

end NodeReader

/-- The nodes of a text and the number of the outermost one; a text without content has none. -/
def Graph.ofText (s : String) : Except ReadFault (Graph × Option Nat) :=
  match Tokens.ofText s with
  | none => .error .malformed
  | some tokens =>
    match (NodeReader.document (4 * tokens.length + 4)).run { tokens } with
    | .ok (root, state) => .ok (state.graph, root)
    | .error fault => .error fault

end Findings.Yaml
