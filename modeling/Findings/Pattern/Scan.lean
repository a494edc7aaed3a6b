import Findings.Pattern.Fault
import Findings.Pattern.Node
import Findings.Text.Digit
import Findings.Text.Identifier
import Findings.Text.Numeral
/-!
The state of reading a pattern or a replacement: characters ahead, in which a backslash and the
character behind it go together, and the groups seen so far.
-/

namespace Findings.Pattern

inductive Token where
  | plain (c : Char)
  | escaped (c : Char)
  /-- A backslash at the very end. -/
  | dangling
  deriving DecidableEq, Repr

namespace Token

def chars : Token → List Char
  | plain c => [c]
  | escaped c => ['\\', c]
  | dangling => ['\\']

def text (t : Token) : String := String.ofList t.chars

def size (t : Token) : Nat := t.chars.length

/-- One character makes a token, or two after a backslash. -/
def split : List Char → List Token
  | [] => []
  | ['\\'] => [dangling]
  | '\\' :: c :: rest => escaped c :: split rest
  | c :: rest => plain c :: split rest

end Token

structure Scan where
  source : Source
  ahead : List Token
  /-- Where the token ahead begins. -/
  position : Nat := 0
  flags : Flags := {}
  /-- The letters of all flags that were turned on for the whole pattern. -/
  letters : List Char := []
  /-- How many groups were begun. -/
  groups : Nat := 0
  closed : List (Nat × Width) := []
  names : List (String × Nat) := []
  /-- Inside a lookbehind: the number of groups begun before it. -/
  lookbehind : Option Nat := none
  /-- Groups that conditions speak of by number, with the places where they do. -/
  conditions : List (Nat × Nat) := []

/-- Reading: either a fault, or a result and what is ahead. -/
abbrev Reading (α : Type) := StateT Scan (Except Fault) α

namespace Reading

def failAt {α : Type} (cause : Cause) (position : Option Nat) : Reading α := do
  throw ⟨cause, position, (← get).source⟩

/-- Fails so many characters before the token ahead. -/
def fail {α : Type} (cause : Cause) (back : Nat) : Reading α := do
  failAt cause (some ((← get).position - back))

/-- A backslash with nothing behind it is a fault as soon as it comes into view. -/
def look : Reading Unit := do
  match (← get).ahead with
  | .dangling :: _ => fail .danglingEscape 0
  | _ => pure ()

def peek : Reading (Option Token) := do return (← get).ahead.head?

/-- Takes the token ahead. -/
def take : Reading (Option Token) := do
  let s ← get
  match s.ahead with
  | [] => return none
  | t :: rest =>
    set { s with ahead := rest, position := s.position + t.size }
    look
    return some t

/-- Takes the token ahead if it is this character. -/
def accept (c : Char) : Reading Bool := do
  if (← peek) = some (.plain c) then
    let _ ← take
    return true
  else return false

/-- Takes plain characters with a property, at most so many. -/
def takeWhile (p : Char → Bool) : Nat → Reading (List Char)
  | 0 => return []
  | n + 1 => do
    match ← peek with
    | some (.plain c) =>
      if p c then
        let _ ← take
        return c :: (← takeWhile p n)
      else return []
    | _ => return []

/-- Takes everything up to a closing character, which is taken too; `what` names it in faults. -/
def takeUntil (closing : Char) (what : String) : Nat → List Char → Reading (List Char)
  | 0, _ => fail (.missing what) 0
  | n + 1, acc => do
    match ← take with
    | none =>
      if acc.isEmpty then fail (.missing what) 0 else fail (.unterminatedName closing) acc.length
    | some t =>
      if t = .plain closing then
        if acc.isEmpty then fail (.missing what) 1 else return acc
      else takeUntil closing what n (acc ++ t.chars)

def name (closing : Char) (what : String) : Reading String := do
  return String.ofList (← takeUntil closing what ((← get).ahead.length + 1) [])

def isName (s : String) : Bool := Text.isIdentifier s.toList

/-- A group given by its number, in any spelling of that number. -/
def groupNumber? (s : String) : Option Nat :=
  match Text.Numeral.signed? (Text.trimMargins s.toList) with
  | some (.ofNat n) => some n
  | _ => none

end Reading

end Findings.Pattern
