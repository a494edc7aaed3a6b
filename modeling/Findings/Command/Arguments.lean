import Findings.Text.Likeness
import Findings.Text.Quoted
/-!
Arguments of a command: options, which begin with a dash, and what is left. A value follows its
option or is attached to it; options of one letter may share a dash. Two dashes alone end the
options. For a name that is not known the message tells the known names that are like it.
-/

namespace Findings.Command

structure Flag where
  /-- The long name, with two dashes. -/
  name : String
  letter : Option Char := none
  takesValue : Bool := false
  deriving DecidableEq, Repr

/-- Why arguments make no sense. -/
inductive UsageFault where
  | unknownFlag (name : String) (similar : List String := [])
  | missingValue (name : String)
  | needlessValue (name : String)
  | missingCommand
  | unknownCommand (name : String) (similar : List String := [])
  | missingDocument
  | extra (first : String) (more : List String)
  /-- A value that is of no use, under the name by which it was asked for. -/
  | badValue (name : String) (why : String)
  deriving DecidableEq, Repr

/-- What might have been meant. -/
def suggestion (names : List String) : String :=
  match names.mergeSort.map Text.quoted with
  | [] => ""
  | [name] => " Did you mean " ++ name ++ "?"
  | names => " (Did you mean one of: " ++ String.intercalate ", " names ++ "?)"

def UsageFault.message : UsageFault → String
  | unknownFlag name similar => "No such option " ++ Text.quoted name ++ "." ++ suggestion similar
  | missingValue name => "Option " ++ Text.quoted name ++ " requires an argument."
  | needlessValue name => "Option " ++ Text.quoted name ++ " does not take a value."
  | missingCommand => "Missing command."
  | unknownCommand name similar =>
    "No such command " ++ Text.quoted name ++ "." ++ suggestion similar
  | missingDocument => "Missing argument \x27DOCUMENT\x27."
  | extra first more =>
    "Got unexpected extra argument" ++ (if more.isEmpty then "" else "s") ++ " (" ++
      String.intercalate " " (first :: more) ++ ")"
  | badValue name why => "Invalid value for " ++ name ++ ": " ++ why

/-- An option that was given, by its long name; without a value it is empty. -/
structure Given where
  name : String
  value : String := ""
  deriving DecidableEq, Repr

structure Arguments where
  given : List Given := []
  operands : List String := []
  deriving DecidableEq, Repr

namespace Arguments

/-- The last value of an option. -/
def value? (a : Arguments) (name : String) : Option String :=
  (a.given.reverse.find? fun g => g.name = name).map (·.value)

def has (a : Arguments) (name : String) : Bool := (a.value? name).isSome

/-! ## Reading -/

/-- What one argument with a dash comes to: options, and the name of one more whose value is the
next argument, both as called by and by its long name. -/
structure Dashed where
  given : List Given := []
  awaited : Option (String × String) := none
  deriving DecidableEq, Repr

def readLong (f : Flag) (attached : Option (List Char)) : Except UsageFault Dashed :=
  match f.takesValue, attached with
  | true, some v => .ok { given := [⟨f.name, String.ofList v⟩] }
  | true, none => .ok { awaited := some (f.name, f.name) }
  | false, some _ => .error (.needlessValue f.name)
  | false, none => .ok { given := [{ name := f.name }] }

/-- Letters behind one dash. -/
def readLetters (flags : List Flag) : List Char → Except UsageFault Dashed
  | [] => .ok {}
  | c :: cs =>
    let called := String.ofList ['-', c]
    match flags.find? fun f => f.letter == some c with
    | none => .error (.unknownFlag called)
    | some f =>
      if f.takesValue then
        if cs.isEmpty then .ok { awaited := some (called, f.name) }
        else .ok { given := [⟨f.name, String.ofList cs⟩] }
      else (readLetters flags cs).map fun d => { d with given := { name := f.name } :: d.given }

/-- An argument that begins with a dash. -/
def readDashed (flags : List Flag) (arg : String) : Except UsageFault Dashed :=
  let cs := arg.toList
  let name := cs.takeWhile (· ≠ '=')
  let attached := match cs.dropWhile (· ≠ '=') with
    | [] => none
    | _ :: v => some v
  match flags.find? fun f => f.name.toList == name with
  | some f => readLong f attached
  | none =>
    if arg.startsWith "--" then
      let name := String.ofList name
      .error (.unknownFlag name (Text.Likeness.closest name (flags.map (·.name))))
    else readLetters flags cs.tail

def isDashed (arg : String) : Bool := arg.startsWith "-" && arg ≠ "-"

/-- Reads arguments, the first of which may be the value of an option. Unless options may stand
behind operands, the first operand ends them. -/
def readFrom (flags : List Flag) (mixed : Bool) :
    Option (String × String) → List String → Except UsageFault Arguments
  | none, [] => .ok {}
  | some (called, _), [] => .error (.missingValue called)
  | some (_, name), arg :: rest =>
    (readFrom flags mixed none rest).map fun a => { a with given := ⟨name, arg⟩ :: a.given }
  | none, arg :: rest =>
    if arg = "--" then .ok { operands := rest }
    else if isDashed arg then
      match readDashed flags arg with
      | .error fault => .error fault
      | .ok d =>
        (readFrom flags mixed d.awaited rest).map fun a => { a with given := d.given ++ a.given }
    else if mixed then
      (readFrom flags mixed none rest).map fun a => { a with operands := arg :: a.operands }
    else .ok { operands := arg :: rest }

def read (flags : List Flag) (mixed : Bool) (args : List String) : Except UsageFault Arguments :=
  readFrom flags mixed none args

end Arguments

end Findings.Command
