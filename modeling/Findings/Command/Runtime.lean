import Findings.Command.Outcome
/-!
What the program rests on besides the machine: a library that makes sense of command lines, a
console, a reader of rule files, and a stack of some depth.
-/

namespace Findings.Command

/-- A computation that an outcome may end early. -/
abbrev Running (m : Type → Type) := ExceptT Outcome m

inductive Subcommand where
  | parse
  | link
  deriving DecidableEq, Repr

/-- The options of the program. -/
structure Options where
  ruleFile : Option String := none
  silent : Bool := false
  verbose : Bool := false
  deriving DecidableEq, Repr

/-- What stands in front of identifiers and checkers to make addresses of them. -/
structure Addresses where
  defect : String := ""
  checker : String := ""
  deriving DecidableEq, Repr

/-- Queries and the name of where they come from; without bytes, they come from standard input. -/
structure QueryInput where
  name : String
  bytes : Option (List UInt8) := none
  deriving DecidableEq, Repr

/-- What a link is told. -/
structure LinkOptions where
  document : String
  queries : QueryInput
  addresses : Addresses := {}
  deriving DecidableEq, Repr

/-- What the words of a command line come to. Questions for help and wrong usage end the run, and
so does a file that is named and not there. -/
structure CommandLine (m : Type → Type) where
  /-- The options of the program, its command, and the words that are left for that. -/
  program : List String → Running m (Options × Subcommand × List String)
  /-- The document of a listing. -/
  parse : List String → Running m String
  link : List String → Running m LinkOptions
  /-- Wrong usage: by which name a value was asked for, and what is wrong with it. -/
  refuse : (name why : String) → Outcome

structure Runtime (m : Type → Type) where
  commandLine : CommandLine m
  console : Console.Writer
  ruleFiles : RuleFile.Reader
  depths : Json.Depths

end Findings.Command
