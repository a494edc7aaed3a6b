import Findings.Command.Arguments
import Findings.Command.Runtime
import Findings.Console.Table
import Findings.Yaml.Load
/-!
What the program rests on as a rule: command lines by their arguments, a wide console, YAML, and a
stack for about a thousand levels.
-/

namespace Findings

/-- How deep the parentheses of a pattern nest, at most; those that stand for themselves count. -/
def Pattern.Source.nesting (source : Source) : Nat :=
  let step (depths : Nat × Nat) (c : Char) :=
    if c = '(' then (depths.1 + 1, max depths.2 (depths.1 + 1))
    else if c = ')' then (depths.1 - 1, depths.2)
    else depths
  (source.chars.foldl step (0, 0)).2

def RuleFile.Reader.standard : Reader where
  load := Yaml.load
  shown := 990
  isTooDeep source := 490 < source.nesting

def Json.Depths.standard : Depths := { read := 990, written := 989 }

namespace Command

/-! ## What is said without a run -/

def programName : String := "defectlink"

def version : String := programName ++ ", version 0.1.0\n"

def help : String :=
  "Usage: " ++ programName ++ " [OPTIONS] COMMAND [ARGS]...\n\n" ++
    "Options:\n" ++
    "  --path-filters FILE  YAML file with extra path normalization rules.\n" ++
    "  -s, --silent         Do not report malformed records.\n" ++
    "  -v, --verbose        Enable verbose output.\n" ++
    "  --version            Show the version and exit.\n" ++
    "  --help               Show this message and exit.\n\n" ++
    "Commands:\n" ++
    "  parse DOCUMENT  Decode a defect report and list its defects.\n" ++
    "  link DOCUMENT   Match queries against the defects of a report.\n"

/-- Wrong usage has an exit code of its own. -/
def Outcome.ofUsage (fault : UsageFault) : Outcome :=
  { exitCode := 2, stderr := "Error: " ++ fault.message ++ "\n" }

/-! ## Flags -/

namespace Subcommand

def all : List Subcommand := [parse, link]

def name : Subcommand → String
  | parse => "parse"
  | link => "link"

def ofName? (name : String) : Option Subcommand := all.find? (·.name = name)

def helpFlag : Flag := { name := "--help" }

def flags : Subcommand → List Flag
  | parse => [helpFlag]
  | link =>
    [{ name := "--queries", letter := some 'q', takesValue := true },
      { name := "--defect-url", takesValue := true },
      { name := "--checker-url", takesValue := true }, helpFlag]

end Subcommand

def programFlags : List Flag :=
  [{ name := "--path-filters", takesValue := true }, { name := "--silent", letter := some 's' },
    { name := "--verbose", letter := some 'v' }, { name := "--version" }, Subcommand.helpFlag]

/-! ## Arguments -/

variable {m : Type → Type} [Monad m]

def refuse {α : Type} (fault : UsageFault) : Running m α := throw (.ofUsage fault)

/-- The first option that only tells something ends the run. -/
def answerQuestions (a : Arguments) : Running m Unit :=
  match a.given.find? fun g => g.name = "--help" || g.name = "--version" with
  | some g => throw { stdout := if g.name = "--version" then version else help }
  | none => return

def readArguments (flags : List Flag) (mixed : Bool) (args : List String) : Running m Arguments :=
  match Arguments.read flags mixed args with
  | .ok a => return a
  | .error fault => refuse fault

/-- The file that was named for path rules has to be there. -/
def checkRuleFile (host : Host m) (path : String) : Running m Unit := do
  let bad := fun (what : String) =>
    UsageFault.badValue "\x27--path-filters\x27" ("File " ++ Text.quoted path ++ what)
  match ← host.openFile path with
  | .ok _ => return
  | .error .embeddedNul => throw (.ofEscape .embeddedNul)
  | .error .isDirectory => refuse (bad " is a directory.")
  | .error _ => refuse (bad " does not exist.")

def readProgram (host : Host m) (args : List String) : Running m Arguments := do
  let a ← readArguments programFlags false args
  answerQuestions a
  if let some path := a.value? "--path-filters" then checkRuleFile host path
  return a

def optionsOf (a : Arguments) : Options :=
  { ruleFile := a.value? "--path-filters"
    silent := a.has "--silent"
    verbose := a.has "--verbose" }

/-- A name that looks like an option is read as one before it is refused. -/
def refuseCommand {α : Type} (host : Host m) (name : String) (operands : List String) :
    Running m α := do
  if name.startsWith "-" then let _ ← readProgram host operands
  refuse (.unknownCommand name (Text.Likeness.closest name (Subcommand.all.map (·.name))))

/-- The options of the program, and its command. -/
def readWords (host : Host m) (args : List String) :
    Running m (Options × Subcommand × List String) := do
  if args.isEmpty then throw { exitCode := 2, stderr := help }
  let a ← readProgram host args
  match a.operands with
  | [] => refuse .missingCommand
  | name :: words =>
    match Subcommand.ofName? name with
    | none => refuseCommand host name a.operands
    | some command => return (optionsOf a, command, words)

/-- Whether notices of all severities are wanted. -/
def isVerbose (args : List String) : Bool :=
  match Arguments.read programFlags false args with
  | .ok a => a.has "--verbose"
  | .error _ => false

/-- The one operand of a command. -/
def documentOf (a : Arguments) : Running m String :=
  match a.operands with
  | [] => refuse .missingDocument
  | [path] => return path
  | _ :: first :: more => refuse (.extra first more)

def readParse (words : List String) : Running m String := do
  let a ← readArguments Subcommand.parse.flags true words
  answerQuestions a
  documentOf a

/-- The file of queries, if one is named, is opened before anything else is looked at. -/
def openQueries (host : Host m) (a : Arguments) : Running m QueryInput := do
  match a.value? "--queries" with
  | none | some "-" => return { name := "<stdin>" }
  | some path =>
    match ← host.openFile path with
    | .ok bytes => return { name := path, bytes := some bytes }
    | .error .embeddedNul => throw (.ofEscape .embeddedNul)
    | .error fault =>
      refuse (.badValue "\x27--queries\x27 / \x27-q\x27"
        ("\x27" ++ path ++ "\x27: " ++ fault.message))

def addressesOf (a : Arguments) : Addresses :=
  { defect := (a.value? "--defect-url").getD "", checker := (a.value? "--checker-url").getD "" }

def readLink (host : Host m) (words : List String) : Running m LinkOptions := do
  let a ← readArguments Subcommand.link.flags true words
  answerQuestions a
  let queries ← openQueries host a
  let document ← documentOf a
  return { document, queries, addresses := addressesOf a }

def CommandLine.standard (host : Host m) : CommandLine m where
  program := readWords host
  parse := readParse
  link := readLink host
  refuse name why := .ofUsage (.badValue name why)

def Runtime.standard (host : Host m) : Runtime m where
  commandLine := .standard host
  console := .standard
  ruleFiles := .standard
  depths := .standard

end Command

end Findings
