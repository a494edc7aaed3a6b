import Findings.Command.Listing
import Findings.Command.Pairing
import Findings.Document
/-!
The program: options for all commands, then a command with its own. `parse` lists the defects of a
report, `link` gives them identifiers.

Faults come to light in this order: options of the program, its command, the settings, the file of
path rules, options of the command and its operands, the document.
-/

namespace Findings.Command

variable {m : Type → Type} [Monad m] (runtime : Runtime m) (host : Host m)

/-! ## Path rules -/

def badRuleFile (why : String) : Outcome := runtime.commandLine.refuse "--path-filters" why

/-- Faults that the file can be blamed for are wrong usage. -/
def blame (rules : Except RuleFile.Fault PathRules) : Running m PathRules :=
  match rules with
  | .ok rules => return rules
  | .error fault =>
    if fault.isReported then throw (badRuleFile runtime fault.message)
    else throw (.ofEscape (.ruleFile fault))

/-- The standard rules, and those of a file. -/
def pathRulesOf : Option FilePath → Running m PathRules
  | none => blame runtime (RuleFile.withStandard [])
  | some file => do
    let path := file.toString
    match ← host.openFile path with
    | .error fault => throw (badRuleFile runtime (fault.report path))
    | .ok bytes =>
      match textOf bytes with
      | .error fault => throw (badRuleFile runtime fault.message)
      | .ok text => blame runtime (RuleFile.read runtime.ruleFiles text)

/-- Settings as the options change them. -/
def settled (settings : Settings) (options : Options) : Settings :=
  { settings with
    ruleFile := options.ruleFile.map FilePath.ofString <|> settings.ruleFile
    silent := settings.silent || options.silent
    verbose := options.verbose }

def settingsOf (options : Options) : Running m Settings := do
  match ← ExceptT.lift (Settings.load host) with
  | .error fault => throw (.ofEscape (.settings fault))
  | .ok settings => return settled settings options

/-! ## The commands -/

/-- A run that fails with a message. -/
def failing (markup : String) (notices : List Notice := []) : Outcome :=
  let w := runtime.console
  .behind notices (.printing w.advice { exitCode := 1 } [.message w markup])

/-- Opens a document; one that cannot be read or yields nothing ends the run. -/
def openReport (path : String) (silent : Bool) : Running m (Report.Stream × List Notice) := do
  let escape := runtime.console.escape
  match ← ExceptT.lift (Document.fetch host path silent) with
  | .error .unnameable => throw (.ofEscape .embeddedNul)
  | .error (.closed name) =>
    throw (failing runtime (Console.styled "red" (escape name ++ ": failed to open input file")))
  | .ok document =>
    match Report.Stream.ofDocument runtime.depths document Cleanup.standard with
    | .error fault => throw (.ofEscape (.report fault))
    | .ok (stream, notices) =>
      match stream.fatal with
      | none => return (stream, notices)
      | some fatal =>
        throw (failing runtime (Console.styled "red"
          (escape path ++ ": failed to parse: " ++ escape fatal.message)) notices)

def runParse (settings : Settings) (words : List String) : Running m Outcome := do
  let path ← runtime.commandLine.parse words
  let (stream, notices) ← openReport runtime host path settings.silent
  return list runtime.console path stream notices

/-- The bytes of queries; standard input has none left behind a document from there. -/
def queryBytes (document : String) (queries : QueryInput) : m (List UInt8) :=
  match queries.bytes with
  | some bytes => pure bytes
  | none => if document = Document.inputName then pure [] else host.input

def runLink (settings : Settings) (rules : PathRules) (words : List String) :
    Running m Outcome := do
  let options ← runtime.commandLine.link words
  let (stream, notices) ← openReport runtime host options.document settings.silent
  let bytes ← ExceptT.lift (queryBytes host options.document options.queries)
  return link runtime.console rules.apply options.addresses options.queries.name bytes stream
    notices

def runSubcommand (settings : Settings) (rules : PathRules) (command : Subcommand)
    (words : List String) : Running m Outcome :=
  match command with
  | .parse => runParse runtime host settings words
  | .link => runLink runtime host settings rules words

def runProgram (args : List String) : Running m Outcome := do
  let (options, command, words) ← runtime.commandLine.program args
  let settings ← settingsOf host options
  let rules ← pathRulesOf runtime host settings.ruleFile
  runSubcommand runtime host settings rules command words

/-- Runs the program on its arguments. -/
def run (args : List String) : m Outcome := do
  match ← (runProgram runtime host args).run with
  | .ok outcome => return outcome
  | .error outcome => return outcome

end Findings.Command
