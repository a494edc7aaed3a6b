import Findings.Command
import Findings.Command.Standard
import Findings.Proofs.Report.Whole
/-!
From the words of a command line to the command proper. What comes before is the same for both
commands: options of the program, settings, path rules, and the document.

* `Asks`, `Finds`, `Brings`: what a command line asks for, the path rules it leads to, and the text
  of its queries;
* `runProgram_of_words`, `runProgram_of_asks`: then the rules are read, and it is the command that
  runs;
* `openReport_of_loadable`, `openReport_of_unloadable`: the document, in silence or not;
* `asks_listing`, `asks_linking`: the usual command lines.
-/

namespace Findings

/-! ## Hosts -/

namespace Host

variable (host : Host Id)

/-- The bytes under a path. -/
def file (path : String) : Except OpenFault (List UInt8) := host.openFile path

def settings : Except Settings.Fault Settings := Settings.load host

/-- The document under a path, if reports are not to be silent. -/
def document (path : String) : Except Document.Unreadable Document := Document.fetch host path false

/-- The host with another answer to whether reports are to be silent. -/
def hushed (word : Option String) : Host Id :=
  { host with environment := fun name =>
      if name = "DEFECTLINK_SILENT" then word else host.environment name }

variable (word : Option String)

@[simp] theorem openFile_hushed : (host.hushed word).openFile = host.openFile := rfl

theorem environment_hushed (name : String) : (host.hushed word).environment name =
    if name = "DEFECTLINK_SILENT" then word else host.environment name := rfl

theorem settings_hushed : (host.hushed word).settings =
    host.settings.map fun s => { s with silent := Settings.isYes (word.getD "") } := by
  simp only [settings, Settings.load, bind, pure, openFile_hushed, environment_hushed,
    String.reduceEq, if_false, if_true]
  split
  · rfl
  · split
    · split
      · rfl
      · split <;> rfl
    · rfl

theorem ofBytes_eq (name : String) (silent : Bool) (bytes : Except OpenFault (List UInt8)) :
    Document.ofBytes name silent bytes =
      (Document.ofBytes name false bytes).map fun d => { d with silent } := by
  unfold Document.ofBytes
  split
  · rfl
  · rfl
  · split <;> rfl

/-- A document is the same in silence, but for the silence. -/
theorem fetch_eq (path : String) (silent : Bool) :
    Document.fetch host path silent = (host.document path).map fun d => { d with silent } := by
  unfold document Document.fetch
  split
  · exact ofBytes_eq path silent _
  · exact ofBytes_eq path silent _

theorem hasError_of_document {host : Host Id} {d : Document} {path : String}
    (fetched : host.document path = .ok d) : d.hasError = false := by
  have unmarked (bytes : Except OpenFault (List UInt8))
      (read : Document.ofBytes path false bytes = .ok d) : d.hasError = false := by
    unfold Document.ofBytes at read
    split at read
    · cases read
    · cases read
    · split at read
      · rw [← Except.ok.inj read]
      · cases read
  unfold document Document.fetch at fetched
  split at fetched
  · exact unmarked _ fetched
  · exact unmarked _ fetched

end Host

namespace Command

variable {runtime : Runtime Id} {host : Host Id} {args words : List String} {options : Options}
  {command : Subcommand} {ruleFile : Option String} {rules : PathRules} {path : String}

/-! ## Command lines -/

/-- What a command is to do. -/
inductive Task where
  | listing (document : String)
  | linking (options : LinkOptions)

def Task.document : Task → String
  | listing path => path
  | linking options => options.document

/-- By the words of a command line, with these options of the program, a command has this to do. -/
inductive Asks (runtime : Runtime Id) (args : List String) (options : Options) : Task → Prop where
  | listing {words : List String} {document : String}
      (program : runtime.commandLine.program args = pure (options, .parse, words))
      (own : runtime.commandLine.parse words = pure document) :
      Asks runtime args options (.listing document)
  | linking {words : List String} {link : LinkOptions}
      (program : runtime.commandLine.program args = pure (options, .link, words))
      (own : runtime.commandLine.link words = pure link) :
      Asks runtime args options (.linking link)

/-- The rules by which the program goes, if this file of rules is named or none is. -/
def Finds (runtime : Runtime Id) (host : Host Id) (ruleFile : Option String) (rules : PathRules) :
    Prop :=
  ∃ settings, host.settings = .ok settings ∧
    pathRulesOf runtime host (ruleFile.map FilePath.ofString <|> settings.ruleFile) = pure rules

/-- The queries of a link are this text. -/
def Brings (host : Host Id) (link : LinkOptions) (text : String) : Prop :=
  textOf (queryBytes host link.document link.queries) = .ok text

theorem Finds.hushed (found : Finds runtime host ruleFile rules) (word : Option String) :
    Finds runtime (host.hushed word) ruleFile rules := by
  obtain ⟨settings, loaded, read⟩ := found
  exact ⟨{ settings with silent := Settings.isYes (word.getD "") },
    by rw [Host.settings_hushed, loaded]; rfl, read⟩

theorem settingsOf_of_ok {settings : Settings} (options : Options)
    (loaded : host.settings = .ok settings) :
    settingsOf host options = (pure (settled settings options) : Running Id Settings) := by
  unfold settingsOf
  rw [show Settings.load host = pure (.ok settings) from loaded]
  rfl

/-- The rules are read after the settings, and then the command runs. -/
theorem runProgram_of_words {settings : Settings}
    (program : runtime.commandLine.program args = pure (options, command, words))
    (loaded : host.settings = .ok settings) :
    runProgram runtime host args =
      pathRulesOf runtime host (settled settings options).ruleFile >>= fun rules =>
        runSubcommand runtime host (settled settings options) rules command words := by
  rw [runProgram, program, pure_bind]
  simp only [settingsOf_of_ok options loaded, pure_bind]

/-- The commands proper. -/
def Task.body (runtime : Runtime Id) (host : Host Id) (settings : Settings) (rules : PathRules)
    (task : Task) : Running Id Outcome := do
  let (stream, notices) ← openReport runtime host task.document settings.silent
  match task with
  | .listing path => return list runtime.console path stream notices
  | .linking options =>
    return link runtime.console rules.apply options.addresses options.queries.name
      (queryBytes host options.document options.queries) stream notices

theorem runProgram_of_asks {task : Task} (asks : Asks runtime args options task)
    (found : Finds runtime host options.ruleFile rules) :
    ∃ settings, runProgram runtime host args = task.body runtime host settings rules := by
  obtain ⟨settings, loaded, read⟩ := found
  refine ⟨settled settings options, ?_⟩
  cases asks with
  | listing program own =>
    rw [runProgram_of_words program loaded, settled, read, pure_bind, runSubcommand, runParse, own,
      pure_bind]
    rfl
  | linking program own =>
    rw [runProgram_of_words program loaded, settled, read, pure_bind, runSubcommand, runLink, own,
      pure_bind]
    rfl

theorem run_of_pure {o : Outcome} (h : runProgram runtime host args = pure o) :
    Id.run (run runtime host args) = o := by
  rw [run, h]
  rfl

theorem run_of_throw {o : Outcome} (h : runProgram runtime host args = throw o) :
    Id.run (run runtime host args) = o := by
  rw [run, h]
  rfl

/-! ## Documents -/

open Report (Loadable LegibleText ScanWritable Stream)

theorem lift_bind {α β : Type} (x : Id α) (f : α → Running Id β) :
    (ExceptT.lift x >>= f) = f x := rfl

theorem openReport_of_loadable (host : Host Id) {d : Document}
    (fetched : host.document path = .ok d) (loadable : Loadable runtime.depths d)
    (legible : LegibleText runtime.depths d Cleanup.standard)
    (writable : ScanWritable runtime.depths d) (silent : Bool) :
    ∃ s notices, openReport runtime host path silent = pure (s, notices) ∧
      s.Fresh runtime.depths d Cleanup.standard := by
  have legible : LegibleText runtime.depths { d with silent } Cleanup.standard :=
    ⟨legible.numbers, legible.records⟩
  have unmarked : d.hasError = false := Host.hasError_of_document fetched
  obtain ⟨s, notices, opened, live, -⟩ := legible.opened writable
  have fresh := legible.fresh unmarked opened (live.mpr loadable)
  -- Freshness is about the text, which does not depend on silence.
  refine ⟨s, notices, ?_, fresh.live, fresh.uncounted, fresh.scan, fresh.outcomes⟩
  unfold openReport
  rw [Host.fetch_eq, fetched, lift_bind]
  dsimp only [Except.map]
  rw [opened]
  dsimp only
  rw [fresh.live]

theorem openReport_of_unloadable (host : Host Id)
    (bad : ∀ d, host.document path = .ok d → ¬Loadable runtime.depths d) (silent : Bool) :
    ∃ o, openReport runtime host path silent = throw o ∧ o.exitCode = 1 := by
  have failed (markup : String) (notices : List Notice) :
      (failing runtime markup notices).exitCode = 1 := by
    unfold failing
    dsimp only [Outcome.behind]
    unfold Outcome.printing
    split <;> rfl
  unfold openReport
  rw [Host.fetch_eq, lift_bind]
  cases fetched : host.document path with
  | error fault =>
    cases fault with
    | unnameable => exact ⟨_, rfl, rfl⟩
    | closed name => exact ⟨_, rfl, failed _ _⟩
  | ok d =>
    dsimp only [Except.map]
    split
    · exact ⟨_, rfl, rfl⟩
    · next s notices opened =>
      split
      · next live => exact absurd (Report.loadable_of_live opened live) (bad d fetched)
      · exact ⟨_, rfl, failed _ _⟩

/-! ## Usual command lines -/

/-- No word asks for help or for the version. -/
def Earnest (a : Arguments) : Prop := ∀ g ∈ a.given, g.name ≠ "--help" ∧ g.name ≠ "--version"

instance (a : Arguments) : Decidable (Earnest a) :=
  inferInstanceAs (Decidable (∀ g ∈ a.given, _))

/-- The words are options of the program, none of which is a question, and a command with words of
its own; the file of rules is there if one is named. -/
structure Programs (host : Host Id) (args : List String) (a : Arguments) (command : Subcommand)
    (words : List String) : Prop where
  read : Arguments.read programFlags false args = .ok a
  earnest : Earnest a
  operands : a.operands = command.name :: words
  there : ∀ path, a.value? "--path-filters" = some path → ∃ bytes, host.file path = .ok bytes

variable {a own : Arguments}

theorem answerQuestions_of_earnest (earnest : Earnest a) :
    (answerQuestions a : Running Id Unit) = pure () := by
  have none : a.given.find? (fun g => g.name = "--help" || g.name = "--version") = none := by
    rw [List.find?_eq_none]
    intro g mem
    simp [earnest g mem]
  rw [answerQuestions, none]

theorem checkRuleFile_of_ok {path : String} {bytes : List UInt8}
    (opened : host.file path = .ok bytes) :
    checkRuleFile host path = (pure () : Running Id Unit) := by
  unfold checkRuleFile
  rw [show host.openFile path = pure (.ok bytes) from opened]
  rfl

theorem readArguments_of_ok {flags : List Flag} {mixed : Bool}
    (read : Arguments.read flags mixed args = .ok a) :
    (readArguments flags mixed args : Running Id Arguments) = pure a := by
  rw [readArguments, read]

theorem Programs.readProgram_eq (h : Programs host args a command words) :
    readProgram host args = (pure a : Running Id Arguments) := by
  rw [readProgram, readArguments_of_ok h.read, pure_bind, answerQuestions_of_earnest h.earnest,
    pure_bind]
  split
  · next path named =>
    obtain ⟨bytes, opened⟩ := h.there path named
    rw [checkRuleFile_of_ok opened, pure_bind]
  · rfl

theorem Programs.program_eq (h : Programs host args a command words) :
    (Runtime.standard host).commandLine.program args = pure (optionsOf a, command, words) := by
  have full : args.isEmpty = false := by
    cases args with
    | nil =>
      obtain rfl := Except.ok.inj h.read
      cases h.operands
    | cons => rfl
  have named : Subcommand.ofName? command.name = some command := by cases command <;> rfl
  change readWords host args = _
  rw [readWords]
  simp only [full, Bool.false_eq_true, if_false, h.readProgram_eq, pure_bind, h.operands, named]

theorem documentOf_of_single (operand : own.operands = [path]) :
    (documentOf own : Running Id String) = pure path := by
  rw [documentOf, operand]

theorem asks_listing (program : Programs host args a .parse words)
    (read : Arguments.read Subcommand.parse.flags true words = .ok own) (earnest : Earnest own)
    (operand : own.operands = [path]) :
    Asks (.standard host) args (optionsOf a) (.listing path) := by
  refine .listing program.program_eq ?_
  change readParse words = _
  rw [readParse, readArguments_of_ok read, pure_bind, answerQuestions_of_earnest earnest, pure_bind,
    documentOf_of_single operand]

theorem asks_linking {queries : String} {bytes : List UInt8}
    (program : Programs host args a .link words)
    (read : Arguments.read Subcommand.link.flags true words = .ok own) (earnest : Earnest own)
    (operand : own.operands = [path]) (named : own.value? "--queries" = some queries)
    (other : queries ≠ "-") (opened : host.file queries = .ok bytes) :
    Asks (.standard host) args (optionsOf a) (.linking
      { document := path, queries := { name := queries, bytes := some bytes }
        addresses := addressesOf own }) := by
  have input : openQueries host own =
      (pure { name := queries, bytes := some bytes } : Running Id QueryInput) := by
    unfold openQueries
    rw [named]
    split
    · next none => cases none
    · next dash => exact absurd (Option.some.inj dash) other
    · next path' same =>
      obtain rfl := Option.some.inj same
      rw [show host.openFile queries = pure (.ok bytes) from opened]
      rfl
  refine .linking program.program_eq ?_
  change readLink host words = _
  rw [readLink, readArguments_of_ok read, pure_bind, answerQuestions_of_earnest earnest, pure_bind,
    input, pure_bind, documentOf_of_single operand, pure_bind]

end Command

end Findings
