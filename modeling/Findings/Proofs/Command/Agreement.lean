import Findings.Command.Standard
import Findings.FileTree
import Findings.Proofs.Command.Printing
import Findings.Proofs.Command.Running
import Findings.Proofs.Console.Whole
import Findings.Proofs.Linking.Clean
import Findings.Proofs.Linking.Replacements
/-!
The two commands agree on every document that can be shown. One counts the defects of a report, the
other links them; what they tell adds up, and a link succeeds only where a listing does. Silence and
further notices change nothing of this.

* `Listed`, `Told`: what the commands leave behind, with the numbers in what they print;
* `listed_of_gathered`, `linked_of_fresh`, `told_of_linked`: a stream that was just opened, listed
  and linked;
* `failed_of_asks`, `listed_of_asks`, `told_of_asks`: what comes of a command line;
* `commands_agree`: the main statement, for all command lines that ask for the same;
* `tagged_addresses_fail`: a link that fails although nothing is wrong.
-/

namespace Findings

/-! ## Queries -/

namespace Query

theorem flatten_linesOf (cs : List Char) : (linesOf cs).flatten = cs := by
  induction cs with
  | nil => rfl
  | cons c cs ih =>
    rw [linesOf]
    split
    · rw [List.flatten_cons, ih, List.singleton_append]
    · split
      · next none =>
        rw [none] at ih
        rw [← ih]
        rfl
      · next line lines some =>
        rw [some] at ih
        rw [← ih]
        rfl

theorem whole_of_line {line : String} {q : Query} (whole : Text.Whole line)
    (read : query? line = some q) : q.Whole := by
  have field (cs : List Char) (mem : cs ∈ fields line) : Text.Whole (String.ofList cs) := by
    intro c there
    rw [String.toList_ofList] at there
    have kept := Text.subset_of_mem_splitAt _ _ _ mem there
    exact whole c (List.mem_reverse.mp
      (List.dropWhile_subset _ (List.mem_reverse.mp kept)))
  unfold query? ofLine at read
  split at read
  · next q' ok =>
    obtain rfl := Option.some.inj read
    split at ok
    · next id checker file more parts =>
      split at ok
      · obtain ⟨n, -, rfl⟩ := (map_eq_ok_iff _ _ _).mp (Except.ok.inj ok)
        have listed : fields line = id :: checker :: file :: more := parts
        exact ⟨field checker (by simp [listed]), field file (by simp [listed])⟩
      · cases ok
    · cases ok
  · cases read

theorem whole_of_text {text : String} (whole : Text.Whole text) :
    ∀ q ∈ (splitLines text).filterMap query?, q.Whole := by
  intro q mem
  obtain ⟨line, there, read⟩ := List.mem_filterMap.mp mem
  obtain ⟨cs, part, rfl⟩ := List.mem_map.mp there
  refine whole_of_line (fun c mem => whole c ?_) read
  rw [String.toList_ofList] at mem
  rw [← flatten_linesOf text.toList]
  exact List.mem_flatten.mpr ⟨cs, part, mem⟩

end Query

namespace Command

open Console (Writer styled)
open Report (Stream Loadable LegibleText ScanWritable Faultless defectsOf outcomesOf)

variable {w : Writer} {depths : Json.Depths} {d : Document} {s : Stream}

/-! ## What the commands leave behind -/

/-- What a listing leaves behind: its exit code, and the number of defects in what it prints. -/
structure Listed (w : Writer) (document : String) (code total : Nat) (o : Outcome) : Prop where
  exitCode : o.exitCode = code
  handled : o.escape.isNone = true
  stderr : ∃ kind scanProps, o.stderr =
    messages w.advice (Listing.header w document kind scanProps) ++
      (if total = 0 then messages w.advice [.message w (styled "green" "No defects.")] else "") ++
      ("\nTotal defects: " ++ toString total ++ "\n") ++
      (if code = 0 then ""
        else messages w.advice [.message w (styled "red" "Some records could not be decoded")])

/-- What a linking leaves behind: its exit code, and three numbers in what it prints. -/
structure Told (code matched unmatched unclaimed : Nat) (o : Outcome) : Prop where
  exitCode : o.exitCode = code
  handled : o.escape.isNone = true
  stderr : o.stderr = Pairing.summary matched unmatched unclaimed ++ "\n"

/-- The exit code for success or failure. -/
def codeOf (failed : Bool) : Nat := if failed then 1 else 0

@[simp] theorem codeOf_eq_zero_iff (failed : Bool) : codeOf failed = 0 ↔ failed = false := by
  cases failed <;> decide

theorem codeOf_le_one (failed : Bool) : codeOf failed ≤ 1 := by
  cases failed <;> decide

theorem listed_of_gathered (lawful : w.Lawful) (document : String) {ds : List Defect}
    (opening : List Notice) (defects : s.gather.defects = .ok ds)
    (count : s.gather.stream.count = ds.length) (whole : ∀ d ∈ ds, d.Whole) :
    Listed w document (codeOf s.gather.stream.document.hasError) ds.length
      (list w document s opening) := by
  have listing : Listing.ofGathering s.gather = .ok
      { defects := ds, total := ds.length, hasError := s.gather.stream.document.hasError } := by
    rw [Listing.ofGathering, defects, count]
    rfl
  have header := Listing.header_fits lawful document s.kind s.scanProps
  unfold list
  dsimp only
  rw [listing]
  dsimp only
  rw [Outcome.printing_eq _ _ header, Outcome.printing_eq _ _ (Listing.prints_fit lawful whole),
    Listing.messages_prints lawful w.advice whole]
  refine ⟨rfl, rfl, s.kind, s.scanProps, ?_⟩
  have blank : ds.isEmpty = true ↔ ds.length = 0 := by
    rw [List.isEmpty_iff, List.length_eq_zero_iff]
  simp only [Outcome.behind, blank, codeOf_eq_zero_iff, String.append_empty, String.append_assoc]
  cases s.gather.stream.document.hasError <;> rfl

theorem told_of_linked (lawful : w.Lawful) {rules : PathRules} {a : Addresses} {name text : String}
    {bytes : List UInt8} {l : Linking} (opening : List Notice) (fit : a.Fit)
    (read : textOf bytes = .ok text) (whole : Pairing.Whole l)
    (ran : (Linking.run rules.apply s
      (.stream { lines := Query.splitLines text, name })).linking = .ok l) :
    Told (codeOf !l.isClean) l.matched.length l.unmatched.length l.unclaimed.length
      (link w rules.apply a name bytes s opening) := by
  obtain ⟨stdout, printed⟩ :=
    Pairing.printing_prints lawful w.advice { exitCode := Pairing.exitCode l } fit whole
  unfold link
  rw [read]
  dsimp only
  rw [ran]
  dsimp only
  rw [printed]
  refine ⟨?_, rfl, String.append_empty⟩
  dsimp only [Outcome.behind, Pairing.exitCode, codeOf]
  cases l.isClean <;> rfl

open Linking (Linked)

/-- A link of a stream that was just opened, under rules that have an answer for every path. -/
theorem linked_of_fresh {depths : Json.Depths} {d : Document} {s : Stream} {rules : PathRules}
    {N : String → String} (fresh : s.Fresh depths d Cleanup.standard)
    (answers : ∀ path, rules.apply path = .ok (N path))
    (lines : List String) (short : ∀ line ∈ lines, Query.ShortIdentifier line) (name : String) :
    ∃ l, (Linking.run rules.apply s (.stream { lines, name })).linking = .ok l ∧
      Linked N (defectsOf (outcomesOf depths d Cleanup.standard)) (lines.filterMap Query.query?) l ∧
      (l.isClean = true ↔ Faultless depths d Cleanup.standard ∧
        (∀ line ∈ lines, Query.WellFormed line) ∧ l.unmatched = [] ∧ l.unclaimed = []) := by
  obtain ⟨defects, -, unmarked⟩ := fresh.gathered
  obtain ⟨queries, well⟩ := Query.queriesOf_of_short lines short
  obtain ⟨l, ran, linked, parse, query⟩ :=
    Linking.run_answered N rules.apply s (.stream { lines, name }) _ _ fresh.live defects queries
      (fun _ _ => answers _) fun _ _ _ => answers _
  have faulty : QuerySource.faulty (.stream { lines, name }) = lines.any Query.isBad :=
    Bool.false_or _
  refine ⟨l, ran, linked, ?_⟩
  rw [Linking.isClean_iff, parse, query, faulty, unmarked, well]

/-- Queries come from bytes, so they have no halves of surrogate pairs. -/
theorem Brings.whole {host : Host Id} {link : LinkOptions} {text : String}
    (brought : Brings host link text) : Text.Whole text := by
  unfold Brings textOf at brought
  split at brought
  · rw [← Except.ok.inj brought]
    exact Text.whole_ofPlain _
  · cases brought

theorem whole_of_linked {N : String → String} {ds : List Defect} {text : String} {l : Linking}
    (linked : Linked N ds ((Query.splitLines text).filterMap Query.query?) l)
    (whole : Text.Whole text) (defects : ∀ d ∈ ds, d.Whole) : Pairing.Whole l where
  matched p mem := by
    refine defects p.2 (linked.pairing.defects.mem_iff.mp (List.mem_append_left _ ?_))
    exact List.mem_map_of_mem mem
  unmatched q mem :=
    Query.whole_of_text whole q (linked.pairing.queries.mem_iff.mp (List.mem_append_right _ mem))
  unclaimed d mem :=
    defects d (linked.pairing.defects.mem_iff.mp (List.mem_append_right _ mem))

/-! ## Command lines -/

/-- The document can be loaded, nothing escapes from that, and its defects can be written. -/
structure Presentable (depths : Json.Depths) (d : Document) : Prop where
  loadable : Loadable depths d
  legible : LegibleText depths d Cleanup.standard
  writable : ScanWritable depths d
  whole : ∀ x ∈ defectsOf (outcomesOf depths d Cleanup.standard), x.Whole

section Asked

variable {runtime : Runtime Id} {host : Host Id} {rules : PathRules} {args : List String}
  {options : Options} {link : LinkOptions} {path text : String}

/-- Either command fails on a document that cannot be opened or loaded. -/
theorem failed_of_asks {task : Task} (found : Finds runtime host options.ruleFile rules)
    (asks : Asks runtime args options task)
    (bad : ∀ d, host.document task.document = .ok d → ¬Loadable runtime.depths d)
    (word : Option String) : (Id.run (run runtime (host.hushed word) args)).exitCode = 1 := by
  obtain ⟨settings, ran⟩ := runProgram_of_asks asks (found.hushed word)
  obtain ⟨o, report, code⟩ := openReport_of_unloadable (host.hushed word) bad settings.silent
  rw [Task.body, report] at ran
  rw [run_of_throw ran, code]

variable (lawful : runtime.console.Lawful) (fetched : host.document path = .ok d)
  (presentable : Presentable runtime.depths d)
include lawful fetched presentable

theorem listed_of_asks (found : Finds runtime host options.ruleFile rules)
    (asks : Asks runtime args options (.listing path)) (word : Option String) :
    ∃ s : Stream, s.Fresh runtime.depths d Cleanup.standard ∧
      Listed runtime.console path (codeOf s.gather.stream.document.hasError)
        (defectsOf (outcomesOf runtime.depths d Cleanup.standard)).length
        (Id.run (run runtime (host.hushed word) args)) := by
  obtain ⟨settings, ran⟩ := runProgram_of_asks asks (found.hushed word)
  obtain ⟨s, notices, report, fresh⟩ := openReport_of_loadable (host.hushed word) fetched
    presentable.loadable presentable.legible presentable.writable settings.silent
  obtain ⟨defects, count, -⟩ := fresh.gathered
  refine ⟨s, fresh, ?_⟩
  rw [Task.body, Task.document, report] at ran
  rw [run_of_pure ran]
  exact listed_of_gathered lawful path notices defects count presentable.whole

theorem told_of_asks (found : Finds runtime host options.ruleFile rules)
    (asks : Asks runtime args options (.linking link)) (same : link.document = path)
    (brought : Brings host link text) (fit : link.addresses.Fit) (word : Option String) :
    ∃ (s : Stream) (name : String), s.Fresh runtime.depths d Cleanup.standard ∧
      ∀ l, Pairing.Whole l → (Linking.run rules.apply s
          (.stream { lines := Query.splitLines text, name })).linking = .ok l →
        Told (codeOf !l.isClean) l.matched.length l.unmatched.length l.unclaimed.length
          (Id.run (run runtime (host.hushed word) args)) := by
  subst same
  obtain ⟨settings, ran⟩ := runProgram_of_asks asks (found.hushed word)
  obtain ⟨s, notices, report, fresh⟩ := openReport_of_loadable (host.hushed word) fetched
    presentable.loadable presentable.legible presentable.writable settings.silent
  refine ⟨s, link.queries.name, fresh, fun l whole linked => ?_⟩
  rw [Task.body, Task.document, report] at ran
  rw [run_of_pure ran]
  exact told_of_linked lawful notices fit brought whole linked

end Asked

/-- **The commands agree.** Command lines may differ in what they say of silence and of notices, and
so may the host. If the document cannot be opened or loaded, either command fails. Otherwise, where
nothing escapes from the document, its defects can be written, and the path rules have an answer for
every path, there are numbers on which all listings and all links of this
document with these queries agree: `N` defects are listed, and of these `M` are linked and `C` are
not claimed, while `U` of the well-formed lines get nothing. A listing succeeds if and only if
nothing of the document failed; a link does if, in addition, every line is well formed and nothing
is left over on either side. Links bring no tags in their addresses. -/
theorem commands_agree (runtime : Runtime Id) (lawful : runtime.console.Lawful) (host : Host Id)
    (ruleFile : Option String) (rules : PathRules) (path text : String)
    (found : Finds runtime host ruleFile rules) :
    ((∀ d, host.document path = .ok d → ¬Loadable runtime.depths d) →
      ∀ word args options task, Asks runtime args options task → options.ruleFile = ruleFile →
        task.document = path → (Id.run (run runtime (host.hushed word) args)).exitCode = 1) ∧
    ∀ d, host.document path = .ok d → Presentable runtime.depths d →
      (∀ path, ∃ answer, rules.apply path = .ok answer) →
      (∀ line ∈ Query.splitLines text, Query.ShortIdentifier line) →
      ∃ N M U C parseCode linkCode : Nat,
        N = (defectsOf (outcomesOf runtime.depths d Cleanup.standard)).length ∧ M + C = N ∧
        M + U = (Query.splitLines text).countP (fun line => Query.WellFormed line) ∧
        (parseCode = 0 ↔ Faultless runtime.depths d Cleanup.standard) ∧
        (linkCode = 0 ↔ Faultless runtime.depths d Cleanup.standard ∧
          (∀ line ∈ Query.splitLines text, Query.WellFormed line) ∧ U = 0 ∧ C = 0) ∧
        (linkCode = 0 → parseCode = 0) ∧ parseCode ≤ 1 ∧ linkCode ≤ 1 ∧
        ∀ word args options, options.ruleFile = ruleFile →
          (Asks runtime args options (.listing path) →
            Listed runtime.console path parseCode N
              (Id.run (run runtime (host.hushed word) args))) ∧
          ∀ link, Asks runtime args options (.linking link) → link.document = path →
            Brings host link text → link.addresses.Fit →
            Told linkCode M U C (Id.run (run runtime (host.hushed word) args)) := by
  refine ⟨fun bad word args options task asks same document => ?_,
    fun d fetched presentable answers short => ?_⟩
  · subst same document
    exact failed_of_asks found asks bad word
  · choose N answers using answers
    let lines := Query.splitLines text
    -- Any stream of the document has the numbers; here it is that of the host as it is.
    obtain ⟨s, _, -, fresh⟩ := openReport_of_loadable host fetched presentable.loadable
      presentable.legible presentable.writable false
    obtain ⟨-, -, unmarked⟩ := fresh.gathered
    obtain ⟨l, -, linked, clean⟩ := linked_of_fresh fresh answers lines short "-"
    obtain ⟨sum, all⟩ := linked.pairing.length_eq
    refine ⟨_, l.matched.length, l.unmatched.length, l.unclaimed.length,
      codeOf s.gather.stream.document.hasError, codeOf !l.isClean, rfl, all, ?_, ?_, ?_, ?_,
      codeOf_le_one _, codeOf_le_one _, fun word args options same => ⟨fun asks => ?_,
        fun link asks document brought fit => ?_⟩⟩
    · rw [sum, Query.length_filterMap_query? lines short]
    · rw [codeOf_eq_zero_iff]
      exact unmarked
    · rw [codeOf_eq_zero_iff, Bool.not_eq_false', clean, List.length_eq_zero_iff,
        List.length_eq_zero_iff]
    · rw [codeOf_eq_zero_iff, codeOf_eq_zero_iff, Bool.not_eq_false', clean]
      exact fun fine => unmarked.mpr fine.1
    · subst same
      obtain ⟨t, fresh', listed⟩ := listed_of_asks lawful fetched presentable found asks word
      rwa [fresh'.hasError_eq fresh] at listed
    · subst same
      obtain ⟨t, name, fresh', told⟩ :=
        told_of_asks lawful fetched presentable found asks document brought fit word
      obtain ⟨l', ran, linked', clean'⟩ := linked_of_fresh fresh' answers lines short name
      have matched := linked'.matched.trans linked.matched.symm
      have unmatched := linked'.unmatched.trans linked.unmatched.symm
      have unclaimed := linked'.unclaimed.trans linked.unclaimed.symm
      have same : l'.isClean = l.isClean := by
        rw [Bool.eq_iff_iff, clean', clean, unmatched, unclaimed]
      rw [← matched, ← unmatched, ← unclaimed, ← same]
      exact told l' (whole_of_linked linked' brought.whole presentable.whole) ran

/-- A compiler diagnostic. -/
def oneDiagnostic : Document where
  name := "pair.json"
  text :=
    "[\x7b\"kind\":\"warning\",\"locations\":[\x7b\"caret\":\x7b\"file\":\"x.c\"\x7d\x7d]\x7d]"

/-- A host with a report of two defects and three lines that ask for defects, and with a report of
one defect and a line that asks for it. -/
def smallHost : Host Id :=
  let ascii (s : String) : List UInt8 := s.toList.map fun c => c.toNat.toUInt8
  FileTree.host
    (FileTree.ofFiles [("report.json", some (ascii Linking.twoDiagnostics.text)),
      ("queries", some (ascii "7,COMPILER_WARNING,./x.c\n8,COMPILER_WARNING,y.c\nnone\n")),
      ("pair.json", some (ascii oneDiagnostic.text)),
      ("pair", some (ascii "7,COMPILER_WARNING,x.c\n"))])
    [("XDG_CONFIG_HOME", "/config")] []

/-- What the text of the report says. -/
def smallRoot : Json.Value :=
  .array
    [.object [("kind", .text "warning"),
        ("locations", .array [.object [("caret", .object [("file", .text "x.c")])]])],
      .object [], .object [("kind", .text "error")]]

theorem read_twoDiagnostics :
    Json.read Json.Depths.standard.read Linking.twoDiagnostics.text = .ok smallRoot := by rfl

theorem read_oneDiagnostic : Json.read Json.Depths.standard.read oneDiagnostic.text =
    .ok (.array (smallRoot.children.take 1)) := by rfl

/-- Compiler diagnostics whose numbers can be read and whose defects can be written. -/
theorem presentable_of_compiler {root : Json.Value} {c : Report.Cursor}
    (read : Json.read depths.read d.text = .ok root)
    (found : Report.Kind.detect root = .ok .compiler)
    (start : Report.Cursor.start .compiler root = .ok c)
    (legible : Report.Kind.compiler.Legible Cleanup.standard root)
    (whole : ∀ x ∈ defectsOf (outcomesOf depths d Cleanup.standard), x.Whole) :
    Presentable depths d where
  loadable := ⟨root, read, .inr ⟨.compiler, c, found, start⟩⟩
  legible := by
    refine ⟨fun e o refused => ?_, fun root' k read' found' => ?_⟩
    · cases read.symm.trans refused
    · obtain rfl := eq_of_eq_ok read read'
      obtain rfl := eq_of_eq_ok found found'
      exact legible
  writable := by
    intro root' k c read' found' start' native
    obtain rfl := eq_of_eq_ok read read'
    obtain rfl := eq_of_eq_ok found found'
    cases native
  whole := whole

theorem presentable_twoDiagnostics : Presentable .standard Linking.twoDiagnostics :=
  presentable_of_compiler read_twoDiagnostics rfl rfl
    (Report.Kind.legible_of_isOk (by decide) (by decide)) (by decide)

theorem presentable_oneDiagnostic : Presentable .standard oneDiagnostic :=
  presentable_of_compiler read_oneDiagnostic rfl rfl
    (Report.Kind.legible_of_isOk (by decide) (by decide)) (by decide)

theorem faultless_of_compiler {root : Json.Value} (read : Json.read depths.read d.text = .ok root)
    (found : Report.Kind.detect root = .ok .compiler)
    (records : Report.anyFailed (outcomesOf depths d Cleanup.standard) = false) :
    Faultless depths d Cleanup.standard := by
  refine ⟨fun root' k read' found' => ?_, (Report.anyFailed_eq_false_iff _).mp records⟩
  obtain rfl := eq_of_eq_ok read read'
  obtain rfl := eq_of_eq_ok found found'
  exact fun fault => nofun

theorem faultless_twoDiagnostics : Faultless .standard Linking.twoDiagnostics Cleanup.standard :=
  faultless_of_compiler read_twoDiagnostics rfl (by decide)

theorem faultless_oneDiagnostic : Faultless .standard oneDiagnostic Cleanup.standard :=
  faultless_of_compiler read_oneDiagnostic rfl (by decide)

/-- Without a file of rules, the program has rules on this host that answer on every path. -/
theorem smallHost_rules : ∃ rules, Finds (.standard smallHost) smallHost none rules ∧
    ∀ path, ∃ answer, rules.apply path = .ok answer := by
  have standard : (RuleFile.withStandard []).map (fun _ => ()) = .ok () := by decide +kernel
  have settings : smallHost.settings.map Settings.ruleFile = .ok none := by decide +kernel
  obtain ⟨rules, standard, -⟩ := (map_eq_ok_iff _ _ _).mp standard
  obtain ⟨settings, loaded, nowhere⟩ := (map_eq_ok_iff _ _ _).mp settings
  refine ⟨rules, ⟨settings, loaded, ?_⟩, PathRules.answers_of_literal
    (Linking.ofRules_of_withStandard standard) PathRules.literal_standard⟩
  change pathRulesOf (.standard smallHost) smallHost settings.ruleFile = _
  rw [nowhere, pathRulesOf, standard]
  rfl

theorem smallHost_documents : smallHost.document "report.json" = .ok Linking.twoDiagnostics ∧
    smallHost.document "pair.json" = .ok oneDiagnostic ∧
    (smallHost.document "missing").isOk = false := by
  decide +kernel

theorem smallHost_queries :
    (smallHost.file "queries").map textOf =
        .ok (.ok "7,COMPILER_WARNING,./x.c\n8,COMPILER_WARNING,y.c\nnone\n") ∧
      (smallHost.file "pair").map textOf = .ok (.ok "7,COMPILER_WARNING,x.c\n") := by
  decide +kernel

/-- A silent listing and a link on this host, and a listing of a document that is not there. -/
theorem commands_agree_small :
    let text := "7,COMPILER_WARNING,./x.c\n8,COMPILER_WARNING,y.c\nnone\n"
    let silent := ["-s", "parse", "report.json"]
    let linking := ["link", "report.json", "--queries=queries", "--checker-url", "https://x/"]
    let failing := ["-v", "parse", "missing"]
    let runtime := Runtime.standard smallHost
    ∃ rules options options' link, runtime.console.Lawful ∧
      Finds runtime smallHost none rules ∧
      smallHost.document "report.json" = .ok Linking.twoDiagnostics ∧
      Presentable runtime.depths Linking.twoDiagnostics ∧
      (∀ path, ∃ answer, rules.apply path = .ok answer) ∧
      (∀ line ∈ Query.splitLines text, Query.ShortIdentifier line) ∧
      Asks runtime silent options (.listing "report.json") ∧
      Asks runtime linking options' (.linking link) ∧ Brings smallHost link text ∧
      link.addresses.Fit ∧
      Listed runtime.console "report.json" 0 2
        (Id.run (run runtime (smallHost.hushed (some "yes")) silent)) ∧
      ∃ M U C, M + C = 2 ∧ M + U = 2 ∧
        Told 1 M U C (Id.run (run runtime (smallHost.hushed none) linking)) ∧
      (∀ d, smallHost.document "missing" = .ok d → ¬Loadable runtime.depths d) ∧
      (∃ options, Asks runtime failing options (.listing "missing")) ∧
      (Id.run (run runtime (smallHost.hushed none) failing)).exitCode = 1 := by
  intro text silent linking failing runtime
  obtain ⟨rules, found, answers⟩ := smallHost_rules
  obtain ⟨fetched, -, missing⟩ := smallHost_documents
  obtain ⟨bytes, there, read⟩ := (map_eq_ok_iff _ _ _).mp smallHost_queries.1
  have two :
      (defectsOf (outcomesOf .standard Linking.twoDiagnostics Cleanup.standard)).length = 2 := by
    decide
  have few : ∀ line ∈ Query.splitLines text, ∀ id ∈ (Query.fields line).head?,
      id.countP Char.isDigit ≤ Decimal.maxDigits := by decide
  have short : ∀ line ∈ Query.splitLines text, Query.ShortIdentifier line := by
    intro line mem id checker file more fields _
    exact few line mem id (by rw [fields]; rfl)
  have program : Programs smallHost silent
      { given := [⟨"--silent", ""⟩], operands := ["parse", "report.json"] } .parse
      ["report.json"] :=
    ⟨by decide +kernel, by decide, rfl, nofun⟩
  have word : Arguments.read Subcommand.parse.flags true ["report.json"] =
      .ok { operands := ["report.json"] } := by decide +kernel
  have asks := asks_listing program word (by decide) rfl
  have program' : Programs smallHost linking { operands := linking } .link linking.tail :=
    ⟨by decide +kernel, by decide, rfl, nofun⟩
  let own : Arguments :=
    { given := [⟨"--queries", "queries"⟩, ⟨"--checker-url", "https://x/"⟩]
      operands := ["report.json"] }
  have words : Arguments.read Subcommand.link.flags true linking.tail = .ok own := by
    decide +kernel
  have asks' := asks_linking program' words (by decide) rfl rfl (by decide) there
  have program'' : Programs smallHost failing
      { given := [⟨"--verbose", ""⟩], operands := ["parse", "missing"] } .parse ["missing"] :=
    ⟨by decide +kernel, by decide, rfl, nofun⟩
  have word' : Arguments.read Subcommand.parse.flags true ["missing"] =
      .ok { operands := ["missing"] } := by decide +kernel
  have asks'' := asks_listing program'' word' (by decide) rfl
  have absent (d : Document) (there : smallHost.document "missing" = .ok d) :
      ¬Loadable runtime.depths d := by
    rw [there] at missing
    cases missing
  have lawful : runtime.console.Lawful := Console.Writer.standard_lawful
  have fit : (addressesOf own).Fit := by decide
  have refused := (commands_agree runtime lawful smallHost none rules "missing" text found).1 absent
    none failing _ _ asks'' rfl rfl
  obtain ⟨N, M, U, C, parseCode, linkCode, total, defects, lines, parse, link, -, -, bound, all⟩ :=
    (commands_agree runtime lawful smallHost none rules "report.json" text found).2
      Linking.twoDiagnostics fetched presentable_twoDiagnostics answers short
  have listed := (all (some "yes") silent _ rfl).1 asks
  have told := (all none linking _ rfl).2 _ asks' rfl read fit
  have ill : ¬∀ line ∈ Query.splitLines text, Query.WellFormed line := by decide
  have failed : linkCode = 1 := by
    have : linkCode ≠ 0 := fun zero => ill (link.mp zero).2.1
    omega
  have succeeded : parseCode = 0 := parse.mpr faultless_twoDiagnostics
  have count : (Query.splitLines text).countP (fun line => Query.WellFormed line) = 2 := by
    decide
  have total : N = 2 := total.trans two
  rw [succeeded, total] at listed
  rw [failed] at told
  exact ⟨rules, _, _, _, lawful, found, fetched, presentable_twoDiagnostics, answers,
    short, asks, asks', read, fit, listed, M, U, C, defects.trans total, lines.trans count,
    told, absent, ⟨_, asks''⟩, refused⟩

theorem pair_query :
    (Query.splitLines "7,COMPILER_WARNING,x.c\n").filterMap Query.query? =
      [⟨7, "COMPILER_WARNING", "x.c"⟩] := by decide

theorem pair_defect : defectsOf (outcomesOf .standard oneDiagnostic Cleanup.standard) =
    [{ checker := "COMPILER_WARNING"
       trace := [{ label := "warning", file := "x.c", message := unknownMessage }] }] := by
  decide

/-- The query gets the defect. -/
theorem linked_pair {s : Stream} {rules : PathRules}
    (fresh : s.Fresh .standard oneDiagnostic Cleanup.standard)
    (answers : ∀ path, ∃ answer, rules.apply path = .ok answer) (name : String) :
    ∃ l, (Linking.run rules.apply s (.stream
        { lines := Query.splitLines "7,COMPILER_WARNING,x.c\n", name })).linking = .ok l ∧
      Pairing.Whole l ∧ l.isClean = true ∧ l.matched.length = 1 ∧ l.unmatched = [] ∧
      l.unclaimed = [] := by
  choose N answers using answers
  have few : ∀ line ∈ Query.splitLines "7,COMPILER_WARNING,x.c\n",
      ∀ id ∈ (Query.fields line).head?, id.countP Char.isDigit ≤ Decimal.maxDigits := by
    decide
  obtain ⟨l, ran, linked, clean⟩ := linked_of_fresh fresh answers _
    (fun line mem id checker file more fields _ => few line mem id (by rw [fields]; rfl)) name
  have whole := whole_of_linked linked (by decide) presentable_oneDiagnostic.whole
  rw [pair_query, pair_defect] at linked
  -- The defect has the key of the query, whatever the rules make of their file.
  have unmatched : l.unmatched = [] :=
    linked.unmatched.trans ((Keyed.leftover_eq_nil_iff _ _ _).mpr fun _ => Nat.le_refl _)
  obtain ⟨sum, all⟩ := linked.pairing.length_eq
  simp only [unmatched, List.length_nil, List.length_singleton, Nat.add_zero] at sum all
  have unclaimed : l.unclaimed = [] := List.length_eq_zero_iff.mp (by omega)
  exact ⟨l, ran, whole,
    clean.mpr ⟨faultless_oneDiagnostic, by decide, unmatched, unclaimed⟩,
    sum, unmatched, unclaimed⟩

/-- Nothing is wrong and nothing is left over; but two addresses make up a tag, between them and
with the identifier in it, and there is nothing for it to close. -/
theorem tagged_addresses_fail :
    let outcome := fun args => Id.run (run (.standard smallHost) (smallHost.hushed none) args)
    Listed .standard "pair.json" 0 1 (outcome ["parse", "pair.json"]) ∧
      Told 0 1 0 0 (outcome ["link", "pair.json", "--queries=pair"]) ∧
      (outcome ["link", "pair.json", "--queries=pair", "--defect-url", "[/", "--checker-url",
        "]"]).exitCode = 1 ∧
      (outcome ["link", "pair.json", "--queries=pair", "--defect-url", "[/", "--checker-url",
        "]"]).stderr = "" ∧
      (outcome ["link", "pair.json", "--queries=pair", "--defect-url", "[/", "--checker-url",
        "]"]).escape.map Escape.message =
          some "closing tag \x27[/7 ]\x27 at position 44 doesn\x27t match any open tag" := by
  obtain ⟨-, fetched, -⟩ := smallHost_documents
  obtain ⟨rules, found, answers⟩ := smallHost_rules
  have ended : (fun o : Outcome => (o.exitCode, o.stderr, o.escape.map Escape.message))
      (Id.run (run (.standard smallHost) (smallHost.hushed none)
        ["link", "pair.json", "--queries=pair", "--defect-url", "[/", "--checker-url", "]"])) =
      (1, "", some "closing tag \x27[/7 ]\x27 at position 44 doesn\x27t match any open tag") := by
    decide +kernel
  simp only [Prod.mk.injEq] at ended
  refine ⟨?_, ?_, ended⟩
  · have program : Programs smallHost ["parse", "pair.json"] { operands := ["parse", "pair.json"] }
        .parse ["pair.json"] := ⟨by decide +kernel, by decide, rfl, nofun⟩
    have word : Arguments.read Subcommand.parse.flags true ["pair.json"] =
        .ok { operands := ["pair.json"] } := by decide +kernel
    obtain ⟨s, fresh, listed⟩ := listed_of_asks Console.Writer.standard_lawful fetched
      presentable_oneDiagnostic found (asks_listing program word (by decide) rfl) none
    rwa [fresh.gathered.2.2.mpr faultless_oneDiagnostic] at listed
  · obtain ⟨bytes, there, read⟩ := (map_eq_ok_iff _ _ _).mp smallHost_queries.2
    let linking := ["link", "pair.json", "--queries=pair"]
    have program : Programs smallHost linking { operands := linking } .link linking.tail :=
      ⟨by decide +kernel, by decide, rfl, nofun⟩
    have words : Arguments.read Subcommand.link.flags true linking.tail =
        .ok { given := [⟨"--queries", "pair"⟩], operands := ["pair.json"] } := by decide +kernel
    have asks := asks_linking program words (by decide) rfl rfl (by decide) there
    have plain :
        (addressesOf { given := [⟨"--queries", "pair"⟩], operands := ["pair.json"] }).Fit := by
      decide
    obtain ⟨s, name, fresh, told⟩ := told_of_asks Console.Writer.standard_lawful fetched
      presentable_oneDiagnostic found asks rfl read plain none
    obtain ⟨l, ran, whole, clean, matched, unmatched, unclaimed⟩ := linked_pair fresh answers name
    have told := told l whole ran
    rwa [clean, matched, unmatched, unclaimed] at told

end Command

end Findings
