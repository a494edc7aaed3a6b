import Findings.Command.Standard
import Findings.FileTree
import Findings.Proofs.Command.Running
import Findings.Proofs.Linking.Replacements
/-!
Every way in which the reading of a rule file can end, by the value that the file has, and what the
program makes of each.

* `IsRule.ruleOf_eq`, `Spoils.ruleOf_eq`: one item of the list of rules;
* `Ends.rules_eq`, `exists_ends`: the whole file;
* `Ends.told`, `meets_of_told`: what the reader makes of it, and the program that is given the file;
* `rule_file_ends`: the main statement.
-/

namespace Findings.RuleFile

variable {reader : Reader} {cs : Yaml.Collections}

/-- How the reading of a rule file ends: with rules besides the standard ones, with a fault that the
file is blamed for, or with one that nobody handles. -/
inductive Verdict where
  | accepted (own : List PathRule)
  | blamed (fault : Fault)
  | escapes (fault : Fault)

namespace Verdict

/-- A value cannot be shown. The file is blamed for a number that is too long, but not for its
levels. -/
def unshown : Yaml.DisplayFault → Verdict
  | .unwritable fault => blamed (.unshown (.unwritable fault))
  | .tooDeep => escapes (.unshown .tooDeep)

/-- A value should have been a rule and has no pattern; this is how it shows. -/
def lack : Except Yaml.DisplayFault String → Verdict
  | .ok shown => blamed (.missingPattern shown)
  | .error fault => unshown fault

def answer : Verdict → Except Fault (List PathRule)
  | accepted own => .ok own
  | blamed fault | escapes fault => .error fault

/-- The fault, if there is one, is reported just if the file is blamed for it. -/
def Honest : Verdict → Prop
  | accepted _ => True
  | blamed fault => fault.isReported = true
  | escapes fault => fault.isReported = false

/-- What the reader makes of the text. -/
def Told (reader : Reader) (text : String) : Verdict → Prop
  | accepted own => ∃ r, read reader text = .ok r ∧ r.rules.map Prod.fst = PathRule.standard ++ own
  | blamed fault => read reader text = .error fault ∧ fault.isReported = true
  | escapes fault => read reader text = .error fault ∧ fault.isReported = false

variable {text : String} {v w : Verdict}

theorem Honest.ext (hv : v.Honest) (hw : w.Honest) (same : v.answer = w.answer) : v = w := by
  cases v <;> cases w <;> simp_all [Honest, answer]

theorem Told.honest (h : v.Told reader text) : v.Honest := by
  cases v with
  | accepted own => trivial
  | blamed fault | escapes fault => exact h.2

/-- Behind the standard rules stand those of the verdict. -/
theorem Told.answer_eq (h : v.Told reader text) :
    (read reader text).map (fun r => (r.rules.map Prod.fst).drop PathRule.standard.length) =
      v.answer := by
  cases v with
  | accepted own =>
    obtain ⟨r, made, listed⟩ := h
    rw [made, Except.map, listed, List.drop_left]
    rfl
  | blamed fault | escapes fault =>
    rw [h.1]
    rfl

theorem Told.unique (hv : v.Told reader text) (hw : w.Told reader text) : v = w :=
  hv.honest.ext hw.honest (hv.answer_eq.symm.trans hw.answer_eq)

end Verdict

/-! ## One item of the list -/

/-- What a value has under a key, if it is a mapping. -/
def field? (cs : Yaml.Collections) (v : Yaml.Value) (key : String) : Option Yaml.Value :=
  (entriesOf? cs v).bind (Yaml.Value.entry? key)

/-- Values that are neither text nor bytes nor made of others. -/
def IsPlain : Yaml.Value → Prop
  | .text _ | .bytes _ | .collection _ => False
  | _ => True

/-- The value is a pattern, as a text or as bytes. -/
inductive Names : Yaml.Value → Pattern.Source → Prop where
  | text (s : String) : Names (.text s) (.text s)
  | bytes (bs : List UInt8) : Names (.bytes bs) (.bytes bs)

/-- The item is a rule: its pattern can be read, and its replacement can be written. -/
structure IsRule (reader : Reader) (cs : Yaml.Collections) (item : Yaml.Value) (rule : PathRule) :
    Prop where
  pattern : ∃ v, field? cs item "match" = some v ∧ Names v rule.pattern
  shallow : reader.isTooDeep rule.pattern = false
  compiles : ∃ compiled, Pattern.compile rule.pattern = .ok compiled
  replacement : field? cs item "replace" = none ∧ rule.replacement = "" ∨
    ∃ v, field? cs item "replace" = some v ∧ v.asText reader.shown cs = .ok rule.replacement

/-- The reading of the file ends at the item. -/
inductive Spoils (reader : Reader) (cs : Yaml.Collections) (item : Yaml.Value) :
    Verdict → Prop where
  | patternless (none : field? cs item "match" = none) :
      Spoils reader cs item (.lack (item.display reader.shown cs))
  | deep {v : Yaml.Value} {source : Pattern.Source} (named : field? cs item "match" = some v)
      (names : Names v source) (deep : reader.isTooDeep source = true) :
      Spoils reader cs item (.escapes .deepPattern)
  | illegible {v : Yaml.Value} {source : Pattern.Source} {fault : Pattern.Fault}
      (named : field? cs item "match" = some v) (names : Names v source)
      (shallow : reader.isTooDeep source = false) (bad : Pattern.compile source = .error fault)
      (told : fault.cause ≠ .repeatTooLarge) :
      Spoils reader cs item (.blamed (.badPattern source fault))
  | repeatTooLarge {v : Yaml.Value} {source : Pattern.Source} {fault : Pattern.Fault}
      (named : field? cs item "match" = some v) (names : Names v source)
      (shallow : reader.isTooDeep source = false) (bad : Pattern.compile source = .error fault)
      (large : fault.cause = .repeatTooLarge) :
      Spoils reader cs item (.escapes (.badPattern source fault))
  | unwritten {v w : Yaml.Value} {source : Pattern.Source} {compiled : Pattern.Compiled}
      {fault : Yaml.DisplayFault} (named : field? cs item "match" = some v)
      (names : Names v source) (shallow : reader.isTooDeep source = false)
      (compiles : Pattern.compile source = .ok compiled)
      (replace : field? cs item "replace" = some w)
      (hidden : w.asText reader.shown cs = .error fault) :
      Spoils reader cs item (.unshown fault)
  | compound {n : Nat} (named : field? cs item "match" = some (.collection n)) :
      Spoils reader cs item (.escapes (.compoundPattern ((Yaml.Value.collection n).kindName cs)))
  | plain {v : Yaml.Value} (named : field? cs item "match" = some v) (plain : IsPlain v) :
      Spoils reader cs item (.escapes .notText)

theorem Verdict.unshown_spec (fault : Yaml.DisplayFault) :
    (Verdict.unshown fault).Honest ∧ (Verdict.unshown fault).answer = .error (.unshown fault) := by
  cases fault <;> exact ⟨rfl, rfl⟩

theorem Verdict.lack_spec (shown : Except Yaml.DisplayFault String) :
    (Verdict.lack shown).Honest ∧ (Verdict.lack shown).answer = .error (RuleFile.lack shown) := by
  cases shown with
  | ok shown => exact ⟨rfl, rfl⟩
  | error fault => exact unshown_spec fault

variable {item v : Yaml.Value} {source : Pattern.Source}

theorem ruleOf_of_patternless (none : field? cs item "match" = none) :
    ruleOf reader cs item = .error (lack (item.display reader.shown cs)) := by
  unfold field? at none
  unfold ruleOf
  split
  · rfl
  · next entries mapping =>
    rw [mapping, Option.bind_some] at none
    rw [none]

theorem ruleOf_of_named (named : field? cs item "match" = some v) :
    ruleOf reader cs item = patternOf reader cs v >>= fun pattern =>
      (replacementOf reader cs (field? cs item "replace")).map fun replacement =>
        { pattern, replacement } := by
  obtain ⟨entries, mapping, at_match⟩ := Option.bind_eq_some_iff.mp named
  rw [ruleOf, field?, mapping, Option.bind_some]
  simp only [at_match]
  rfl

theorem Names.patternOf_eq (names : Names v source) :
    patternOf reader cs v = readPattern reader source := by
  cases names <;> rfl

theorem readPattern_of_shallow (shallow : reader.isTooDeep source = false) :
    readPattern reader source = match Pattern.compile source with
      | .ok _ => .ok source
      | .error fault => .error (.badPattern source fault) :=
  if_neg (shallow ▸ Bool.false_ne_true)

theorem IsRule.ruleOf_eq {rule : PathRule} (h : IsRule reader cs item rule) :
    ruleOf reader cs item = .ok rule := by
  obtain ⟨v, named, names⟩ := h.pattern
  obtain ⟨compiled, compiles⟩ := h.compiles
  have written : replacementOf reader cs (field? cs item "replace") = .ok rule.replacement := by
    rcases h.replacement with ⟨none, empty⟩ | ⟨w, some, shown⟩
    · rw [none, empty]
      rfl
    · rw [some, replacementOf, shown]
      rfl
  rw [ruleOf_of_named named, names.patternOf_eq, readPattern_of_shallow h.shallow, compiles,
    written]
  rfl

theorem Spoils.ruleOf_eq {verdict : Verdict} (h : Spoils reader cs item verdict) :
    verdict.Honest ∧ ∃ fault, verdict.answer = .error fault ∧
      ruleOf reader cs item = .error fault := by
  cases h with
  | patternless none =>
    obtain ⟨honest, answer⟩ := Verdict.lack_spec (item.display reader.shown cs)
    exact ⟨honest, _, answer, ruleOf_of_patternless none⟩
  | deep named names deep =>
    refine ⟨rfl, _, rfl, ?_⟩
    rw [ruleOf_of_named named, names.patternOf_eq, readPattern, deep]
    rfl
  | illegible named names shallow bad told =>
    refine ⟨by simpa [Verdict.Honest, Fault.isReported] using told, _, rfl, ?_⟩
    rw [ruleOf_of_named named, names.patternOf_eq, readPattern_of_shallow shallow, bad]
    rfl
  | repeatTooLarge named names shallow bad large =>
    refine ⟨by simpa [Verdict.Honest, Fault.isReported] using large, _, rfl, ?_⟩
    rw [ruleOf_of_named named, names.patternOf_eq, readPattern_of_shallow shallow, bad]
    rfl
  | @unwritten v w source compiled fault named names shallow compiles replace hidden =>
    obtain ⟨honest, answer⟩ := Verdict.unshown_spec fault
    refine ⟨honest, _, answer, ?_⟩
    rw [ruleOf_of_named named, names.patternOf_eq, readPattern_of_shallow shallow, compiles,
      replace, replacementOf, hidden]
    rfl
  | compound named =>
    refine ⟨rfl, _, rfl, ?_⟩
    rw [ruleOf_of_named named]
    rfl
  | @plain v named plain =>
    refine ⟨rfl, _, rfl, ?_⟩
    rw [ruleOf_of_named named]
    cases v <;> first | rfl | cases plain

theorem isRule_or_spoils_of_names (reader : Reader) (named : field? cs item "match" = some v)
    (names : Names v source) :
    (∃ rule, IsRule reader cs item rule) ∨ ∃ verdict, Spoils reader cs item verdict := by
  cases depth : reader.isTooDeep source with
  | true => exact .inr ⟨_, .deep named names depth⟩
  | false =>
    cases compiles : Pattern.compile source with
    | error fault =>
      by_cases large : fault.cause = .repeatTooLarge
      · exact .inr ⟨_, .repeatTooLarge named names depth compiles large⟩
      · exact .inr ⟨_, .illegible named names depth compiles large⟩
    | ok compiled =>
      have pattern : ∃ v, field? cs item "match" = some v ∧ Names v source := ⟨v, named, names⟩
      cases replace : field? cs item "replace" with
      | none =>
        exact .inl ⟨{ pattern := source }, pattern, depth, ⟨compiled, compiles⟩,
          .inl ⟨replace, rfl⟩⟩
      | some w =>
        cases shown : w.asText reader.shown cs with
        | ok replacement =>
          exact .inl ⟨{ pattern := source, replacement }, pattern, depth, ⟨compiled, compiles⟩,
            .inr ⟨w, replace, shown⟩⟩
        | error fault => exact .inr ⟨_, .unwritten named names depth compiles replace shown⟩

/-- An item that is no rule ends the reading. -/
theorem isRule_or_spoils (reader : Reader) (cs : Yaml.Collections) (item : Yaml.Value) :
    (∃ rule, IsRule reader cs item rule) ∨ ∃ verdict, Spoils reader cs item verdict := by
  cases named : field? cs item "match" with
  | none => exact .inr ⟨_, .patternless named⟩
  | some v =>
    match v, named with
    | .text s, named => exact isRule_or_spoils_of_names reader named (.text s)
    | .bytes bs, named => exact isRule_or_spoils_of_names reader named (.bytes bs)
    | .collection n, named => exact .inr ⟨_, .compound named⟩
    | .null, named | .bool _, named | .int _, named | .real _, named | .notANumber _, named
    | .date _, named | .moment _, named => exact .inr ⟨_, .plain named trivial⟩

/-! ## The file -/

/-- A value that is no list but can be gone through like one, and how what is in it shows. -/
inductive Loose (reader : Reader) (cs : Yaml.Collections) :
    Yaml.Value → List (Except Yaml.DisplayFault String) → Prop where
  | text (s : String) :
      Loose reader cs (.text s) ((charactersOf s).map (Yaml.Value.display reader.shown cs))
  | bytes (bs : List UInt8) :
      Loose reader cs (.bytes bs)
        (bs.map fun b => (Yaml.Value.int b.toNat).display reader.shown cs)
  | pairs {n : Nat} {items : List (Yaml.Value × Yaml.Value)}
      (node : cs.collection n = .pairs items) :
      Loose reader cs (.collection n)
        (items.map fun p => Yaml.Value.displayPair cs p reader.shown)
  | set {n : Nat} {items : List Yaml.Value} (node : cs.collection n = .set items) :
      Loose reader cs (.collection n) (items.map (Yaml.Value.display reader.shown cs))
  | mapping {n : Nat} {entries : List (Yaml.Value × Yaml.Value)}
      (node : cs.collection n = .mapping entries) :
      Loose reader cs (.collection n) (entries.map fun entry => entry.1.display reader.shown cs)

/-- What should be the list of rules, if the file is a mapping. -/
def filters? (loaded : Yaml.Loaded) : Option Yaml.Value :=
  field? loaded.collections loaded.root "path_filters"

/-- How the reading of a file ends that has this value. -/
inductive Ends (reader : Reader) (loaded : Yaml.Loaded) : Verdict → Prop where
  | notMapping (none : entriesOf? loaded.collections loaded.root = none) :
      Ends reader loaded (.blamed .notMapping)
  | unlisted {entries : List (Yaml.Value × Yaml.Value)}
      (mapping : entriesOf? loaded.collections loaded.root = some entries)
      (none : filters? loaded = none) : Ends reader loaded (.accepted [])
  | listed {n : Nat} {items : List Yaml.Value} {own : List PathRule}
      (value : filters? loaded = some (.collection n))
      (node : loaded.collections.collection n = .list items)
      (rules : List.Forall₂ (IsRule reader loaded.collections) items own) :
      Ends reader loaded (.accepted own)
  | spoiled {n : Nat} {before after : List Yaml.Value} {item : Yaml.Value} {verdict : Verdict}
      (value : filters? loaded = some (.collection n))
      (node : loaded.collections.collection n = .list (before ++ item :: after))
      (rules : ∀ i ∈ before, ∃ rule, IsRule reader loaded.collections i rule)
      (spoils : Spoils reader loaded.collections item verdict) : Ends reader loaded verdict
  | nothing {v : Yaml.Value} (value : filters? loaded = some v)
      (loose : Loose reader loaded.collections v []) : Ends reader loaded (.accepted [])
  | patternless {v : Yaml.Value} {first : Except Yaml.DisplayFault String}
      {more : List (Except Yaml.DisplayFault String)} (value : filters? loaded = some v)
      (loose : Loose reader loaded.collections v (first :: more)) : Ends reader loaded (.lack first)
  | single {v : Yaml.Value} (value : filters? loaded = some v) (plain : IsPlain v) :
      Ends reader loaded (.escapes (.notIterable (v.kindName loaded.collections)))

variable {loaded : Yaml.Loaded} {text : String} {verdict : Verdict}

theorem rulesOf_of_loose {v : Yaml.Value} {shown : List (Except Yaml.DisplayFault String)}
    (h : Loose reader cs v shown) : rulesOf reader cs v = noRules shown := by
  cases h with
  | text | bytes => rfl
  | pairs node | set node | mapping node =>
    rw [rulesOf]
    dsimp only
    rw [node]

theorem rules_of_filters {v : Yaml.Value} (read : reader.load text = .ok loaded)
    (value : filters? loaded = some v) :
    rules reader text = rulesOf reader loaded.collections v := by
  obtain ⟨entries, mapping, listed⟩ := Option.bind_eq_some_iff.mp value
  rw [rules, read]
  simp only [mapping, listed]

theorem Ends.rules_eq (read : reader.load text = .ok loaded) (h : Ends reader loaded verdict) :
    verdict.Honest ∧ rules reader text = verdict.answer := by
  cases h with
  | notMapping none =>
    refine ⟨rfl, ?_⟩
    rw [rules, read]
    simp only [none]
    rfl
  | unlisted mapping none =>
    refine ⟨trivial, ?_⟩
    rw [filters?, field?, mapping, Option.bind_some] at none
    rw [rules, read]
    simp only [mapping, none]
    rfl
  | listed value node all =>
    refine ⟨trivial, ?_⟩
    rw [rules_of_filters read value, rulesOf]
    dsimp only
    rw [node]
    exact (mapM_eq_ok_iff _ _ _).mpr (all.imp fun _ _ => IsRule.ruleOf_eq)
  | spoiled value node before spoils =>
    obtain ⟨honest, fault, answer, failed⟩ := spoils.ruleOf_eq
    refine ⟨honest, ?_⟩
    rw [rules_of_filters read value, rulesOf, answer]
    dsimp only
    rw [node]
    exact mapM_eq_error (fun i mem => (before i mem).imp fun _ => IsRule.ruleOf_eq) failed
  | nothing value loose =>
    exact ⟨trivial, (rules_of_filters read value).trans (rulesOf_of_loose loose)⟩
  | patternless value loose =>
    obtain ⟨honest, answer⟩ := Verdict.lack_spec _
    refine ⟨honest, ?_⟩
    rw [rules_of_filters read value, rulesOf_of_loose loose, answer]
    rfl
  | @single v value plain =>
    refine ⟨rfl, ?_⟩
    rw [rules_of_filters read value]
    cases v <;> first | rfl | cases plain

theorem loose_or_list_or_plain (reader : Reader) (cs : Yaml.Collections) (v : Yaml.Value) :
    (∃ shown, Loose reader cs v shown) ∨
      (∃ n items, v = .collection n ∧ cs.collection n = .list items) ∨ IsPlain v := by
  cases v with
  | text s => exact .inl ⟨_, .text s⟩
  | bytes bs => exact .inl ⟨_, .bytes bs⟩
  | collection n =>
    cases node : cs.collection n with
    | list items => exact .inr (.inl ⟨n, items, rfl, node⟩)
    | pairs => exact .inl ⟨_, .pairs node⟩
    | set => exact .inl ⟨_, .set node⟩
    | mapping => exact .inl ⟨_, .mapping node⟩
  | _ => exact .inr (.inr trivial)

theorem exists_ends (reader : Reader) (loaded : Yaml.Loaded) :
    ∃ verdict, Ends reader loaded verdict := by
  cases mapping : entriesOf? loaded.collections loaded.root with
  | none => exact ⟨_, .notMapping mapping⟩
  | some entries =>
    cases value : filters? loaded with
    | none => exact ⟨_, .unlisted mapping value⟩
    | some v =>
      rcases loose_or_list_or_plain reader loaded.collections v with
        ⟨shown, loose⟩ | ⟨n, items, rfl, node⟩ | plain
      · cases shown with
        | nil => exact ⟨_, .nothing value loose⟩
        | cons first more => exact ⟨_, .patternless value loose⟩
      · rcases forall₂_or_first (IsRule reader loaded.collections) items with
          ⟨own, all⟩ | ⟨before, item, after, rfl, rules, none⟩
        · exact ⟨_, .listed value node all⟩
        · rcases isRule_or_spoils reader loaded.collections item with rule | ⟨_, spoils⟩
          · exact absurd rule none
          · exact ⟨_, .spoiled value node rules spoils⟩
      · exact ⟨_, .single value plain⟩

/-! ## The standard rules before those of the file -/

theorem readRules_of_compiles {rules : List PathRule}
    (compile : ∀ rule ∈ rules, ∃ compiled, Pattern.compile rule.pattern = .ok compiled) :
    ∃ pairs, PathRules.readRules rules = .ok pairs := by
  induction rules with
  | nil => exact ⟨[], rfl⟩
  | cons rule rules ih =>
    obtain ⟨⟨compiled, first⟩, others⟩ := List.forall_mem_cons.mp compile
    obtain ⟨pairs, read⟩ := ih others
    exact ⟨(rule, compiled) :: pairs, by rw [PathRules.readRules, first, read]⟩

theorem compiles_standard :
    ∀ rule ∈ PathRule.standard, (Pattern.compile rule.pattern).toOption.isSome := by
  decide +kernel

/-- Patterns that can be read each on its own can be read together. -/
theorem withStandard_of_compiles {own : List PathRule}
    (compile : ∀ rule ∈ own, ∃ compiled, Pattern.compile rule.pattern = .ok compiled) :
    ∃ r, withStandard own = .ok r ∧ r.rules.map Prod.fst = PathRule.standard ++ own := by
  have standard (rule : PathRule) (mem : rule ∈ PathRule.standard) :
      ∃ compiled, Pattern.compile rule.pattern = .ok compiled := by
    have compiles := compiles_standard rule mem
    cases read : Pattern.compile rule.pattern with
    | ok compiled => exact ⟨compiled, rfl⟩
    | error => simp [read, Except.toOption] at compiles
  obtain ⟨pairs, read⟩ := readRules_of_compiles (List.forall_mem_append.mpr ⟨standard, compile⟩)
  have made : PathRules.ofRules (PathRule.standard ++ own) = .ok ⟨pairs⟩ := by
    rw [PathRules.ofRules, read]
  refine ⟨⟨pairs⟩, ?_, (PathRules.ofRules_eq_ok made).1⟩
  unfold withStandard
  split
  · next r made' => rw [eq_of_eq_ok made' made]
  · next fault failed => cases failed.symm.trans made

theorem Ends.compiles (h : Ends reader loaded verdict) {own : List PathRule}
    (accepted : verdict = .accepted own) :
    ∀ rule ∈ own, ∃ compiled, Pattern.compile rule.pattern = .ok compiled := by
  cases h with
  | unlisted | nothing =>
    obtain rfl := Verdict.accepted.inj accepted
    nofun
  | listed value node all =>
    obtain rfl := Verdict.accepted.inj accepted
    intro rule mem
    obtain ⟨item, isRule⟩ := exists_of_forall₂ all.flip mem
    exact isRule.compiles
  | spoiled _ _ _ spoils =>
    obtain ⟨-, fault, answer, -⟩ := spoils.ruleOf_eq
    rw [accepted] at answer
    cases answer
  | @patternless _ first _ _ _ =>
    have answer := (Verdict.lack_spec first).2
    rw [accepted] at answer
    cases answer
  | notMapping | single => cases accepted

theorem Ends.told (read : reader.load text = .ok loaded) (h : Ends reader loaded verdict) :
    verdict.Told reader text := by
  obtain ⟨honest, answer⟩ := h.rules_eq read
  cases verdict with
  | accepted own =>
    obtain ⟨r, made, listed⟩ := withStandard_of_compiles (h.compiles rfl)
    exact ⟨r, by rw [RuleFile.read, answer]; exact made, listed⟩
  | blamed fault => exact ⟨by rw [RuleFile.read, answer]; rfl, honest⟩
  | escapes fault => exact ⟨by rw [RuleFile.read, answer]; rfl, honest⟩

end Findings.RuleFile

/-! ## The program -/

namespace Findings.Command

open RuleFile (Verdict Ends)

variable {runtime : Runtime Id} {host : Host Id} {args rest : List String} {command : Subcommand}
  {text : String} {verdict : Verdict}

/-- The command line leads to a command and to a file of path rules with this text, which it names
or which the settings know. -/
structure Reaches (runtime : Runtime Id) (host : Host Id) (args : List String)
    (command : Subcommand) (rest : List String) (text : String) : Prop where
  words : ∃ options settings file bytes,
    runtime.commandLine.program args = pure (options, command, rest) ∧
    host.settings = .ok settings ∧ (settled settings options).ruleFile = some file ∧
    host.file file.toString = .ok bytes ∧ textOf bytes = .ok text

/-- What a run makes of the reading of its rules. A file that is blamed is wrong usage. -/
def Meets (runtime : Runtime Id) (host : Host Id) (args : List String) (command : Subcommand)
    (rest : List String) : Verdict → Prop
  | .accepted own => ∃ r settings, r.rules.map Prod.fst = PathRule.standard ++ own ∧
      runProgram runtime host args = runSubcommand runtime host settings r command rest
  | .blamed fault => Id.run (run runtime host args) = badRuleFile runtime fault.message
  | .escapes fault => Id.run (run runtime host args) = .ofEscape (.ruleFile fault)

theorem pathRulesOf_of_text {file : FilePath} {bytes : List UInt8}
    (opened : host.file file.toString = .ok bytes) (decoded : textOf bytes = .ok text) :
    pathRulesOf runtime host (some file) =
      (blame runtime (RuleFile.read runtime.ruleFiles text) : Running Id PathRules) := by
  unfold pathRulesOf
  dsimp only
  rw [show host.openFile file.toString = pure (.ok bytes) from opened, liftM_pure, pure_bind]
  dsimp only
  rw [decoded]

theorem runProgram_of_reaches (reaches : Reaches runtime host args command rest text) :
    ∃ settings, runProgram runtime host args =
      blame runtime (RuleFile.read runtime.ruleFiles text) >>= fun rules =>
        runSubcommand runtime host settings rules command rest := by
  obtain ⟨options, settings, file, bytes, program, loaded, named, opened, decoded⟩ := reaches
  refine ⟨settled settings options, ?_⟩
  rw [runProgram_of_words program loaded, named, pathRulesOf_of_text opened decoded]

theorem meets_of_told (reaches : Reaches runtime host args command rest text)
    (told : verdict.Told runtime.ruleFiles text) :
    Meets runtime host args command rest verdict := by
  obtain ⟨settings, ran⟩ := runProgram_of_reaches reaches
  cases verdict with
  | accepted own =>
    obtain ⟨r, read, listed⟩ := told
    refine ⟨r, settings, listed, ?_⟩
    rw [ran, read]
    rfl
  | blamed fault =>
    obtain ⟨read, reported⟩ := told
    apply run_of_throw
    rw [ran, read, blame, reported]
    rfl
  | escapes fault =>
    obtain ⟨read, unreported⟩ := told
    apply run_of_throw
    rw [ran, read, blame, unreported]
    rfl

/-- **Rule files.** The reading of a file ends in just one way, by the value that the file has.
Where every item of its list is a rule, these come behind the standard ones, in their order; a file
without a list has none. Otherwise the first item that is no rule ends the reading, or what stands
in place of the list does: with a fault that is reported as wrong usage, or else with one that
nobody handles and that ends the program. The latter comes of a single value in place of the list,
of a pattern that is neither text nor bytes, of one that nests too deep or repeats something too
often, and of a value that nests too deep to be shown. -/
theorem rule_file_ends (runtime : Runtime Id) (text : String) (loaded : Yaml.Loaded)
    (syntactic : runtime.ruleFiles.load text = .ok loaded) :
    ∃ verdict, (∀ verdict', Ends runtime.ruleFiles loaded verdict' ↔ verdict' = verdict) ∧
      verdict.Told runtime.ruleFiles text ∧
      ∀ host args command rest, Reaches runtime host args command rest text →
        Meets runtime host args command rest verdict := by
  obtain ⟨verdict, ends⟩ := RuleFile.exists_ends runtime.ruleFiles loaded
  have told := ends.told syntactic
  refine ⟨verdict, fun verdict' => ⟨fun ends' => (ends'.told syntactic).unique told, ?_⟩, told,
    fun host args command rest reaches => meets_of_told reaches told⟩
  rintro rfl
  exact ends

/-! ## Two files -/

/-- The second item has no pattern that can be read. -/
def illegibleRules : String :=
  "\"path_filters\":\n- \"match\": \"^old/\"\n- \"match\": \"(\"\n"

/-- A list of patterns stands in place of one. -/
def listRules : String := "\"path_filters\":\n- \"match\": [\"a\", \"b\"]\n"

/-- A host with nothing but these files. -/
def ruleHost : Host Id :=
  let ascii (s : String) : List UInt8 := s.toList.map fun c => c.toNat.toUInt8
  FileTree.host
    (FileTree.ofFiles [("illegible.yaml", some (ascii illegibleRules)),
      ("list.yaml", some (ascii listRules))])
    [("XDG_CONFIG_HOME", "/config")] []

/-- The words that name a file of path rules. -/
def ruleWords (file : String) : List String := ["--path-filters", file, "parse", "a.json"]

theorem ruleHost_settings : ruleHost.settings.map Settings.ruleFile = .ok none := by
  decide +kernel

theorem reaches_ruleWords {file text : String}
    (program : Arguments.read programFlags false (ruleWords file) =
      .ok { given := [⟨"--path-filters", file⟩], operands := ["parse", "a.json"] })
    (same : (FilePath.ofString file).toString = file)
    (read : (ruleHost.file file).map textOf = .ok (.ok text)) :
    Reaches (.standard ruleHost) ruleHost (ruleWords file) .parse ["a.json"] text := by
  obtain ⟨settings, loaded, -⟩ := (map_eq_ok_iff _ _ _).mp ruleHost_settings
  obtain ⟨bytes, opened, decoded⟩ := (map_eq_ok_iff _ _ _).mp read
  have programs : Programs ruleHost (ruleWords file)
      { given := [⟨"--path-filters", file⟩], operands := ["parse", "a.json"] } .parse ["a.json"] :=
    ⟨program, by simp [Earnest], rfl,
      fun path named => ⟨bytes, Option.some.inj named ▸ opened⟩⟩
  exact ⟨_, settings, FilePath.ofString file, bytes, programs.program_eq, loaded, rfl,
    same.symm ▸ opened, decoded⟩

theorem load_illegibleRules :
    ((Runtime.standard ruleHost).ruleFiles.load illegibleRules).map (fun _ => ()) = .ok () := by
  decide +kernel

/-- The first item is a rule, and the file is blamed for the second. -/
theorem rule_file_ends_blamed :
    let fault : RuleFile.Fault :=
      .badPattern (.text "(") { cause := .unterminatedGroup, position := some 0, source := "(" }
    let runtime := Runtime.standard ruleHost
    ∃ loaded, runtime.ruleFiles.load illegibleRules = .ok loaded ∧
      Ends runtime.ruleFiles loaded (.blamed fault) ∧
      RuleFile.read runtime.ruleFiles illegibleRules = .error fault ∧
      Id.run (run runtime ruleHost (ruleWords "illegible.yaml")) =
        badRuleFile runtime fault.message := by
  intro fault runtime
  obtain ⟨loaded, syntactic, -⟩ := (map_eq_ok_iff _ _ _).mp load_illegibleRules
  have read : RuleFile.read runtime.ruleFiles illegibleRules = .error fault := by decide +kernel
  have reaches : Reaches runtime ruleHost (ruleWords "illegible.yaml") .parse ["a.json"]
      illegibleRules :=
    reaches_ruleWords (by decide +kernel) (by decide +kernel) (by decide +kernel)
  obtain ⟨verdict, only, told, meets⟩ := rule_file_ends runtime illegibleRules loaded syntactic
  obtain rfl : verdict = .blamed fault := told.unique ⟨read, rfl⟩
  exact ⟨loaded, syntactic, (only _).mpr rfl, read, meets _ _ _ _ reaches⟩

/-- The program ends at a list in place of a pattern, and the file is not blamed for it. -/
theorem list_pattern_escapes :
    let fault : RuleFile.Fault := .compoundPattern "list"
    let runtime := Runtime.standard ruleHost
    RuleFile.read runtime.ruleFiles listRules = .error fault ∧ fault.isReported = false ∧
      Id.run (run runtime ruleHost (ruleWords "list.yaml")) = .ofEscape (.ruleFile fault) := by
  intro fault runtime
  have read : RuleFile.read runtime.ruleFiles listRules = .error fault := by decide +kernel
  have reaches : Reaches runtime ruleHost (ruleWords "list.yaml") .parse ["a.json"] listRules :=
    reaches_ruleWords (by decide +kernel) (by decide +kernel) (by decide +kernel)
  have told : Verdict.Told runtime.ruleFiles listRules (.escapes fault) := ⟨read, rfl⟩
  exact ⟨read, rfl, meets_of_told reaches told⟩

end Findings.Command
