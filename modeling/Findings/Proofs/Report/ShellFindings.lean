import Findings.Proofs.Backlog.Stock
import Findings.Proofs.Report.OwnRules
import Findings.Proofs.Report.Recognisers
import Findings.Proofs.Report.Written
/-!
A finding of the shell linter, told by the linter itself and as a result in a SARIF log.

* `Cleanup.run_of_settled`: clean-up leaves a defect alone if its message has no weakness suffix;
* `splitCwe?_of_no_dash`: a message that ends in the name of a rule has none, whatever is before it;
* `defect_comment`, `defect_result`: the defect of the comment, and that of the result;
* `shell_finding_agrees`: the main statement, with the key under which the defect is filed.
-/

namespace Findings

namespace Cleanup

/-- A bracket that ends in digits, but not behind a dash, holds no weakness number. -/
theorem splitCwe?_of_no_dash (front digits : List Char) (c : Char) (all : ∀ d ∈ digits, d.isDigit)
    (other : c.isDigit = false) (dash : c ≠ '-') :
    splitCwe? (front ++ c :: (digits ++ [']'])) = none := by
  have reversed : reversedBody (front ++ c :: (digits ++ [']'])) =
      ']' :: (digits.reverse ++ c :: front.reverse) := by
    simp [reversedBody]
  have all : ∀ d ∈ digits.reverse, d.isDigit := fun d mem => all d (List.mem_reverse.mp mem)
  have behind : (digits.reverse ++ c :: front.reverse).dropWhile Char.isDigit =
      c :: front.reverse := by
    rw [List.dropWhile_append_of_pos all, List.dropWhile_cons_of_neg (by simp [other])]
  simp only [splitCwe?, reversed, behind]
  split
  · rfl
  · split
    · next same => exact absurd (List.cons.inj same).1 dash
    · rfl

/-- No rule has anything to do. -/
theorem run_of_settled (rules : List Rule) {d : Defect} {key : Event} {rest : List Event}
    (ht : d.trace = key :: rest) (whole : splitCwe? key.message.toList = none)
    (checker : d.checker ≠ compilerWarning) : run rules d = .ok d := by
  induction rules with
  | nil => rfl
  | cons r rules ih =>
    have still : r.apply d = .ok d := by
      unfold Rule.apply
      rw [ht]
      cases r with
      | cweSuffix =>
        dsimp only
        rw [moveCwe, whole]
      | analyzerClass =>
        dsimp only
        rw [classify, if_neg (fun h => checker h.1)]
    rw [run, still]
    exact ih

end Cleanup

namespace Report

open Json (Value)

/-- What the shell linter finds: a place, a level, a message, and the number of a rule. -/
structure ShellFinding where
  level : String
  file : String
  line : Int
  column : Int
  message : String
  code : Nat
  deriving DecidableEq, Repr

namespace ShellFinding

variable (f : ShellFinding)

/-- The name of the rule. -/
def ruleName : String := "SC" ++ toString f.code

/-- The finding as a comment of the linter. -/
def comment : Value :=
  ShellLinter.form.written [("code", .int f.code)]
    { label := f.level, file := f.file, line := f.line, column := f.column, message := f.message }

/-- The place of the finding in a SARIF log. -/
def location : Value :=
  .object [("physicalLocation", .object
    [("artifactLocation", .object [("uri", .text f.file)]),
      ("region", .object [("startLine", .int f.line), ("startColumn", .int f.column)])])]

/-- The finding as a result in a SARIF log. -/
def result : Value :=
  .object [("level", .text f.level), ("ruleId", .text f.ruleName),
    ("message", .object [("text", .text f.message)]), ("locations", .array [f.location])]

/-- The one event of the finding; the rule is named behind the message. -/
def event : Event :=
  { label := f.level, file := f.file, line := f.line, column := f.column
    message := f.message ++ " [SC" ++ toString f.code ++ "]" }

def defect : Defect := { checker := "SHELLCHECK_WARNING", trace := [f.event], cwe := 0 }

/-! ## The name of the rule -/

theorem toList_ruleName : f.ruleName.toList = 'S' :: 'C' :: Nat.toDigits 10 f.code := by
  have digits : (toString f.code).toList = Nat.toDigits 10 f.code := Decimal.toList_toString f.code
  rw [ruleName, String.toList_append, digits]
  rfl

theorem ruleName_ne_empty : f.ruleName ≠ "" := by
  intro empty
  have := f.toList_ruleName
  simp [empty] at this

/-- The linter puts the same name together from the number. -/
theorem ruleTag_code : ShellLinter.ruleTag (toString (f.code : Int)) = f.ruleName := by
  have some : toString (f.code : Int) ≠ "" := by
    intro empty
    have digits := Decimal.toList_toString f.code
    rw [empty] at digits
    exact Nat.toDigits_ne_nil digits.symm
  rw [ShellLinter.ruleTag, if_neg (by simpa using some)]
  rfl

theorem tagged_ruleName : Compiler.tagged f.message f.ruleName = f.event.message := by
  have tagged : Compiler.tagged f.message f.ruleName =
      f.message ++ " [" ++ ("SC" ++ toString f.code) ++ "]" :=
    if_neg (by simpa using f.ruleName_ne_empty)
  calc Compiler.tagged f.message f.ruleName
      = f.message ++ (" [" ++ "SC") ++ toString f.code ++ "]" := by
        rw [tagged]
        simp only [String.append_assoc]
    _ = f.event.message := rfl

theorem isShellRule_ruleName : Sarif.isShellRule f.ruleName = true := by
  have numeral : Sarif.Numeral (Nat.toDigits 10 f.code) :=
    ⟨Nat.toDigits_ne_nil, fun c => Decimal.isDigit_of_mem_toDigits⟩
  exact (Sarif.isShellRule_iff _).mpr (.inl ⟨_, numeral, f.toList_ruleName⟩)

/-- Clean-up does nothing, even if the message would be cut without the name behind it. -/
theorem run_defect (rules : List Cleanup.Rule) : Cleanup.run rules f.defect = .ok f.defect := by
  have other : ShellLinter.warning ≠ compilerWarning := by decide
  have whole : f.event.message.toList =
      f.message.toList ++ " [S".toList ++ 'C' :: (Nat.toDigits 10 f.code ++ [']']) := by
    simp [event]
  have settled : Cleanup.splitCwe? f.event.message.toList = none := by
    rw [whole]
    exact Cleanup.splitCwe?_of_no_dash _ _ 'C' (fun c => Decimal.isDigit_of_mem_toDigits)
      (by decide) (by decide)
  exact Cleanup.run_of_settled rules rfl settled other

/-! ## Decoding -/

variable {f}

theorem defect_comment (labelled : f.level ≠ "") (rules : List Cleanup.Rule) :
    ShellLinter.defect rules f.comment = .ok (some f.defect) := by
  have tags : ShellLinter.form.tag f.comment = .ok f.ruleName := by
    have code : Field.text f.comment "code" "" = .ok (toString (f.code : Int)) :=
      Field.text_of_int rfl ""
    change (Field.text f.comment "code" "").map ShellLinter.ruleTag = _
    rw [code, ← f.ruleTag_code]
    rfl
  have said : ShellLinter.form.Says f.comment f.event := by
    have written := ShellLinter.form.says_written ShellLinter.flat_form [("code", .int f.code)]
      { label := f.level, file := f.file, line := f.line, column := f.column
        message := f.message } labelled tags
    rwa [tagged_ruleName] at written
  have read := (ShellLinter.event?_eq_some_iff f.comment f.event).mpr said
  unfold ShellLinter.defect
  rw [read]
  change (do return some (← ofDigits (Cleanup.run rules f.defect))) = _
  rw [f.run_defect rules]
  rfl

theorem withoutScheme_of_not_prefix {uri : String}
    (plain : ¬"file://".toList <+: uri.toList) : Sarif.withoutScheme uri = uri := by
  have none : "file://".toList.isPrefixOf? uri.toList = none := by
    rw [Option.eq_none_iff_forall_ne_some]
    intro path found
    exact plain ⟨path, List.isPrefixOf?_eq_some_iff_append_eq.mp found⟩
  rw [Sarif.withoutScheme, none]

theorem placed_location (filed : f.file ≠ "") (plain : ¬"file://".toList <+: f.file.toList) :
    Sarif.Placed f.location f.event := by
  have uri : (if f.file.isEmpty then unknownFile else Sarif.withoutScheme f.file) = f.file := by
    rw [if_neg (by simpa using filed), withoutScheme_of_not_prefix plain]
  exact ⟨⟨f.file, rfl, uri.symm⟩, rfl, rfl⟩

theorem defect_result (labelled : f.level ≠ "") (filed : f.file ≠ "")
    (plain : ¬"file://".toList <+: f.file.toList) (table : Sarif.RuleTable)
    (unweighted : (Assoc.get? f.ruleName table).getD 0 = 0) :
    Sarif.defect table f.result = .ok f.defect := by
  have level : f.level = Sarif.orElse f.level "warning" :=
    (if_neg (by simpa using labelled)).symm
  have key : Sarif.SaysKey f.ruleName f.result f.event :=
    ⟨⟨f.level, rfl, level⟩, placed_location filed plain, f.message, rfl, f.tagged_ruleName.symm⟩
  have read := (Sarif.keyEvent_eq_ok_iff f.ruleName f.result f.event).mpr key
  simp only [Sarif.defect, bind_eq_ok_iff, pure, Except.pure, Except.ok.injEq]
  refine ⟨(), rfl, f.ruleName, rfl, f.event, read, [], rfl, ?_⟩
  rw [unweighted, isShellRule_ruleName]
  rfl

/-- **Both formats tell the same finding.** With a level and with a file that is no address, the
comment of the linter and the result in a run whose rules can be read and have no weakness number
for the rule are decoded to one and the same defect, whatever the message ends in and whatever rules
clean up. So its key is the same: the checker of the linter, and what a normalizer makes of the
file. -/
theorem shell_finding_agrees (f : ShellFinding) (labelled : f.level ≠ "") (filed : f.file ≠ "")
    (plain : ¬"file://".toList <+: f.file.toList) (cleaning : List Cleanup.Rule)
    (rules : List Value) (table : Sarif.RuleTable) (legible : Sarif.addRules [] rules = .ok table)
    (unweighted : Sarif.weakness rules f.ruleName = .ok 0) :
    let d : Defect :=
      { checker := "SHELLCHECK_WARNING", cwe := 0
        trace := [{ label := f.level, file := f.file, line := f.line, column := f.column
                    message := f.message ++ " [SC" ++ toString f.code ++ "]" }] }
    Kind.shellLinter.status cleaning { node := f.comment } = .ok (.decoded d) ∧
      Kind.sarif.status cleaning { rules, table, node := f.result, legible } = .ok (.decoded d) ∧
      ∀ (ε : Type) (normalize : Normalizer ε),
        Backlog.fileKey normalize d = (normalize f.file).mapError .path := by
  intro d
  have kept : Status.ofDefect f.defect = .decoded d := rfl
  refine ⟨?_, ?_, fun ε normalize => ?_⟩
  · rw [Kind.status, Kind.decode, defect_comment labelled, ← kept]
    rfl
  · have none : (Assoc.get? f.ruleName table).getD 0 = 0 :=
      Except.ok.inj ((Sarif.weakness_eq table rules legible f.ruleName).symm.trans unweighted)
    rw [Kind.status, Kind.decode, defect_result labelled filed plain _ none, ← kept]
    rfl
  · unfold Backlog.fileKey
    dsimp only [d]
    cases normalize f.file <;> rfl

/-- The message ends like one with a weakness number, and the run has such a number for another
rule. -/
theorem shell_finding_agrees_bracketed :
    let f : ShellFinding :=
      { level := "info", file := "./a.sh", line := 3, column := 5, message := "quote this [CWE-78]"
        code := 2086 }
    let rules : List Value :=
      [.object [("id", .text "SC2154"), ("properties", .object [("cwe", .int 457)])]]
    let d : Defect :=
      { checker := "SHELLCHECK_WARNING"
        trace := [{ label := "info", file := "./a.sh", line := 3, column := 5
                    message := "quote this [CWE-78] [SC2086]" }] }
    f.level ≠ "" ∧ f.file ≠ "" ∧ ¬"file://".toList <+: f.file.toList ∧
      Sarif.weakness rules f.ruleName = .ok 0 ∧
      Kind.shellLinter.status [.cweSuffix, .analyzerClass] { node := f.comment } =
        .ok (.decoded d) ∧
      Kind.sarif.status [.cweSuffix, .analyzerClass]
        { rules, table := [("SC2154", 457)], node := f.result } = .ok (.decoded d) ∧
      Backlog.fileKey (Backlog.always (ε := Unit) fun _ => "a.sh") d = .ok "a.sh" := by
  intro f rules d
  have plain : ¬"file://".toList <+: f.file.toList := by decide
  have unweighted : Sarif.weakness rules f.ruleName = .ok 0 := by decide
  obtain ⟨comment, result, key⟩ := shell_finding_agrees f (by decide) (by decide) plain
    [.cweSuffix, .analyzerClass] rules [("SC2154", 457)] rfl unweighted
  have same : f.defect = d := by decide
  rw [← same]
  exact ⟨by decide, by decide, plain, unweighted, comment, result, key Unit _⟩

end ShellFinding

end Report

end Findings
