import Findings.Backlog
import Findings.Proofs.Cleanup.Peeling
/-!
What a run of rules makes of a defect, for any rules in any order, and what it leaves alone.

* `apply_cweSuffix`, `apply_analyzerClass`: all that one rule can do;
* `run_eq`: the defect behind a run, field by field;
* `frame_run`: the main statement.
-/

namespace Findings

namespace Cleanup

/-! ## The fields that change -/

/-- The weakness number of a defect from whose message these were taken, the first one first: zero
gives way, and nothing else does. -/
def weighed (cwe : Int) : List Suffix → Int
  | [] => cwe
  | s :: ss => weighed (if cwe = 0 then s.number else cwe) ss

theorem weighed_append (cwe : Int) (ss others : List Suffix) :
    weighed cwe (ss ++ others) = weighed (weighed cwe ss) others := by
  induction ss generalizing cwe with
  | nil => rfl
  | cons s ss ih => exact ih _

theorem weighed_of_ne_zero {cwe : Int} (h : cwe ≠ 0) (ss : List Suffix) : weighed cwe ss = cwe := by
  induction ss with
  | nil => rfl
  | cons s ss ih => rw [weighed, if_neg h, ih]

/-- A number changes from zero only, and to one of those that were taken. -/
theorem weighed_cases (cwe : Int) (ss : List Suffix) :
    weighed cwe ss = cwe ∨ cwe = 0 ∧ ∃ s ∈ ss, weighed cwe ss = s.number := by
  induction ss generalizing cwe with
  | nil => exact .inl rfl
  | cons s ss ih =>
    by_cases zero : cwe = 0
    · rw [weighed, if_pos zero]
      rcases ih s.number with same | ⟨-, other, mem, taken⟩
      · exact .inr ⟨zero, s, List.mem_cons_self, same⟩
      · exact .inr ⟨zero, other, List.mem_cons_of_mem s mem, taken⟩
    · exact .inl (weighed_of_ne_zero zero _)

/-- Whether one of the messages that rules meet ends in the name of a warning of the analyzer when
the rule for these looks at it. -/
def meets : List Rule → String → Bool
  | [], _ => false
  | .cweSuffix :: rules, message => meets rules (Rule.cweSuffix.left message)
  | .analyzerClass :: rules, message => endsInAnalyzer message.toList || meets rules message

/-! ## Rules -/

variable {rules : List Rule} {d d' : Defect} {key : Event} {rest : List Event}
  {stem : List Char} {ss : List Suffix}

theorem mapKey_of_trace (ht : d.trace = key :: rest) (f : Event → Event) :
    d.mapKey f = { d with trace := f key :: rest } := by
  unfold Defect.mapKey
  rw [ht]

theorem apply_cweSuffix (ht : d.trace = key :: rest) (peeled : Peeled key.message.toList stem ss)
    (h : Rule.cweSuffix.apply d = .ok d') :
    d' = { d with
      trace := { key with message := Rule.cweSuffix.left key.message } :: rest
      cwe := weighed d.cwe (ss.take 1) } := by
  unfold Rule.apply at h
  rw [ht] at h
  dsimp only at h
  rw [moveCwe, peeled.whole] at h
  rw [Rule.left, peeled.whole]
  cases ss with
  | nil =>
    rw [stacked, (splitCwe?_eq_none_iff _).mpr peeled.bare] at h ⊢
    obtain rfl := Except.ok.inj h
    rw [List.take_nil, weighed, ← ht]
  | cons s ss =>
    rw [stacked, splitCwe?_append] at h ⊢
    simp only [mapKey_of_trace ht] at h
    rw [List.take_succ_cons, List.take_zero, weighed, weighed]
    split at h
    · next zero =>
      obtain ⟨n, read, rfl⟩ := (map_eq_ok_iff _ _ _).mp h
      have number : n = s.number := by
        unfold Decimal.natural at read
        split at read
        · exact (Except.ok.inj read).symm
        · cases read
      rw [if_pos zero, number]
    · next weighty =>
      rw [← Except.ok.inj h, if_neg weighty]

theorem apply_analyzerClass (ht : d.trace = key :: rest) (h : Rule.analyzerClass.apply d = .ok d') :
    d' = { d with
      checker := if d.checker = compilerWarning ∧ endsInAnalyzer key.message.toList then
        analyzerWarning else d.checker } := by
  unfold Rule.apply at h
  rw [ht] at h
  rw [← Except.ok.inj h, classify]
  split <;> rfl

/-- Without events there is nothing to tidy. -/
theorem run_of_no_trace (none : d.trace = []) (rules : List Rule) : run rules d = .ok d := by
  induction rules with
  | nil => rfl
  | cons r rules ih =>
    have idle : r.apply d = .ok d := by
      unfold Rule.apply
      rw [none]
    rw [run, idle]
    exact ih

/-- The defect behind a run. The rule for weakness numbers takes one of them each time, as long as
there are any. -/
theorem run_eq (ht : d.trace = key :: rest) (peeled : Peeled key.message.toList stem ss)
    (h : run rules d = .ok d') :
    d' = { d with
      checker := if d.checker = compilerWarning ∧ meets rules key.message then analyzerWarning
        else d.checker
      trace := { key with message := left rules key.message } :: rest
      cwe := weighed d.cwe (ss.take (rules.count .cweSuffix)) } := by
  induction rules generalizing d key ss with
  | nil =>
    obtain rfl := Except.ok.inj h
    simp [meets, left, weighed, ← ht]
  | cons r rules ih =>
    rw [run] at h
    split at h
    case h_2 => cases h
    case h_1 cleaned applied =>
      cases r with
      | cweSuffix =>
        have eq := apply_cweSuffix ht peeled applied
        have cut : cleaned.trace =
            { key with message := Rule.cweSuffix.left key.message } :: rest := by rw [eq]
        rw [ih cut peeled.shortened h, eq, List.count_cons_self, Nat.add_comm, List.take_add,
          weighed_append]
        rfl
      | analyzerClass =>
        have eq := apply_analyzerClass ht applied
        have same : cleaned.trace = key :: rest := by rw [eq, ht]
        have other : analyzerWarning ≠ compilerWarning := by decide
        rw [ih same peeled h, eq]
        by_cases compiler : d.checker = compilerWarning
        · cases found : endsInAnalyzer key.message.toList <;>
            simp [compiler, found, meets, left, Rule.left, other]
        · simp [compiler, left, Rule.left]

/-- A defect without events is left as it is, and any other one as its key event decides. -/
theorem run_cases (h : run rules d = .ok d') :
    d.trace = [] ∧ d' = d ∨ ∃ key rest stem ss, d.trace = key :: rest ∧
      Peeled key.message.toList stem ss ∧ d' = { d with
        checker := if d.checker = compilerWarning ∧ meets rules key.message then analyzerWarning
          else d.checker
        trace := { key with message := left rules key.message } :: rest
        cwe := weighed d.cwe (ss.take (rules.count .cweSuffix)) } := by
  cases ht : d.trace with
  | nil =>
    rw [run_of_no_trace ht] at h
    exact .inl ⟨rfl, (Except.ok.inj h).symm⟩
  | cons key rest =>
    obtain ⟨stem, ss, peeled⟩ := exists_peeled key.message.toList
    exact .inr ⟨key, rest, stem, ss, rfl, peeled, run_eq ht peeled h⟩

/-! ## What is left alone -/

theorem annotation_run (h : run rules d = .ok d') : d'.annotation = d.annotation := by
  rcases run_cases h with ⟨-, rfl⟩ | ⟨_, _, _, _, -, -, rfl⟩ <;> rfl

theorem checker_cases (h : run rules d = .ok d') :
    d'.checker = d.checker ∨ d.checker = compilerWarning ∧ d'.checker = analyzerWarning := by
  rcases run_cases h with ⟨-, rfl⟩ | ⟨_, _, _, _, -, -, rfl⟩
  · exact .inl rfl
  · dsimp only
    split
    · next recast => exact .inr ⟨recast.1, rfl⟩
    · exact .inl rfl

theorem checker_of_shell (h : run rules d = .ok d')
    (shell : d.checker = Report.ShellLinter.warning) :
    d'.checker = Report.ShellLinter.warning := by
  rcases checker_cases h with same | ⟨compiler, -⟩
  · exact same.trans shell
  · rw [shell] at compiler
    exact absurd compiler (by decide)

theorem fileKey_run {ε : Type} (normalize : Normalizer ε) (h : run rules d = .ok d') :
    Backlog.fileKey normalize d' = Backlog.fileKey normalize d := by
  rcases run_cases h with ⟨-, rfl⟩ | ⟨_, _, _, _, ht, -, rfl⟩
  · rfl
  · rw [Backlog.fileKey, Backlog.fileKey, ht]

/-- What a run leaves of the key event, and what it takes from its message. -/
theorem exists_taken (ht : d.trace = key :: rest) (h : run rules d = .ok d') :
    ∃ message taken, d'.trace = { key with message } :: rest ∧
      key.message.toList = stacked message.toList taken ∧
      (d'.cwe = d.cwe ∨ d.cwe = 0 ∧ ∃ s ∈ taken, d'.cwe = s.number) := by
  obtain ⟨stem, ss, peeled⟩ := exists_peeled key.message.toList
  refine ⟨left rules key.message, ss.take (rules.count .cweSuffix), ?_, ?_, ?_⟩
  · rw [run_eq ht peeled h]
  · rw [left_of_peeled rules peeled, ← stacked_append, List.take_append_drop]
    exact peeled.whole
  · rw [run_eq ht peeled h]
    exact weighed_cases _ _

/-- **The frame.** Whatever rules are run on a defect, and in whatever order: where they come to an
end, the events are those that it had, but for the message of the key event, from whose end some
weakness numbers may be gone. The weakness number of the defect is as before, or it was zero and is
one of those. The checker is as before, or it was that of the compiler and is that of its analyzer.
So the defect is filed under the same path, whatever the paths are brought together by, and what the
shell linter found stays a finding of its own. -/
theorem frame_run (rules : List Rule) (d d' : Defect) (h : run rules d = .ok d') :
    d'.annotation = d.annotation ∧
    (d.trace = [] → d' = d) ∧
    (∀ key rest, d.trace = key :: rest → ∃ message taken,
      d'.trace = { key with message } :: rest ∧
      key.message.toList = stacked message.toList taken ∧
      message.toList <+: key.message.toList ∧
      (d'.cwe = d.cwe ∨ d.cwe = 0 ∧ ∃ s ∈ taken, d'.cwe = s.number)) ∧
    (d'.checker = d.checker ∨ d.checker = compilerWarning ∧ d'.checker = analyzerWarning) ∧
    (∀ (ε : Type) (normalize : Normalizer ε),
      Backlog.fileKey normalize d' = Backlog.fileKey normalize d) ∧
    (d.checker = Report.ShellLinter.warning → d'.checker = Report.ShellLinter.warning) ∧
    (∀ node found, Report.ShellLinter.defect rules node = .ok (some found) →
      found.checker = Report.ShellLinter.warning) := by
  refine ⟨annotation_run h, fun none => ?_, fun key rest ht => ?_, checker_cases h,
    fun ε normalize => fileKey_run normalize h, checker_of_shell h, fun node found read => ?_⟩
  · rw [run_of_no_trace none] at h
    exact (Except.ok.inj h).symm
  · obtain ⟨message, taken, trace, whole, cwe⟩ := exists_taken ht h
    exact ⟨message, taken, trace, whole, whole ▸ prefix_stacked _ _, cwe⟩
  · obtain ⟨key, -, cleaned⟩ := Report.ShellLinter.defect_eq_some found read
    exact checker_of_shell cleaned rfl

/-- Two weakness numbers behind the name of a warning, the first of them zero. -/
def leaky : Defect :=
  { checker := compilerWarning
    trace := [
      { label := "warning", file := "./a.c", message := "p [-Wanalyzer-leak] [CWE-401] [CWE-0]\n" },
      { label := "note", file := "b.c", message := "q [CWE-1]" }]
    annotation := "old" }

/-- The name of the warning is seen once nothing stands behind it any more. -/
theorem frame_run_leaky :
    let rules : List Rule := [.analyzerClass, .cweSuffix, .cweSuffix, .cweSuffix, .analyzerClass]
    let key : Event :=
      { label := "warning", file := "./a.c", message := "p [-Wanalyzer-leak] [CWE-401] [CWE-0]\n" }
    let note : Event := { label := "note", file := "b.c", message := "q [CWE-1]" }
    let tidy : Defect :=
      { checker := analyzerWarning, trace := [{ key with message := "p [-Wanalyzer-leak]" }, note]
        cwe := 401, annotation := "old" }
    run rules leaky = .ok tidy ∧ leaky.trace = [key, note] ∧
    (∃ message taken, tidy.trace = [{ key with message }, note] ∧
      key.message.toList = stacked message.toList taken ∧
      (∃ s ∈ taken, tidy.cwe = s.number)) ∧
    Backlog.fileKey (ε := Empty) .ok tidy = Backlog.fileKey .ok leaky := by
  intro rules key note tidy
  have cleaned : run rules leaky = .ok tidy := by decide +kernel
  obtain ⟨-, -, traces, -, paths, -⟩ := frame_run rules leaky tidy cleaned
  obtain ⟨message, taken, trace, whole, -, same | ⟨-, number⟩⟩ := traces key [note] rfl
  · exact absurd same (by decide)
  · exact ⟨cleaned, rfl, ⟨message, taken, trace, whole, number⟩, paths Empty .ok⟩

end Cleanup

end Findings
