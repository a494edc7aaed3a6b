import Findings.Proofs.Linking.Filing
import Findings.Proofs.Report.Containment
import Findings.Proofs.Report.Traces
/-!
Defects in canonical form: with events, a checker, and a label on each event. Every decoder sees to
this in its own way, and clean-up does not undo it; so filing finds a key event in every defect.

* `Kind.Traced.labelled`, `Kind.named_of_decode`: labels and checkers, one format at a time;
* `Stream.canonical_of_next`: whatever a stream gives is canonical;
* `file_ends`: how filing the defects of a stream can end;
* `canonical_defects`: the main statement, for a document and any number of calls.
-/

namespace Findings

/-- What every consumer of a defect relies on. -/
structure Defect.Canonical (d : Defect) : Prop where
  traced : d.trace ≠ []
  named : d.checker ≠ ""
  labelled : ∀ e ∈ d.trace, e.label ≠ ""

@[simp] theorem Defect.checker_mapKey (f : Event → Event) (d : Defect) :
    (d.mapKey f).checker = d.checker := by
  unfold mapKey
  split <;> rfl

/-! ## Clean-up -/

namespace Cleanup

theorem Rule.checker_apply (r : Rule) (d d' : Defect) (h : r.apply d = .ok d') :
    d'.checker = d.checker ∨ d'.checker = analyzerWarning := by
  unfold Rule.apply at h
  split at h
  · exact .inl (congrArg Defect.checker (Except.ok.inj h)).symm
  · unfold moveCwe at h
    split at h
    · exact .inl (congrArg Defect.checker (Except.ok.inj h)).symm
    · dsimp only at h
      split at h
      · obtain ⟨n, -, rfl⟩ := (map_eq_ok_iff _ _ _).mp h
        exact .inl (Defect.checker_mapKey _ d)
      · rw [← Except.ok.inj h]
        exact .inl (Defect.checker_mapKey _ d)
  · rw [← Except.ok.inj h]
    unfold classify
    split
    · exact .inr rfl
    · exact .inl rfl

/-- Clean-up leaves the checker as it was or puts that of the analyzer in its place. -/
theorem checker_run (rules : List Rule) (d d' : Defect) (h : run rules d = .ok d') :
    d'.checker = d.checker ∨ d'.checker = analyzerWarning := by
  induction rules generalizing d with
  | nil => exact .inl (congrArg Defect.checker (Except.ok.inj h)).symm
  | cons r rules ih =>
    rw [run] at h
    split at h
    · next cleaned applied =>
      rcases ih cleaned h with same | analyzer
      · rw [same]
        exact r.checker_apply d cleaned applied
      · exact .inr analyzer
    · cases h

theorem named_run (rules : List Rule) (d d' : Defect) (h : run rules d = .ok d')
    (named : d.checker ≠ "") : d'.checker ≠ "" := by
  rcases checker_run rules d d' h with same | analyzer
  · rwa [same]
  · rw [analyzer]
    decide

end Cleanup

/-! ## Decoding -/

namespace Report

open Json (Value)

variable {rules : List Cleanup.Rule} {table : Sarif.RuleTable} {node : Value}

theorem Sarif.orElse_ne_empty (s other : String) (h : other ≠ "") : orElse s other ≠ "" := by
  unfold orElse
  split
  · exact h
  · next full => simpa using full

theorem Kind.labelled_of_says (k : Kind) (node : Value) (e : Event) (h : k.Says node e) :
    e.label ≠ "" := by
  cases k with
  | native | issueTracker | shellLinter | compiler => exact Form.Says.labelled h
  | sarif =>
    rw [Sarif.SaysNote.label h]
    decide

theorem Kind.labelled_of_each (k : Kind) {nodes : List Value} {trace : List Event}
    (each : List.Forall₂ k.Says nodes trace) : ∀ e ∈ trace, e.label ≠ "" := by
  intro e mem
  obtain ⟨node, said⟩ := exists_of_forall₂ each.flip mem
  exact k.labelled_of_says node e said

theorem Kind.labelled_of_stands (k : Kind) (node : Value) (e : Event) (h : k.Stands node e) :
    e.label ≠ "" := by
  cases k with
  | native => exact h.elim
  | issueTracker =>
    rw [IssueTracker.SaysMain.label h]
    decide
  | sarif =>
    obtain ⟨ruleId, -, said⟩ := h
    obtain ⟨level, -, label⟩ := said.label
    rw [label]
    exact Sarif.orElse_ne_empty level "warning" (by decide)
  | shellLinter | compiler => exact Form.Says.labelled h

/-- Every event of a trace has a label, whether its node was given one or not. -/
theorem Kind.Traced.labelled {k : Kind} {trace : List Event} (h : k.Traced rules node trace) :
    ∀ e ∈ trace, e.label ≠ "" := by
  cases h with
  | native _ _ each => exact Kind.native.labelled_of_each each
  | issue _ each => exact Kind.issueTracker.labelled_of_each each
  | main _ own =>
    exact List.forall_mem_singleton.mpr (Kind.issueTracker.labelled_of_stands node _ own)
  | @result _ key _ own each =>
    exact List.forall_mem_cons.mpr
      ⟨Kind.sarif.labelled_of_stands node key own, Kind.sarif.labelled_of_each each⟩
  -- Clean-up writes the message of the key event anew, so its label is that of the event before.
  | @diagnostic _ key _ own each _ =>
    exact List.forall_mem_cons.mpr
      ⟨Kind.compiler.labelled_of_stands node key own, Kind.compiler.labelled_of_each each⟩
  | @comment _ key own =>
    exact List.forall_mem_singleton.mpr (Kind.shellLinter.labelled_of_stands node key own)

theorem Compiler.checker_of_raw (d : Defect) (h : raw node = .ok (some d)) :
    d.checker = compilerWarning := by
  simp only [raw, bind_eq_ok_iff] at h
  obtain ⟨event, -, h⟩ := h
  cases event with
  | none => cases h
  | some key =>
    simp only [bind_eq_ok_iff, pure, Except.pure, Except.ok.injEq, Option.some.injEq] at h
    obtain ⟨_, -, _, -, rfl⟩ := h
    rfl

/-- A checker is read, or it is a name of this library's own. -/
theorem Kind.named_of_decode (k : Kind) (d : Defect)
    (h : k.decode rules table node = .ok (some d)) : d.checker ≠ "" := by
  cases k with
  | native =>
    simp only [decode, map_eq_ok_iff, ofField_eq_ok_iff, Option.some.injEq, exists_eq_right] at h
    exact (Native.defect_eq_ok node d h).1
  | issueTracker =>
    simp only [decode, map_eq_ok_iff, Option.some.injEq, exists_eq_right] at h
    exact (IssueTracker.defect_eq_ok d h).1
  | sarif =>
    simp only [decode, map_eq_ok_iff, ofField_eq_ok_iff, Option.some.injEq, exists_eq_right] at h
    obtain ⟨ruleId, -, -, -, -, -, -, checker⟩ := Sarif.defect_eq_ok table node d h
    rw [checker]
    split <;> decide
  | shellLinter =>
    obtain ⟨key, -, cleaned⟩ := ShellLinter.defect_eq_some d h
    have named : ShellLinter.warning ≠ "" := by decide
    exact Cleanup.named_run rules _ d cleaned named
  | compiler =>
    obtain ⟨whole, read, cleaned⟩ := Compiler.defect_eq_some d h
    have named : whole.checker ≠ "" := by
      rw [Compiler.checker_of_raw whole read]
      decide
    exact Cleanup.named_run rules whole d cleaned named

theorem Stream.canonical_of_next (s : Stream) (d : Defect) (h : s.next.defect = .ok (some d)) :
    d.Canonical := by
  obtain ⟨k, c, o, read, given⟩ := s.read_of_next d h
  obtain ⟨node, -, decoded⟩ := (c.read_eq_some_iff k s.rules o).mp read
  rw [given] at decoded
  have decoded := Status.ofDecoded_eq_decoded _ d decoded
  exact ⟨s.trace_next d h, k.named_of_decode d decoded, (k.traced_of_decode d decoded).labelled⟩

end Report

/-! ## Filing -/

namespace Linking

open Backlog

variable {ε : Type}

/-- How filing the defects of a stream can end: with a backlog, at a number too long to be read, or
at a defect for whose file the normalizer has no answer. -/
inductive Ends (normalize : Normalizer ε) (s : Report.Stream) :
    Except (Fault ε) Backlog → Prop where
  | filed (b : Backlog) : Ends normalize s (.ok b)
  | oversize (n : Nat) {o : Decimal.Oversize} (raised : (s.after n).next.defect = .error o) :
      Ends normalize s (.error (.oversize o))
  | path (n : Nat) {d : Defect} {fault : ε} (given : (s.after n).next.defect = .ok (some d))
      (unanswered : normalize (keyFile d) = .error fault) :
      Ends normalize s (.error (.filing (.path fault)))

theorem Ends.behind {normalize : Normalizer ε} {s : Report.Stream}
    {filed : Except (Fault ε) Backlog} (h : Ends normalize s.next.stream filed) :
    Ends normalize s filed := by
  cases h with
  | filed b => exact .filed b
  | oversize n raised => exact .oversize (n + 1) raised
  | path n given unanswered => exact .path (n + 1) given unanswered

/-- A defect with a key event is filed, or the normalizer has no answer for the file of this
event. -/
theorem insert_cases (normalize : Normalizer ε) (b : Backlog) (d : Defect) (h : d.trace ≠ []) :
    (∃ path, normalize (keyFile d) = .ok path ∧ b.insert normalize d = .ok (b.push path d)) ∨
      ∃ fault, normalize (keyFile d) = .error fault ∧
        b.insert normalize d = .error (.path fault) := by
  obtain ⟨key, rest, trace⟩ := List.exists_cons_of_ne_nil h
  have file : keyFile d = key.file := by simp [keyFile, trace]
  rw [file]
  cases answer : normalize key.file with
  | ok path => exact .inl ⟨path, rfl, by simp [Backlog.insert, fileKey, trace, answer, Except.map]⟩
  | error fault =>
    exact .inr ⟨fault, rfl, by simp [Backlog.insert, fileKey, trace, answer, Except.map]⟩

theorem file_ends (normalize : Normalizer ε) (s : Report.Stream) (b : Backlog) :
    Ends normalize s (file normalize b s).backlog := by
  fun_induction file normalize b s with
  | case1 b s step o raised => exact .oversize 0 raised
  | case2 b s step ended => exact .filed b
  | case3 b s step d given fault refused =>
    rcases insert_cases normalize b d (s.trace_next d given) with
      ⟨path, -, inserted⟩ | ⟨fault', unanswered, refused'⟩
    · cases inserted.symm.trans refused
    · obtain rfl : fault = .path fault' := Except.error.inj (refused.symm.trans refused')
      exact .path 0 given unanswered
  | case4 b s step d given next inserted filed ih => exact ih.behind

theorem claims_ne_filing (normalize : Normalizer ε) (document : String) (b : Backlog)
    (source : QuerySource) (fault : FilingFault ε) :
    (claim normalize document b source).claims ≠ .error (.filing fault) := by
  fun_induction claim normalize document b source with
  | case1 => nofun
  | case2 => nofun
  | case3 => nofun
  | case4 _ _ _ _ _ _ _ _ _ _ ih => exact fun same => ih ((map_eq_error_iff _ _ _).mp same)
  | case5 _ _ _ _ _ _ _ _ _ ih => exact fun same => ih ((map_eq_error_iff _ _ _).mp same)

theorem run_ne_noTrace (normalize : Normalizer ε) (s : Report.Stream) (source : QuerySource) :
    (run normalize s source).linking ≠ .error (.filing .noTrace) := by
  have ends := file_ends normalize s {}
  unfold run
  dsimp only
  split
  · nofun
  · split
    · next fault failed =>
      rw [failed] at ends
      intro same
      rw [Except.error.inj same] at ends
      cases ends
    · split
      · next fault failed =>
        intro same
        rw [Except.error.inj same] at failed
        exact claims_ne_filing normalize _ _ source .noTrace failed
      · nofun

/-- **Defects are canonical.** A stream may be that of any document, in any format, with any rules
to clean up by, and wherever it has come to: the defect that it gives next has an event, a checker,
and a label on each of its events. Such a defect can be filed, unless the normalizer has no answer
for its file. So filing what a stream still gives ends with a backlog or for a reason that no defect
is to blame for, and no run fails for want of a key event. -/
theorem canonical_defects (s : Report.Stream) :
    (∀ d, s.next.defect = .ok (some d) → d.Canonical ∧
      ∀ (ε : Type) (normalize : Normalizer ε) (b : Backlog),
        (∃ path, normalize (keyFile d) = .ok path ∧
          b.insert normalize d = .ok (b.push path d)) ∨
        ∃ fault, normalize (keyFile d) = .error fault ∧
          b.insert normalize d = .error (.path fault)) ∧
    ∀ (ε : Type) (normalize : Normalizer ε),
      (∀ b, Ends normalize s (file normalize b s).backlog) ∧
      ∀ source, (run normalize s source).linking ≠ .error (.filing .noTrace) := by
  refine ⟨fun d given => ?_, fun ε normalize => ?_⟩
  · have canonical : d.Canonical := s.canonical_of_next d given
    exact ⟨canonical, fun ε normalize b => insert_cases normalize b d canonical.traced⟩
  · exact ⟨file_ends normalize s, run_ne_noTrace normalize s⟩

/-- A diagnostic whose kind is a number, with a child without a kind and one with a kind. -/
def numberedDiagnostic : Report.Stream :=
  let diagnostic : Json.Value :=
    .object [("kind", .int 7), ("message", .text "leak [-Wanalyzer-leak] [CWE-401]"),
      ("children", .array [.object [], .object [("kind", .text "note")]])]
  { document := { name := "report.json", text := "" }
    rules := [.cweSuffix, .analyzerClass, .cweSuffix]
    kind := some .compiler
    cursor := some (.compiler, .ofRecords [diagnostic]) }

/-- The number is a label, the mute child is left out, and cleaning up takes from the message
only. -/
theorem canonical_defects_cleaned :
    let d : Defect :=
      { checker := analyzerWarning
        trace := [{ label := "7", message := "leak [-Wanalyzer-leak]" },
          { label := "note", message := unknownMessage }]
        cwe := 401 }
    numberedDiagnostic.next.defect = .ok (some d) ∧ d.Canonical ∧
      (run (always id : Normalizer Unit) numberedDiagnostic (.list [])).linking ≠
        .error (.filing .noTrace) := by
  intro d
  have given : numberedDiagnostic.next.defect = .ok (some d) := by decide +kernel
  obtain ⟨each, loading⟩ := canonical_defects numberedDiagnostic
  exact ⟨given, (each d given).1, (loading Unit (always id)).2 (.list [])⟩

end Linking

end Findings
