import Findings.Proofs.Backlog.Soundness
import Findings.Proofs.Linking.Matching
import Findings.Proofs.Report.Ahead
/-!
Runs on one stream, one after another, each with queries and a normalizer of its own. Some of them
may fail on the way.

* `ahead_file`, `perm_claim`, `ahead_run`: what a run reports was ahead of the stream, and it is not
  any more;
* `run_spent`: behind a run that had a result, there is nothing to report;
* `reported_once`: the main statement.
-/

namespace Findings.Linking

open Backlog Report

variable {ε : Type}

/-! ## Filing -/

section Filing

variable (normalize : Normalizer ε) (b : Backlog) (s : Stream)

theorem kept_file : Stream.Kept s (file normalize b s).stream := by
  fun_induction file normalize b s with
  | case1 b s => exact s.kept_next
  | case2 b s => exact s.kept_next
  | case3 b s => exact s.kept_next
  | case4 b s step d answer next inserted filed ih => exact s.kept_next.trans ih

/-- What waits in a backlog, if there is one. -/
def waiting : Except (Fault ε) Backlog → List Defect
  | .ok b => b.toList
  | .error _ => []

/-- What waits behind filing, or is still ahead of it, did so before. -/
theorem ahead_file :
    (waiting (file normalize b s).backlog ++ (file normalize b s).stream.ahead).Subperm
      (b.toList ++ s.ahead) := by
  -- Of a defect that cannot be filed, and of those filed before it, nothing is left.
  have lost (b : Backlog) (s : Stream) :
      ([] ++ s.next.stream.ahead).Subperm (b.toList ++ s.ahead) :=
    (((List.sublist_append_right _ _).trans s.ahead_next).trans
      (List.sublist_append_right _ _)).subperm
  fun_induction file normalize b s with
  | case1 b s => exact lost b s
  | case2 b s =>
    exact (((List.sublist_append_right _ _).trans s.ahead_next).append_left b.toList).subperm
  | case3 b s => exact lost b s
  | case4 b s step d answer next inserted filed ih =>
    have first := s.ahead_next
    rw [answer] at first
    have behind := (perm_insert inserted).append_right step.stream.ahead
    rw [List.append_assoc] at behind
    exact ih.trans (behind.subperm.trans (first.append_left b.toList).subperm)

theorem wellFormed_file (hb : b.WellFormed) {b' : Backlog}
    (h : (file normalize b s).backlog = .ok b') : b'.WellFormed := by
  fun_induction file normalize b s with
  | case1 => cases h
  | case2 b s step none => exact Except.ok.inj h ▸ hb
  | case3 => cases h
  | case4 b s step d answer next inserted filed ih => exact ih (hb.insert inserted) h

/-- Filing comes to its end only with the stream. -/
theorem spent_file {b' : Backlog} (h : (file normalize b s).backlog = .ok b') :
    (file normalize b s).stream.Spent := by
  fun_induction file normalize b s with
  | case1 => cases h
  | case2 b s step none => exact Stream.spent_of_none none
  | case3 => cases h
  | case4 b s step d answer next inserted filed ih => exact ih h

end Filing

/-! ## Claiming -/

/-- Whatever the normalizer does, each defect is still waiting or was given to one query. -/
theorem perm_claim (normalize : Normalizer ε) (document : String) (b : Backlog)
    (source : QuerySource) (hb : b.WellFormed) :
    ∀ c, (claim normalize document b source).claims = .ok c →
      (c.matched.map Prod.snd ++ c.backlog.toList).Perm b.toList := by
  fun_induction claim normalize document b source with
  | case1 => nofun
  | case2 =>
    intro c h
    rw [← Except.ok.inj h]
    exact .refl _
  | case3 => nofun
  | case4 b source step q answer taken found rest d some ih =>
    intro c h
    obtain ⟨c, behind, rfl⟩ := (map_eq_ok_iff _ _ _).mp h
    have whole := perm_lookup hb found
    rw [some] at whole
    exact ((ih (hb.lookup found) c behind).cons d).trans whole
  | case5 b source step q answer taken found rest none ih =>
    intro c h
    obtain ⟨c, behind, rfl⟩ := (map_eq_ok_iff _ _ _).mp h
    have whole := perm_lookup hb found
    rw [none] at whole
    exact (ih (hb.lookup found) c behind).trans whole

/-! ## A run -/

/-- The defects that a run reports; one without a result reports none. -/
def reported (r : Run ε) : List Defect :=
  match r.linking with
  | .ok l => l.matched.map Prod.snd ++ l.unclaimed
  | .error _ => []

/-- A run with a result has filed all defects and asked all queries. -/
theorem run_eq_ok {normalize : Normalizer ε} {s : Stream} {source : QuerySource} {l : Linking}
    (h : (run normalize s source).linking = .ok l) :
    ∃ b c, s.fatal = none ∧ (file normalize {} s).backlog = .ok b ∧
      (claim normalize s.document.name b source).claims = .ok c ∧
      l =
        { document := s.document.name
          matched := c.matched
          unmatched := c.unmatched
          unclaimed := c.backlog.toList
          scanProps := s.scanProps
          parseError := (file normalize {} s).stream.document.hasError
          queryError := c.queryError } := by
  unfold run at h
  dsimp only at h
  split at h
  · cases h
  · next live =>
    split at h
    · cases h
    · next b filed =>
      split at h
      · cases h
      · next c claimed => exact ⟨b, c, live, filed, claimed, (Except.ok.inj h).symm⟩

theorem stream_run {normalize : Normalizer ε} {s : Stream} (source : QuerySource)
    (live : s.fatal = none) :
    (run normalize s source).stream = (file normalize {} s).stream := by
  unfold run
  rw [live]
  dsimp only
  split
  · rfl
  · split <;> rfl

theorem run_of_fatal (normalize : Normalizer ε) {s : Stream} (source : QuerySource) {fatal : Fatal}
    (h : s.fatal = some fatal) :
    run normalize s source =
      { linking := .error (.document s.document.name fatal), stream := s } := by
  unfold run
  rw [h]

/-- **One run.** What it reports was ahead of the stream, and it is not any more. -/
theorem ahead_run (normalize : Normalizer ε) (s : Stream) (source : QuerySource) :
    (reported (run normalize s source) ++ (run normalize s source).stream.ahead).Subperm
      s.ahead := by
  cases live : s.fatal with
  | some fatal =>
    rw [run_of_fatal normalize source live]
    exact .refl _
  | none =>
    rw [stream_run source live]
    have filed := ahead_file normalize {} s
    cases result : (run normalize s source).linking with
    | error fault =>
      rw [reported, result]
      exact ((List.sublist_append_right _ _).subperm).trans filed
    | ok l =>
      obtain ⟨b, c, -, all, claimed, rfl⟩ := run_eq_ok result
      have wf := wellFormed_file normalize {} s wellFormed_empty all
      rw [all] at filed
      rw [reported, result]
      exact ((perm_claim normalize _ b source wf c claimed).append_right _).subperm.trans filed

theorem file_of_spent (normalize : Normalizer ε) (b : Backlog) {s : Stream} (spent : s.Spent) :
    file normalize b s = { backlog := .ok b, stream := s } := by
  rw [file_of_none normalize s b (by rw [spent]), spent]

/-- On a spent stream, a run has no defects to report, and its queries are in vain. The normalizer
is not asked anything. -/
theorem run_spent (normalize : Normalizer ε) {s : Stream} (spent : s.Spent) (live : s.fatal = none)
    (source : QuerySource) (qs : List Query) (h : source.queries = .ok qs) :
    (run normalize s source).linking = .ok
      { document := s.document.name
        unmatched := qs
        scanProps := s.scanProps
        parseError := s.document.hasError
        queryError := source.faulty } := by
  have filed := file_of_spent normalize {} spent
  obtain ⟨c, claimed, flag, settled⟩ := claim_settled (N := id) normalize wellFormed_empty
    s.document.name source qs h fun _ _ there => absurd there List.not_mem_nil
  obtain ⟨matched, unclaimed⟩ := List.append_eq_nil_iff.mp settled.perm.symm.eq_nil
  have unmatched : c.unmatched = qs := settled.unmatched.trans (Keyed.leftover_zero _ qs)
  rw [run_of_ok normalize s source {} c live (by rw [filed]) claimed, filed,
    List.map_eq_nil_iff.mp matched, unclaimed, unmatched, flag]

theorem stream_run_spent (normalize : Normalizer ε) {s : Stream} (spent : s.Spent)
    (live : s.fatal = none) (source : QuerySource) :
    (run normalize s source).stream = s := by
  rw [stream_run source live, file_of_spent normalize {} spent]

/-! ## Successive runs -/

/-- What a run is given besides the stream. -/
structure Task (ε : Type) where
  normalize : Normalizer ε
  source : QuerySource

/-- Runs on one stream, each on what the one before has left of it. -/
def runs : Stream → List (Task ε) → List (Run ε)
  | _, [] => []
  | s, t :: ts =>
    run t.normalize s t.source :: runs (run t.normalize s t.source).stream ts

theorem runs_of_fatal {s : Stream} {fatal : Fatal} (h : s.fatal = some fatal)
    (tasks : List (Task ε)) :
    ∀ r ∈ runs s tasks,
      r = { linking := .error (.document s.document.name fatal), stream := s } := by
  induction tasks with
  | nil => exact fun _ mem => absurd mem List.not_mem_nil
  | cons t ts ih =>
    rw [runs, run_of_fatal t.normalize t.source h, List.forall_mem_cons]
    exact ⟨rfl, ih⟩

theorem runs_of_spent {s : Stream} (spent : s.Spent) (live : s.fatal = none)
    (tasks : List (Task ε)) :
    runs s tasks = tasks.map fun t => run t.normalize s t.source := by
  induction tasks with
  | nil => rfl
  | cons t ts ih => rw [runs, stream_run_spent t.normalize spent live, ih, List.map_cons]

/-- All runs together report what was ahead of the first one, and no defect twice. -/
theorem ahead_runs (s : Stream) (tasks : List (Task ε)) :
    ((runs s tasks).flatMap reported).Subperm s.ahead := by
  induction tasks generalizing s with
  | nil => exact List.nil_subperm
  | cons t ts ih =>
    rw [runs, List.flatMap_cons]
    exact ((List.subperm_append_left _).mpr (ih _)).trans (ahead_run t.normalize s t.source)

/-- What a run comes to behind one that had a result. -/
structure Idle (l : Linking) (qs : List Query) (l' : Linking) : Prop where
  matched : l'.matched = []
  unclaimed : l'.unclaimed = []
  unmatched : l'.unmatched = qs
  scanProps : l'.scanProps = l.scanProps
  parseError : l'.parseError = l.parseError

theorem idle_runs (s : Stream) (tasks : List (Task ε)) :
    (tasks.zip (runs s tasks)).Pairwise fun first later =>
      ∀ l qs, first.2.linking = .ok l → later.1.source.queries = .ok qs →
        ∃ l', later.2.linking = .ok l' ∧ Idle l qs l' := by
  induction tasks generalizing s with
  | nil => exact .nil
  | cons t ts ih =>
    rw [runs, List.zip_cons_cons, List.pairwise_cons]
    refine ⟨fun later mem l qs result answer => ?_, ih _⟩
    obtain ⟨b, c, live, filed, -, rfl⟩ := run_eq_ok result
    have kept := kept_file t.normalize {} s
    have spent := spent_file t.normalize {} s filed
    rw [stream_run t.source live, runs_of_spent spent (kept.fatal.trans live),
      ← List.map_prod_left_eq_zip] at mem
    obtain ⟨t', -, rfl⟩ := List.mem_map.mp mem
    exact ⟨_, run_spent t'.normalize spent (kept.fatal.trans live) t'.source qs answer,
      rfl, rfl, rfl, kept.scanProps, rfl⟩

/-- **At most once.** Runs on one stream report, all together, defects of different records: however
many they are, whatever their queries, and wherever a normalizer lets one of them down. If the
document yields nothing, none of them has a result. If one of them has a result, there is nothing
left for those behind it, whose queries are all in vain; they know the same of the document. -/
theorem reported_once {depths : Json.Depths} {d : Document} {rules : List Cleanup.Rule} {s : Stream}
    {notices : List Notice} (opened : Stream.ofDocument depths d rules = .ok (s, notices))
    (tasks : List (Task ε)) :
    (∃ os, os.Sublist (outcomesOf depths d rules) ∧
      ((runs s tasks).flatMap reported).Perm (defectsOf os)) ∧
    (∀ fatal, s.fatal = some fatal → ∀ r ∈ runs s tasks,
      r = { linking := .error (.document d.name fatal), stream := s }) ∧
    (tasks.zip (runs s tasks)).Pairwise fun first later =>
      ∀ l qs, first.2.linking = .ok l → later.1.source.queries = .ok qs →
        ∃ l', later.2.linking = .ok l' ∧ Idle l qs l' := by
  refine ⟨?_, fun fatal h => ?_, idle_runs s tasks⟩
  · obtain ⟨ds, same, part⟩ := ahead_runs s tasks
    rw [Stream.ahead_opened opened] at part
    obtain ⟨os, among, rfl⟩ := List.sublist_filterMap_iff.mp part
    exact ⟨os, among, same.symm⟩
  · rw [← Stream.name_of_opened opened]
    exact runs_of_fatal h tasks

/-- Three comments, one of them on a file without a path. -/
def threeComments : Document where
  name := "sh.json"
  text := "\x7b\"comments\":[\x7b\"level\":\"e\",\"file\":\"a.sh\"\x7d," ++
    "\x7b\"level\":\"e\",\"file\":\"lost\"\x7d,\x7b\"level\":\"e\",\"file\":\"c.sh\"\x7d]\x7d"

/-- The first run is let down midway and reports nothing, the second one reports what is left, and
the third one finds nothing any more. On an empty text, all of them fail. -/
theorem reported_once_three :
    let normalize : Normalizer Unit := fun path => if path = "lost" then .error () else .ok path
    let query : Query := { id := 7, checker := "SHELLCHECK_WARNING", file := "c.sh" }
    let task : Task Unit := { normalize, source := .list [query] }
    let tasks := [task, task, task]
    let depths : Json.Depths := ⟨100, 100⟩
    (∃ s, Stream.ofDocument depths threeComments [] = .ok (s, []) ∧ s.fatal = none ∧
      (∃ os, os.Sublist (outcomesOf depths threeComments []) ∧
        ((runs s tasks).flatMap reported).Perm (defectsOf os)) ∧
      ∃ first second third l l', runs s tasks = [first, second, third] ∧ reported first = [] ∧
        second.linking = .ok l ∧ (l.matched.map Prod.fst, l.unclaimed) = ([query], []) ∧
        third.linking = .ok l' ∧ Idle l [query] l') ∧
    ∃ s log fatal, Stream.ofDocument depths { name := "no.json", text := "" } [] = .ok (s, log) ∧
      s.fatal = some fatal ∧
      ∀ r ∈ runs s tasks, r = { linking := .error (.document "no.json" fatal), stream := s } := by
  intro normalize query task tasks depths
  let node (file : String) : Json.Value := .object [("level", .text "e"), ("file", .text file)]
  let c : Cursor := .ofRecords [node "a.sh", node "lost", node "c.sh"]
  let s := (Stream.live threeComments [] .shellLinter c (.ok [])).1
  have opened : Stream.ofDocument depths threeComments [] = .ok (s, []) := by rfl
  obtain ⟨once, -, idle⟩ := reported_once opened tasks
  let first := run normalize s (.list [query])
  let second := run normalize first.stream (.list [query])
  let third := run normalize second.stream (.list [query])
  have all : runs s tasks = [first, second, third] := rfl
  have failed : reported first = [] := by decide +kernel
  have answered : (second.linking.map fun l => (l.matched.map Prod.fst, l.unclaimed)).toOption =
      some ([query], []) := by decide +kernel
  obtain ⟨l, result⟩ : ∃ l, second.linking = .ok l := by
    cases result : second.linking with
    | ok l => exact ⟨l, rfl⟩
    | error fault =>
      rw [result] at answered
      cases answered
  rw [result] at answered
  rw [all] at idle once
  have behind := (List.pairwise_cons.mp (List.pairwise_cons.mp idle).2).1 (task, third)
  obtain ⟨l', result', rest⟩ := behind List.mem_cons_self l [query] result rfl
  have refused : ∃ s log fatal,
      Stream.ofDocument depths { name := "no.json", text := "" } [] = .ok (s, log) ∧
      s.fatal = some fatal := ⟨_, _, _, rfl, rfl⟩
  obtain ⟨broken, log, fatal, opened', none⟩ := refused
  refine ⟨⟨s, opened, rfl, all ▸ once, first, second, third, l, l', all, failed, result,
    Option.some.inj answered, result', rest⟩, broken, log, fatal, opened', none, ?_⟩
  exact (reported_once opened' tasks).2.1 fatal none

end Findings.Linking
