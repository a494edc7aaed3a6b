import Findings.Proofs.Linking.Claiming
import Findings.Proofs.Linking.Filing
/-!
What a run links. The queries of a key get the defects of this key in the order of the document; who
comes too late is left over on its side.

* `run_answered`: a run on a live stream has an outcome, said in terms of the defects that the
  stream still gives and the queries that the source still has, if the normalizer has an answer for
  the paths that come up;
* `run_settled`: so it has under a normalizer that has an answer for every path;
* `run_matching`: the main statement, with nothing lost and nothing used twice.
-/

namespace Findings.Linking

open Backlog Keyed

variable {ε : Type} (N : String → String)

/-- The defects `xs` by checkers in the order in which `all` first has them, then by files in the
order in which `all` first has them for the checker. -/
def inFilingOrder (all xs : List Defect) : List Defect :=
  (all.map Defect.checker).eraseDups.flatMap fun checker =>
    ((all.filter fun d => d.checker = checker).map fun d => (keyOf N d).2).eraseDups.flatMap
      fun path => xs.filter fun d => keyOf N d = (checker, path)

/-- What waits behind the claims is what came too late, in the order of filing. -/
theorem Settled.unclaimed {ds : List Defect} {qs : List Query} {c : Claims}
    (h : Settled N (filed N ds) qs c) :
    c.backlog.toList =
      inFilingOrder N ds
        (leftover (keyOf N) (fun k => qs.countP fun q => queryKey N q = k) ds) := by
  have stock (k : String × String) : c.backlog.stock k =
      (leftover (keyOf N) (fun k => qs.countP fun q => queryKey N q = k) ds).filter
        fun d => keyOf N d = k := by
    rw [h.stock, stock_filed, filter_leftover]
  have files (checker : String) :
      ((Assoc.keys (c.backlog.row checker)).flatMap fun path => c.backlog.stock (checker, path)) =
        ((ds.filter fun d => d.checker = checker).map fun d => (keyOf N d).2).eraseDups.flatMap
          fun path => c.backlog.stock (checker, path) := by
    -- A file claimed to its end has lost its place in the row, but it collects nothing anyway.
    rw [← keys_row_filed]
    refine flatMap_of_sublist _ (h.lists checker) ?_ fun path _ hp => ?_
    · exact ((wellFormed_filed N ds).lists checker).nodup
    · exact not_not.mp fun hn => hp ((h.wellFormed.mem_row_iff (checker, path)).mpr hn)
  rw [toList_eq h.wellFormed, inFilingOrder]
  simp only [files]
  simp only [stock]
  rw [← keys_rows_filed N ds]
  refine flatMap_of_sublist _ h.rows (wellFormed_filed N ds).rows.nodup fun checker _ hc => ?_
  rw [List.flatMap_eq_nil_iff]
  intro path _
  rw [← stock]
  exact not_not.mp fun hn => hc ((h.wellFormed.mem_rows_iff checker).mpr ⟨path, hn⟩)

/-- The outcome of a run on defects `ds` and queries `qs`. -/
structure Linked (ds : List Defect) (qs : List Query) (l : Linking) : Prop where
  matched : l.matched = paired (queryKey N) (fun k => ds.filter fun d => keyOf N d = k) qs
  unmatched : l.unmatched =
    leftover (queryKey N) (fun k => ds.countP fun d => keyOf N d = k) qs
  unclaimed : l.unclaimed =
    inFilingOrder N ds (leftover (keyOf N) (fun k => qs.countP fun q => queryKey N q = k) ds)
  perm : ds.Perm (l.matched.map Prod.snd ++ l.unclaimed)

theorem run_of_ok (normalize : Normalizer ε) (s : Report.Stream) (source : QuerySource)
    (b : Backlog) (c : Claims) (live : s.fatal = none)
    (hb : (file normalize {} s).backlog = .ok b)
    (hc : (claim normalize s.document.name b source).claims = .ok c) :
    (run normalize s source).linking = .ok
      { document := s.document.name
        matched := c.matched
        unmatched := c.unmatched
        unclaimed := c.backlog.toList
        scanProps := s.scanProps
        parseError := (file normalize {} s).stream.document.hasError
        queryError := c.queryError } := by
  unfold run
  rw [live]
  dsimp only
  rw [hb]
  dsimp only
  rw [hc]
  rfl

/-- A path comes up if it is the file of a defect, or of a query whose checker has a defect. -/
theorem run_answered (normalize : Normalizer ε) (s : Report.Stream) (source : QuerySource)
    (ds : List Defect) (qs : List Query) (live : s.fatal = none) (hd : s.gather.defects = .ok ds)
    (hq : source.queries = .ok qs)
    (filed_answers : ∀ d ∈ ds, normalize (keyFile d) = .ok (N (keyFile d)))
    (query_answers : ∀ q ∈ qs, q.checker ∈ ds.map Defect.checker →
      normalize q.file = .ok (N q.file)) :
    ∃ l, (run normalize s source).linking = .ok l ∧ Linked N ds qs l ∧
      l.parseError = s.gather.stream.document.hasError ∧ l.queryError = source.faulty := by
  obtain ⟨filed_eq, stream_eq⟩ := file_eq N normalize s ds hd filed_answers {}
  have rows (q : Query) (hm : q ∈ qs) (there : q.checker ∈ Assoc.keys (filed N ds).rows) :
      normalize q.file = .ok (N q.file) := by
    rw [keys_rows_filed, List.mem_eraseDups] at there
    exact query_answers q hm there
  obtain ⟨c, claims_eq, flag, settled⟩ :=
    claim_settled normalize (wellFormed_filed N ds) s.document.name source qs hq rows
  have stock : (filed N ds).stock = fun k => ds.filter fun d => keyOf N d = k :=
    funext (stock_filed N ds)
  have count (k : String × String) :
      (ds.filter fun d => keyOf N d = k).length = ds.countP fun d => keyOf N d = k :=
    List.countP_eq_length_filter.symm
  refine ⟨_, run_of_ok _ s source _ c live filed_eq claims_eq,
    ⟨?_, ?_, settled.unclaimed N, ?_⟩, ?_, flag⟩
  · rw [settled.matched, stock]
  · rw [settled.unmatched, stock]
    simp only [count]
  · exact (toList_filed N ds).symm.trans settled.perm
  · exact congrArg (fun s => s.document.hasError) stream_eq

theorem run_settled (s : Report.Stream) (source : QuerySource) (ds : List Defect)
    (qs : List Query) (live : s.fatal = none) (hd : s.gather.defects = .ok ds)
    (hq : source.queries = .ok qs) :
    ∃ l, (run (always N : Normalizer ε) s source).linking = .ok l ∧ Linked N ds qs l ∧
      l.parseError = s.gather.stream.document.hasError ∧ l.queryError = source.faulty :=
  run_answered N (always N) s source ds qs live hd hq (fun _ _ => rfl) fun _ _ _ => rfl

/-- **Exact matching.** On a live stream that still gives the defects `ds`, a run with the queries
`qs` has an outcome. The query of rank `j` in its key is paired with the defect of rank `j` in this
key; queries and defects whose rank is beyond the other side are left over. So each defect is
matched or unclaimed, and each query matched or unmatched, exactly once. -/
theorem run_matching (s : Report.Stream) (source : QuerySource) (ds : List Defect)
    (qs : List Query) (live : s.fatal = none) (hd : s.gather.defects = .ok ds)
    (hq : source.queries = .ok qs) :
    ∃ l, (run (always N : Normalizer ε) s source).linking = .ok l ∧
      l.matched = paired (queryKey N) (fun k => ds.filter fun d => keyOf N d = k) qs ∧
      l.unmatched = leftover (queryKey N) (fun k => ds.countP fun d => keyOf N d = k) qs ∧
      l.unclaimed = inFilingOrder N ds
        (leftover (keyOf N) (fun k => qs.countP fun q => queryKey N q = k) ds) ∧
      (l.matched.map Prod.fst ++ l.unmatched).Perm qs ∧
      (l.matched.map Prod.snd ++ l.unclaimed).Perm ds := by
  obtain ⟨l, hl, linked, -, -⟩ := run_settled (ε := ε) N s source ds qs live hd hq
  refine ⟨l, hl, linked.matched, linked.unmatched, linked.unclaimed, ?_, linked.perm.symm⟩
  rw [linked.matched, linked.unmatched]
  simp only [List.countP_eq_length_filter]
  exact paired_append_leftover _ _ qs

/-- A report of two defects of one key with one of another key between them. -/
def threeFindings : Report.Stream :=
  let finding (checker : String) (cwe : Int) : Json.Value :=
    .object [("checker", .text checker), ("cwe", .int cwe),
      ("events", .array [.object [("event", .text "leak"), ("file_name", .text "x.c")]])]
  { document := { name := "report.json", text := "" }
    rules := []
    kind := some .native
    cursor := some (.native, .ofRecords [finding "A" 1, finding "B" 2, finding "A" 3]) }

/-- Both defects of checker `A` are claimed, by the queries that come first. -/
theorem run_matching_three :
    let defect (checker : String) (cwe : Int) : Defect :=
      { checker, cwe, trace := [{ label := "leak", file := "x.c" }] }
    let query (id : Int) (checker : String) : Query := { id, checker, file := "x.c" }
    let ds := [defect "A" 1, defect "B" 2, defect "A" 3]
    let qs := [query 10 "A", query 11 "C", query 12 "A", query 13 "A"]
    threeFindings.fatal = none ∧ threeFindings.gather.defects = .ok ds ∧
    (QuerySource.list qs).queries = .ok qs ∧
    ∃ l, (run (always id : Normalizer Unit) threeFindings (.list qs)).linking = .ok l ∧
      l.matched = [(query 10 "A", defect "A" 1), (query 12 "A", defect "A" 3)] ∧
      l.unmatched = [query 11 "C", query 13 "A"] ∧ l.unclaimed = [defect "B" 2] := by
  intro defect query ds qs
  have gathered : threeFindings.gather.defects = .ok ds := by decide +kernel
  obtain ⟨l, hl, matched, unmatched, unclaimed, -, -⟩ :=
    run_matching (ε := Unit) id threeFindings (.list qs) ds qs rfl gathered rfl
  exact ⟨rfl, gathered, rfl, l, hl, matched.trans (by decide +kernel),
    unmatched.trans (by decide +kernel), unclaimed.trans (by decide +kernel)⟩

end Findings.Linking
