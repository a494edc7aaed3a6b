import Findings.Proofs.Linking.Matching
/-!
What a run owes to the order of its defects and queries: within a key everything, across keys only
the order in which its results are listed.

* `Linked.perm_of_sameByKey`: the same defects and queries under each key have the same results;
* `Linked.of_perm`: what is left of the defects does not hang on the order of the queries at all;
* `reordered_runs`: the main statement, for two documents and two sources of queries.
-/

namespace Findings.Linking

open Backlog Keyed

variable {ε : Type} {N : String → String}

section Outcomes

variable {ds ds' : List Defect} {qs qs' : List Query} {l l' : Linking}

/-- Where each key has the same defects and the same queries, the same queries come together with
the same defects, and the same are left over. -/
theorem Linked.perm_of_sameByKey (h : Linked N ds qs l) (h' : Linked N ds' qs' l')
    (defects : SameByKey (keyOf N) ds ds') (queries : SameByKey (queryKey N) qs qs') :
    l.matched.Perm l'.matched ∧ l.unmatched.Perm l'.unmatched ∧
      l.unclaimed.Perm l'.unclaimed := by
  have stock : (fun k => ds.filter fun d => keyOf N d = k) =
      fun k => ds'.filter fun d => keyOf N d = k := funext defects
  have counts : (fun k => ds.countP fun d => keyOf N d = k) =
      fun k => ds'.countP fun d => keyOf N d = k := funext defects.countP_eq
  have matched : l.matched.Perm l'.matched := by
    rw [h.matched, h'.matched, stock]
    exact paired_perm queries _
  refine ⟨matched, ?_, ?_⟩
  · rw [h.unmatched, h'.unmatched, counts]
    exact leftover_perm queries _
  · -- What is unclaimed is what is not matched, so no order of filing has to be looked at.
    have all : (l.matched.map Prod.snd ++ l.unclaimed).Perm
        (l.matched.map Prod.snd ++ l'.unclaimed) :=
      calc l.matched.map Prod.snd ++ l.unclaimed
        _ |>.Perm ds := h.perm.symm
        _ |>.Perm ds' := defects.perm
        _ |>.Perm (l'.matched.map Prod.snd ++ l'.unclaimed) := h'.perm
        _ |>.Perm (l.matched.map Prod.snd ++ l'.unclaimed) :=
          (matched.symm.map Prod.snd).append_right _
    exact (List.perm_append_left_iff _).mp all

/-- Queries in another order, also within a key, claim the same defects. -/
theorem Linked.of_perm (h : Linked N ds qs l) (h' : Linked N ds qs' l') (queries : qs.Perm qs') :
    l.unclaimed = l'.unclaimed ∧ (l.matched.map Prod.snd).Perm (l'.matched.map Prod.snd) := by
  have unclaimed : l.unclaimed = l'.unclaimed := by
    rw [h.unclaimed, h'.unclaimed]
    simp only [queries.countP_eq]
  refine ⟨unclaimed, ?_⟩
  have all := h.perm.symm.trans h'.perm
  rw [unclaimed] at all
  exact (List.perm_append_right_iff _).mp all

end Outcomes

variable (N) in
/-- **Order across keys is irrelevant.** Two runs whose documents give the same defects under each
key, in the same order there, and whose sources give the same queries under each key, have the same
pairs, the same unmatched queries and the same unclaimed defects. If only the queries come in
another order, whichever, then the list of unclaimed defects is the same, and so are the defects
that are claimed. -/
theorem reordered_runs (s s' : Report.Stream) (source source' : QuerySource)
    (ds ds' : List Defect) (qs qs' : List Query) (live : s.fatal = none) (live' : s'.fatal = none)
    (hd : s.gather.defects = .ok ds) (hd' : s'.gather.defects = .ok ds')
    (hq : source.queries = .ok qs) (hq' : source'.queries = .ok qs') :
    ∃ l l', (run (always N : Normalizer ε) s source).linking = .ok l ∧
      (run (always N : Normalizer ε) s' source').linking = .ok l' ∧
      (SameByKey (keyOf N) ds ds' → SameByKey (queryKey N) qs qs' →
        l.matched.Perm l'.matched ∧ l.unmatched.Perm l'.unmatched ∧
          l.unclaimed.Perm l'.unclaimed) ∧
      (ds = ds' → qs.Perm qs' → l.unclaimed = l'.unclaimed ∧
        (l.matched.map Prod.snd).Perm (l'.matched.map Prod.snd)) := by
  obtain ⟨l, hl, linked, -, -⟩ := run_settled (ε := ε) N s source ds qs live hd hq
  obtain ⟨l', hl', linked', -, -⟩ := run_settled (ε := ε) N s' source' ds' qs' live' hd' hq'
  refine ⟨l, l', hl, hl', linked.perm_of_sameByKey linked', ?_⟩
  rintro rfl queries
  exact linked.of_perm linked' queries

/-- The findings of `threeFindings`, that of the other key first. -/
def threeFindingsShuffled : Report.Stream :=
  { threeFindings with
    cursor := some (.native, .ofRecords
      [finding "B" 2, finding "A" 1, finding "A" 3]) }
where
  finding (checker : String) (cwe : Int) : Json.Value :=
    .object [("checker", .text checker), ("cwe", .int cwe),
      ("events", .array [.object [("event", .text "leak"), ("file_name", .text "x.c")]])]

/-- One query of checker `A` and one of a checker that has no defects. The unclaimed defects are
listed in different orders, because the rows were begun in different orders. -/
theorem reordered_runs_three :
    let defect (checker : String) (cwe : Int) : Defect :=
      { checker, cwe, trace := [{ label := "leak", file := "x.c" }] }
    let query (id : Int) (checker : String) : Query := { id, checker, file := "x.c" }
    let ds := [defect "A" 1, defect "B" 2, defect "A" 3]
    let ds' := [defect "B" 2, defect "A" 1, defect "A" 3]
    let qs := [query 10 "A", query 11 "C"]
    let qs' := [query 11 "C", query 10 "A"]
    threeFindings.fatal = none ∧ threeFindingsShuffled.fatal = none ∧
    threeFindings.gather.defects = .ok ds ∧ threeFindingsShuffled.gather.defects = .ok ds' ∧
    (QuerySource.list qs).queries = .ok qs ∧ (QuerySource.list qs').queries = .ok qs' ∧
    SameByKey (keyOf id) ds ds' ∧ SameByKey (queryKey id) qs qs' ∧ qs.Perm qs' ∧
    ∃ l l', (run (always id : Normalizer Unit) threeFindings (.list qs)).linking = .ok l ∧
      (run (always id : Normalizer Unit) threeFindingsShuffled (.list qs')).linking = .ok l' ∧
      l.matched.Perm l'.matched ∧ l.unmatched.Perm l'.unmatched ∧
      l.unclaimed.Perm l'.unclaimed ∧
      ∃ r r', (run (always id : Normalizer Unit) threeFindings (.list qs)).linking = .ok r ∧
        (run (always id : Normalizer Unit) threeFindings (.list qs')).linking = .ok r' ∧
        r.unclaimed = r'.unclaimed := by
  intro defect query ds ds' qs qs'
  have gathered : threeFindings.gather.defects = .ok ds := by decide +kernel
  have shuffled : threeFindingsShuffled.gather.defects = .ok ds' := by decide +kernel
  have defects : SameByKey (keyOf id) ds ds' := by
    intro k
    by_cases hb : ("B", "x.c") = k
    · subst hb
      decide
    · have none : decide (keyOf id (defect "B" 2) = k) = false := decide_eq_false hb
      simp only [ds, ds', List.filter_cons, none]
      simp
  have queries : SameByKey (queryKey id) qs qs' := by
    intro k
    by_cases hc : ("C", "x.c") = k
    · subst hc
      decide
    · have none : decide (queryKey id (query 11 "C") = k) = false := decide_eq_false hc
      simp only [qs, qs', List.filter_cons, none]
      simp
  have swapped : qs.Perm qs' := .swap _ _ _
  obtain ⟨l, l', hl, hl', same, -⟩ := reordered_runs (ε := Unit) id threeFindings
    threeFindingsShuffled (.list qs) (.list qs') ds ds' qs qs' rfl rfl gathered shuffled rfl rfl
  obtain ⟨matched, unmatched, unclaimed⟩ := same defects queries
  obtain ⟨r, r', hr, hr', -, left⟩ := reordered_runs (ε := Unit) id threeFindings threeFindings
    (.list qs) (.list qs') ds ds qs qs' rfl rfl gathered gathered rfl rfl
  exact ⟨rfl, rfl, gathered, shuffled, rfl, rfl, defects, queries, swapped, l, l', hl, hl',
    matched, unmatched, unclaimed, r, r', hr, hr', (left rfl swapped).1⟩

end Findings.Linking
