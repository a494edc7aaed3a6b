import Findings.Linking
import Findings.Proofs.Backlog.Stock
import Findings.Proofs.Keyed
import Findings.Proofs.QueryLines
/-!
Letting a sequence of queries claim the defects of a backlog.

* `claim_of_nil`, `claim_of_cons`: one query at a time;
* `claim_settled`: the queries of one key get the defects of this key one by one, and what is behind
  them stays where it was.
-/

namespace Findings

namespace QuerySource

/-- The queries that a source still gives. -/
def queries : QuerySource → Except Decimal.Oversize (List Query)
  | .list qs => .ok qs
  | .stream s => Query.queriesOf s.lines

/-- The error flag behind the last query. -/
def faulty : QuerySource → Bool
  | .list _ => false
  | .stream s => s.faulty

theorem next_of_queries_nil (s : QuerySource) (h : s.queries = .ok []) :
    s.next.query = .ok none ∧ s.next.source.hasError = s.faulty := by
  match s with
  | .list [] => exact ⟨rfl, rfl⟩
  | .list (_ :: _) => simp [queries] at h
  | .stream s => exact Query.Stream.nextIn_of_queries_nil s.name s.lineno s.hasError s.lines h

theorem next_of_queries_cons (s : QuerySource) (q : Query) (qs : List Query)
    (h : s.queries = .ok (q :: qs)) :
    s.next.query = .ok (some q) ∧ s.next.source.queries = .ok qs ∧
      s.next.source.faulty = s.faulty := by
  match s with
  | .list [] => simp [queries] at h
  | .list (p :: ps) =>
    simp only [queries, Except.ok.injEq, List.cons.injEq] at h
    obtain ⟨rfl, rfl⟩ := h
    exact ⟨rfl, rfl, rfl⟩
  | .stream s =>
    exact Query.Stream.nextIn_of_queries_cons s.name s.lineno s.hasError s.lines q qs h

end QuerySource

namespace Linking

open Backlog Keyed

variable {ε : Type} (N : String → String)

/-- The key that a query asks for. -/
def queryKey (q : Query) : String × String := (q.checker, N q.file)

theorem claim_of_nil (normalize : Normalizer ε) (document : String) (b : Backlog)
    (source : QuerySource) (h : source.next.query = .ok none) :
    (claim normalize document b source).claims =
      .ok { backlog := b, queryError := source.next.source.hasError } := by
  unfold claim
  dsimp only
  split
  · next ho => exact absurd (h.symm.trans ho) (by simp)
  · rfl
  · next q hq => exact absurd (h.symm.trans hq) (by simp)

/-- Adds one query with what it was given to the claims behind it. -/
def Claims.addTo (q : Query) (taken : Option Defect) (c : Claims) : Claims :=
  match taken with
  | some d => { c with matched := (q, d) :: c.matched }
  | none => { c with unmatched := q :: c.unmatched }

theorem claim_of_cons (normalize : Normalizer ε) (document : String) (b : Backlog)
    (source : QuerySource) (q : Query) (taken : Taken) (h : source.next.query = .ok (some q))
    (ht : b.lookup normalize q.checker q.file = .ok taken) :
    (claim normalize document b source).claims =
      (claim normalize document taken.backlog source.next.source).claims.map
        (Claims.addTo q taken.defect) := by
  rw [claim]
  dsimp only
  split
  · next ho => exact absurd (h.symm.trans ho) (by simp)
  · next hn => exact absurd (h.symm.trans hn) (by simp)
  · next p hp =>
    have : q = p := by simpa using h.symm.trans hp
    subst this
    rw [ht]
    dsimp only
    cases taken.defect <;> rfl

/-- What queries `qs` come to when they claim from `b`. -/
structure Settled (b : Backlog) (qs : List Query) (c : Claims) : Prop where
  matched : c.matched = paired (queryKey N) b.stock qs
  unmatched : c.unmatched = leftover (queryKey N) (fun k => (b.stock k).length) qs
  wellFormed : c.backlog.WellFormed
  stock : ∀ k, c.backlog.stock k = (b.stock k).drop (qs.countP fun q => queryKey N q = k)
  rows : (Assoc.keys c.backlog.rows).Sublist (Assoc.keys b.rows)
  lists : ∀ checker,
    (Assoc.keys (c.backlog.row checker)).Sublist (Assoc.keys (b.row checker))
  perm : b.toList.Perm (c.matched.map Prod.snd ++ c.backlog.toList)

variable {N} {b : Backlog}

theorem settled_nil (hb : b.WellFormed) (queryError : Bool) :
    Settled N b [] { backlog := b, queryError } where
  matched := rfl
  unmatched := rfl
  wellFormed := hb
  stock _ := rfl
  rows := .refl _
  lists _ := .refl _
  perm := .refl _

/-- The claims behind a query, and the query itself. -/
theorem Settled.cons (hb : b.WellFormed) (q : Query) (qs : List Query) (c : Claims)
    (h : Settled N (b.taking (queryKey N q)) qs c) :
    Settled N b (q :: qs) (Claims.addTo q (b.stock (queryKey N q)).head? c) := by
  let k := queryKey N q
  have stock : (b.taking k).stock = fun j => if k = j then (b.stock j).tail else b.stock j :=
    funext (stock_taking hb k)
  have backlog (o : Option Defect) : (Claims.addTo q o c).backlog = c.backlog := by
    cases o <;> rfl
  have matched (o : Option Defect) :
      (Claims.addTo q o c).matched = (o.map fun d => (q, d)).toList ++ c.matched := by
    cases o <;> rfl
  have unmatched (o : Option Defect) :
      (Claims.addTo q o c).unmatched = (if o = none then [q] else []) ++ c.unmatched := by
    cases o <;> rfl
  refine ⟨?_, ?_, ?_, fun j => ?_, ?_, fun checker => ?_, ?_⟩
  · rw [matched, paired_cons, h.matched, stock]
  · rw [unmatched, leftover_cons, h.unmatched, stock]
    simp only [List.head?_eq_none_iff, List.length_eq_zero_iff]
    congr 2
    funext j
    by_cases hj : k = j <;> simp [k, hj]
  · rw [backlog]
    exact h.wellFormed
  · rw [backlog, h.stock, stock, List.countP_cons]
    by_cases hj : k = j <;> simp [k, hj]
  · rw [backlog]
    exact h.rows.trans (keys_rows_taking hb k)
  · rw [backlog]
    exact (h.lists checker).trans (keys_row_taking hb k checker)
  · rw [backlog, matched, List.map_append, List.append_assoc]
    refine (toList_taking b k).trans ?_
    have given : ((b.stock k).head?.map fun d => (q, d)).toList.map Prod.snd =
        (b.stock k).head?.toList := by
      cases (b.stock k).head? <;> rfl
    rw [given]
    exact h.perm.append_left _

/-- **All claims.** Queries that claim from a well-formed backlog settle, and their source ends
with its error flag. The normalizer has to have an answer where a checker has a row. -/
theorem claim_settled (normalize : Normalizer ε) (hb : b.WellFormed) (document : String)
    (source : QuerySource) (qs : List Query) (h : source.queries = .ok qs)
    (answers : ∀ q ∈ qs, q.checker ∈ Assoc.keys b.rows → normalize q.file = .ok (N q.file)) :
    ∃ c, (claim normalize document b source).claims = .ok c ∧
      c.queryError = source.faulty ∧ Settled N b qs c := by
  -- On the queries still to come: each one leaves a well-formed backlog to the others.
  induction qs generalizing b source with
  | nil =>
    obtain ⟨none, flag⟩ := source.next_of_queries_nil h
    exact ⟨_, claim_of_nil _ document b source none, flag, settled_nil hb _⟩
  | cons q qs ih =>
    obtain ⟨some, rest, flag⟩ := source.next_of_queries_cons q qs h
    obtain ⟨first, later⟩ := List.forall_mem_cons.mp answers
    obtain ⟨taken, ht, given, left⟩ := lookup_eq normalize hb q.checker q.file (N q.file) first
    have left : taken.backlog = b.taking (queryKey N q) := left
    have taking : taken.backlog.WellFormed := by
      rw [left]
      exact hb.withList _ _
    have rows : (Assoc.keys taken.backlog.rows).Sublist (Assoc.keys b.rows) := by
      rw [left]
      exact keys_rows_taking hb _
    obtain ⟨c, hc, he, settled⟩ := ih taking source.next.source rest
      fun p hp there => later p hp (rows.subset there)
    refine ⟨Claims.addTo q taken.defect c, ?_, ?_, ?_⟩
    · rw [claim_of_cons _ document b source q taken some ht, hc]
      rfl
    · rw [← flag, ← he]
      cases taken.defect <;> rfl
    · rw [given]
      rw [left] at settled
      exact settled.cons hb q qs c

end Linking

end Findings
