import Findings.PathRules
import Findings.Proofs.Linking.Matching
import Findings.Proofs.Steps
/-!
A run under a normalizer that tells fewer paths apart. Single pairs may change, but no link is lost,
because a run links as much as its keys allow.

* `Pairing.countP_le`, `Linked.countP_unmatched`: what has to be left over of a key, and what a run
  leaves over;
* `Linked.maximum`: no way to bring queries and defects of one key together links more than a run;
* `PathRules.ofRules_append`: more rules are applied behind the others;
* `coarser_paths`: the main statement, for a function behind the normalizer and for more rules.
-/

namespace Findings

/-! ## Most links -/

namespace Linking

open Backlog Keyed

/-- A way to bring queries together with defects of their keys, and what it leaves over. -/
structure Pairing (N : String → String) (ds : List Defect) (qs : List Query)
    (pairs : List (Query × Defect)) (unmatched : List Query) (unclaimed : List Defect) : Prop where
  sameKey : ∀ p ∈ pairs, queryKey N p.1 = keyOf N p.2
  queries : (pairs.map Prod.fst ++ unmatched).Perm qs
  defects : (pairs.map Prod.snd ++ unclaimed).Perm ds

variable {N : String → String} {ds : List Defect} {qs : List Query} {l : Linking}
  {pairs : List (Query × Defect)} {unmatched : List Query} {unclaimed : List Defect}

theorem Linked.pairing (h : Linked N ds qs l) :
    Pairing N ds qs l.matched l.unmatched l.unclaimed where
  sameKey := by
    intro p hp
    rw [h.matched] at hp
    have stocked := mem_stock_of_mem_paired _ _ qs p hp
    have own : keyOf N p.2 = queryKey N p.1 := by simpa using (List.mem_filter.mp stocked).2
    exact own.symm
  queries := by
    rw [h.matched, h.unmatched]
    simp only [List.countP_eq_length_filter]
    exact paired_append_leftover _ _ qs
  defects := h.perm.symm

/-- Keys that were the same stay the same. -/
theorem Pairing.coarser (h : Pairing N ds qs pairs unmatched unclaimed) (g : String → String) :
    Pairing (g ∘ N) ds qs pairs unmatched unclaimed where
  sameKey := by
    intro p hp
    obtain ⟨checker, path⟩ := Prod.ext_iff.mp (h.sameKey p hp)
    exact Prod.ext checker (congrArg g path)
  queries := h.queries
  defects := h.defects

theorem Pairing.length_eq (h : Pairing N ds qs pairs unmatched unclaimed) :
    pairs.length + unmatched.length = qs.length ∧ pairs.length + unclaimed.length = ds.length := by
  have queries := h.queries.length_eq
  have defects := h.defects.length_eq
  rw [List.length_append, List.length_map] at queries defects
  exact ⟨queries, defects⟩

/-- A key has no more queries than defects and queries left over. -/
theorem Pairing.countP_le (h : Pairing N ds qs pairs unmatched unclaimed) (k : String × String) :
    qs.countP (fun q => queryKey N q = k) ≤
      ds.countP (fun d => keyOf N d = k) + unmatched.countP fun q => queryKey N q = k := by
  have linked : (pairs.map Prod.fst).countP (fun q => queryKey N q = k) =
      (pairs.map Prod.snd).countP fun d => keyOf N d = k := by
    rw [List.countP_map, List.countP_map]
    apply List.countP_congr
    intro p hp
    simp [h.sameKey p hp]
  have queries := h.queries.countP_eq fun q => queryKey N q = k
  have defects := h.defects.countP_eq fun d => keyOf N d = k
  rw [List.countP_append] at queries defects
  omega

/-- Of a key, a run leaves the queries over for which there is no defect. -/
theorem Linked.countP_unmatched (h : Linked N ds qs l) (k : String × String) :
    l.unmatched.countP (fun q => queryKey N q = k) =
      qs.countP (fun q => queryKey N q = k) - ds.countP fun d => keyOf N d = k := by
  rw [List.countP_eq_length_filter, h.unmatched, filter_leftover, List.length_drop,
    ← List.countP_eq_length_filter]

/-- The second outcome has as many links as the first, or more, and leaves no more over. -/
structure LinksMore (l l' : Linking) : Prop where
  matched : l.matched.length ≤ l'.matched.length
  unmatched : l'.unmatched.length ≤ l.unmatched.length
  unclaimed : l'.unclaimed.length ≤ l.unclaimed.length
  complete : l.unmatched = [] → l.unclaimed = [] → l'.unmatched = [] ∧ l'.unclaimed = []

/-- **Most links.** However queries are brought together with defects of their keys, a run brings
as many of them together, and leaves no more over. -/
theorem Linked.maximum (h : Linked N ds qs l) (p : Pairing N ds qs pairs unmatched unclaimed) :
    pairs.length ≤ l.matched.length ∧ l.unmatched.length ≤ unmatched.length ∧
      l.unclaimed.length ≤ unclaimed.length := by
  have fewer : l.unmatched.length ≤ unmatched.length := by
    apply length_le_of_countP_le (queryKey N) (queryKey N)
    intro k
    have needed := p.countP_le k
    rw [h.countP_unmatched]
    omega
  -- All queries are there on both sides, and all defects, so the other two bounds follow.
  obtain ⟨queries, defects⟩ := p.length_eq
  obtain ⟨queries', defects'⟩ := h.pairing.length_eq
  omega

theorem Linked.linksMore {g : String → String} {l' : Linking} (h : Linked N ds qs l)
    (h' : Linked (g ∘ N) ds qs l') : LinksMore l l' := by
  obtain ⟨matched, unmatched, unclaimed⟩ := h'.maximum (h.pairing.coarser g)
  refine ⟨matched, unmatched, unclaimed, fun noQuery noDefect => ?_⟩
  rw [noQuery] at unmatched
  rw [noDefect] at unclaimed
  exact ⟨List.length_eq_zero_iff.mp (Nat.le_zero.mp unmatched),
    List.length_eq_zero_iff.mp (Nat.le_zero.mp unclaimed)⟩

end Linking

/-! ## More rules -/

namespace PathRules

theorem readRules_append (rules more : List PathRule) (all : List (PathRule × Pattern.Compiled))
    (h : readRules (rules ++ more) = .ok all) :
    ∃ first behind, readRules rules = .ok first ∧ readRules more = .ok behind ∧
      all = first ++ behind := by
  induction rules generalizing all with
  | nil => exact ⟨[], all, rfl, h, rfl⟩
  | cons rule rules ih =>
    rw [List.cons_append, readRules] at h
    cases compiled : Pattern.compile rule.pattern with
    | error fault => simp [compiled] at h
    | ok pattern =>
      cases rest : readRules (rules ++ more) with
      | error fault => simp [compiled, rest] at h
      | ok others =>
        simp only [compiled, rest, Except.ok.injEq] at h
        obtain ⟨first, behind, read, readMore, rfl⟩ := ih others rest
        refine ⟨(rule, pattern) :: first, behind, ?_, readMore, h.symm⟩
        simp [readRules, compiled, read]

theorem applyRules_append (first behind : List (PathRule × Pattern.Compiled)) (path : String) :
    applyRules (first ++ behind) path = applyRules first path >>= applyRules behind := by
  induction first generalizing path with
  | nil => rfl
  | cons p first ih =>
    obtain ⟨rule, compiled⟩ := p
    rw [List.cons_append, applyRules, applyRules]
    cases applyRule rule compiled path with
    | error fault => rfl
    | ok path => exact ih path

/-- A list of rules with more of them at its end applies the others first. -/
theorem ofRules_append (rules more : List PathRule) (longer : PathRules)
    (h : ofRules (rules ++ more) = .ok longer) :
    ∃ shorter behind, ofRules rules = .ok shorter ∧
      ∀ path, longer.apply path = shorter.apply path >>= apply behind := by
  unfold ofRules at h
  cases read : readRules (rules ++ more) with
  | error fault => simp [read] at h
  | ok all =>
    simp only [read, Except.ok.injEq] at h
    obtain ⟨first, behind, first_read, -, rfl⟩ := readRules_append rules more all read
    refine ⟨⟨first⟩, ⟨behind⟩, ?_, fun path => ?_⟩
    · simp [ofRules, first_read]
    · rw [← h]
      exact applyRules_append first behind path

end PathRules

/-! ## Coarser paths -/

namespace Linking

open Backlog Keyed

variable {ε : Type}

/-- The answer of a normalizer, and the path itself where it has none. -/
def answer (normalize : Normalizer ε) (path : String) : String :=
  (normalize path).toOption.getD path

theorem answer_of_ok {normalize : Normalizer ε} {path found : String}
    (h : normalize path = .ok found) : answer normalize path = found := by
  rw [answer, h]
  rfl

/-- **Coarser paths lose no links.** A run under a normalizer with any function behind it links as
many queries as the run under the normalizer alone, or more; it leaves no more queries and no more
defects over, and none if the other run left none. So it is with path rules when more of them are
put behind, as long as they do not fail on the paths that come up. -/
theorem coarser_paths (s : Report.Stream) (source : QuerySource) (ds : List Defect)
    (qs : List Query) (live : s.fatal = none) (hd : s.gather.defects = .ok ds)
    (hq : source.queries = .ok qs) :
    (∀ N g : String → String,
      ∃ l l', (run (always N : Normalizer ε) s source).linking = .ok l ∧
        (run (always (g ∘ N) : Normalizer ε) s source).linking = .ok l' ∧ LinksMore l l') ∧
    ∀ (rules more : List PathRule) (longer : PathRules),
      PathRules.ofRules (rules ++ more) = .ok longer →
      (∀ d ∈ ds, ∃ path, longer.apply (keyFile d) = .ok path) →
      (∀ q ∈ qs, q.checker ∈ ds.map Defect.checker → ∃ path, longer.apply q.file = .ok path) →
      ∃ shorter l l', PathRules.ofRules rules = .ok shorter ∧
        (run shorter.apply s source).linking = .ok l ∧
        (run longer.apply s source).linking = .ok l' ∧ LinksMore l l' := by
  refine ⟨fun N g => ?_, fun rules more longer made files asked => ?_⟩
  · obtain ⟨l, hl, linked, -⟩ := run_settled (ε := ε) N s source ds qs live hd hq
    obtain ⟨l', hl', linked', -⟩ := run_settled (ε := ε) (g ∘ N) s source ds qs live hd hq
    exact ⟨l, l', hl, hl', linked.linksMore linked'⟩
  · obtain ⟨shorter, behind, made_shorter, apply_eq⟩ :=
      PathRules.ofRules_append rules more longer made
    let N := answer shorter.apply
    let g := answer behind.apply
    -- Where the longer list has an answer, so have both of its parts.
    have both (path : String) (h : ∃ found, longer.apply path = .ok found) :
        shorter.apply path = .ok (N path) ∧ longer.apply path = .ok ((g ∘ N) path) := by
      obtain ⟨found, h⟩ := h
      obtain ⟨middle, first, second⟩ := (bind_eq_ok_iff _ _ _).mp ((apply_eq path).symm.trans h)
      have first_eq : N path = middle := answer_of_ok first
      have second_eq : g middle = found := answer_of_ok second
      rw [Function.comp_apply, first_eq, second_eq]
      exact ⟨first, h⟩
    obtain ⟨l, hl, linked, -⟩ := run_answered N shorter.apply s source ds qs live hd hq
      (fun d hm => (both _ (files d hm)).1) fun q hm there => (both _ (asked q hm there)).1
    obtain ⟨l', hl', linked', -⟩ := run_answered (g ∘ N) longer.apply s source ds qs live hd hq
      (fun d hm => (both _ (files d hm)).2) fun q hm there => (both _ (asked q hm there)).2
    exact ⟨shorter, l, l', made_shorter, hl, hl', linked.linksMore linked'⟩

/-- A report of one checker in two files, whose names differ in what stands in front. -/
def twoSpellings : Report.Stream :=
  let finding (file : String) : Json.Value :=
    .object [("checker", .text "A"),
      ("events", .array [.object [("event", .text "leak"), ("file_name", .text file)]])]
  { document := { name := "report.json", text := "" }
    rules := []
    kind := some .native
    cursor := some (.native, .ofRecords [finding "/b/x.c", finding "./x.c"]) }

/-- One of the queries finds its defect only behind the second rule. -/
theorem coarser_paths_two :
    let defect (file : String) : Defect := { checker := "A", trace := [{ label := "leak", file }] }
    let query (id : Int) : Query := { id, checker := "A", file := "x.c" }
    let ds := [defect "/b/x.c", defect "./x.c"]
    let qs := [query 1, query 2]
    let rules : List PathRule := [{ pattern := "^/b/" }]
    let more : List PathRule := [{ pattern := "^\\./" }]
    let source := QuerySource.list qs
    twoSpellings.fatal = none ∧ twoSpellings.gather.defects = .ok ds ∧ source.queries = .ok qs ∧
    (∃ l l', (run (always id : Normalizer Unit) twoSpellings source).linking = .ok l ∧
      (run (always ((fun _ => "x.c") ∘ id) : Normalizer Unit) twoSpellings source).linking =
        .ok l' ∧ LinksMore l l') ∧
    ∃ shorter longer l l', PathRules.ofRules rules = .ok shorter ∧
      PathRules.ofRules (rules ++ more) = .ok longer ∧
      (∀ d ∈ ds, ∃ path, longer.apply (keyFile d) = .ok path) ∧
      (∀ q ∈ qs, q.checker ∈ ds.map Defect.checker → ∃ path, longer.apply q.file = .ok path) ∧
      (run shorter.apply twoSpellings source).linking = .ok l ∧ l.matched.length = 1 ∧
      (run longer.apply twoSpellings source).linking = .ok l' ∧ l'.matched.length = 2 ∧
      LinksMore l l' := by
  intro defect query ds qs rules more source
  have gathered : twoSpellings.gather.defects = .ok ds := by decide +kernel
  have applied : (PathRules.ofRules (rules ++ more)).map
      (fun r => (r.apply "/b/x.c", r.apply "./x.c", r.apply "x.c")) =
        .ok (.ok "x.c", .ok "x.c", .ok "x.c") := by decide +kernel
  obtain ⟨longer, made, answers⟩ := (map_eq_ok_iff _ _ _).mp applied
  obtain ⟨built, here, plain⟩ : longer.apply "/b/x.c" = .ok "x.c" ∧
      longer.apply "./x.c" = .ok "x.c" ∧ longer.apply "x.c" = .ok "x.c" := by simpa using answers
  have files : ∀ d ∈ ds, ∃ path, longer.apply (keyFile d) = .ok path := by
    simp only [ds, List.forall_mem_cons, List.not_mem_nil, false_imp_iff, implies_true, and_true]
    exact ⟨⟨_, built⟩, _, here⟩
  have asked : ∀ q ∈ qs, q.checker ∈ ds.map Defect.checker →
      ∃ path, longer.apply q.file = .ok path := by
    simp only [qs, List.forall_mem_cons, List.not_mem_nil, false_imp_iff, implies_true, and_true]
    exact ⟨fun _ => ⟨_, plain⟩, fun _ => ⟨_, plain⟩⟩
  obtain ⟨whole, appended⟩ :=
    coarser_paths (ε := Unit) twoSpellings source ds qs rfl gathered rfl
  obtain ⟨shorter, l, l', made_shorter, hl, hl', more_links⟩ :=
    appended rules more longer made files asked
  have one : (PathRules.ofRules rules).map (fun r =>
      (run r.apply twoSpellings source).linking.toOption.map fun l => l.matched.length) =
        .ok (some 1) := by decide +kernel
  have two : (PathRules.ofRules (rules ++ more)).map (fun r =>
      (run r.apply twoSpellings source).linking.toOption.map fun l => l.matched.length) =
        .ok (some 2) := by decide +kernel
  have one : l.matched.length = 1 := by
    simpa [made_shorter, hl, Except.map, Except.toOption] using one
  have two : l'.matched.length = 2 := by
    simpa [made, hl', Except.map, Except.toOption] using two
  exact ⟨rfl, gathered, rfl, whole id fun _ => "x.c", shorter, longer, l, l', made_shorter, made,
    files, asked, hl, one, hl', two, more_links⟩

end Linking

end Findings
