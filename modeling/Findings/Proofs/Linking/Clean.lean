import Findings.Proofs.Linking.Matching
import Findings.Proofs.Report.Gathered
/-!
When a run is clean: nothing was malformed on either side, and each key has as many defects as
queries.

* `Linked.all_used_iff`: nothing is left over on either side if and only if the keys agree;
* `run_clean_iff`: the conditions for a run on a document that was just opened;
* `clean_run`: the main statement; the order of the lines does not matter.
-/

namespace Findings.Linking

open Backlog Keyed

variable {ε : Type} (N : String → String)

theorem mem_inFilingOrder (all xs : List Defect) (h : xs ⊆ all) (d : Defect) (hd : d ∈ xs) :
    d ∈ inFilingOrder N all xs := by
  have filed : d ∈ all := h hd
  refine List.mem_flatMap.mpr ⟨d.checker, ?_, List.mem_flatMap.mpr ⟨(keyOf N d).2, ?_, ?_⟩⟩
  · exact List.mem_eraseDups.mpr (List.mem_map_of_mem filed)
  · refine List.mem_eraseDups.mpr (List.mem_map_of_mem (List.mem_filter.mpr ⟨filed, ?_⟩))
    simp
  · exact List.mem_filter.mpr ⟨hd, by simp [keyOf]⟩

theorem inFilingOrder_eq_nil_iff (all xs : List Defect) (h : xs ⊆ all) :
    inFilingOrder N all xs = [] ↔ xs = [] := by
  constructor
  · intro empty
    rw [List.eq_nil_iff_forall_not_mem]
    intro d hd
    exact List.not_mem_nil (empty ▸ mem_inFilingOrder N all xs h d hd)
  · rintro rfl
    simp [inFilingOrder]

variable {N}

/-- Nothing is left over on either side if and only if each key has as many defects as queries. -/
theorem Linked.all_used_iff {ds : List Defect} {qs : List Query} {l : Linking}
    (h : Linked N ds qs l) :
    l.unmatched = [] ∧ l.unclaimed = [] ↔
      ∀ key, ds.countP (fun d => keyOf N d = key) = qs.countP fun q => queryKey N q = key := by
  rw [h.unmatched, h.unclaimed, inFilingOrder_eq_nil_iff N ds _ (leftover_subset _ _ ds),
    leftover_eq_nil_iff, leftover_eq_nil_iff, ← forall_and]
  refine forall_congr' fun key => ?_
  rw [and_comm]
  exact Nat.le_antisymm_iff.symm

theorem isClean_iff (l : Linking) :
    l.isClean = true ↔
      l.parseError = false ∧ l.queryError = false ∧ l.unmatched = [] ∧ l.unclaimed = [] := by
  simp [isClean, and_assoc]

/-! ## A run on a document that was just opened -/

variable (N) in
/-- Nothing in the document or in the lines is malformed, and each key has as many defects as
queries. -/
structure AddsUp (depth : Nat) (s : Report.Stream) (root : Json.Value) (lines : List String) :
    Prop where
  scan : s.ScanLegible depth root
  records : ∀ fault, .failed fault ∉ s.statuses root
  wellFormed : ∀ line ∈ lines, Query.WellFormed line
  keys : ∀ key, ((s.statuses root).filterMap Report.Status.defect?).countP
    (fun d => keyOf N d = key) =
      (lines.filterMap Query.query?).countP fun q => queryKey N q = key

/-- The order of the lines does not matter. -/
theorem AddsUp.of_perm {depth : Nat} {s : Report.Stream} {root : Json.Value}
    {lines lines' : List String} (h : AddsUp N depth s root lines) (hp : lines'.Perm lines) :
    AddsUp N depth s root lines' where
  scan := h.scan
  records := h.records
  wellFormed line hl := h.wellFormed line (hp.mem_iff.mp hl)
  keys key := by rw [h.keys key, (hp.filterMap _).countP_eq]

section Opened

variable {depths : Json.Depths} {d : Document} {rules : List Cleanup.Rule} {root : Json.Value}
  {s : Report.Stream} {notices : List Notice}

variable (N) in
theorem run_clean_iff (fresh : d.hasError = false)
    (opened : Report.Stream.ofDocument depths d rules = .ok (s, notices))
    (read : Json.read depths.read d.text = .ok root) (going : s.fatal = none)
    (legible : ∀ k, s.kind = some k → k.Legible rules root) (lines : List String) (name : String)
    (short : ∀ line ∈ lines, Query.ShortIdentifier line) :
    ∃ l, (run (always N : Normalizer ε) s (.stream { lines, name })).linking = .ok l ∧
      (l.isClean = true ↔ AddsUp N depths.written s root lines) := by
  obtain ⟨defects, document⟩ := s.gather_opened fresh opened read going legible
  obtain ⟨queries, well⟩ := Query.queriesOf_of_short lines short
  obtain ⟨l, hl, linked, parse, query⟩ :=
    run_settled (ε := ε) N s (.stream { lines, name }) _ _ going defects queries
  have faulty : QuerySource.faulty (.stream { lines, name }) = lines.any Query.isBad :=
    Bool.false_or _
  refine ⟨l, hl, ?_⟩
  -- Both flags are those of streams that were read to their end.
  rw [isClean_iff, parse, query, faulty, document, well, linked.all_used_iff]
  constructor
  · rintro ⟨⟨scan, records⟩, wellFormed, keys⟩
    exact ⟨scan, records, wellFormed, keys⟩
  · intro h
    exact ⟨⟨h.scan, h.records⟩, h.wellFormed, h.keys⟩

variable (N) in
/-- **A clean run.** On a document that was just opened, a run with the lines of a fresh source has
an outcome, and this is clean if and only if the scan can be read, no record failed, every line is
well formed and each key has as many defects as queries. So a failed record anywhere makes it
unclean, and the order of the lines does not matter. -/
theorem clean_run (fresh : d.hasError = false)
    (opened : Report.Stream.ofDocument depths d rules = .ok (s, notices))
    (read : Json.read depths.read d.text = .ok root) (going : s.fatal = none)
    (legible : ∀ k, s.kind = some k → k.Legible rules root) (lines : List String) (name : String)
    (short : ∀ line ∈ lines, Query.ShortIdentifier line) :
    ∃ l, (run (always N : Normalizer ε) s (.stream { lines, name })).linking = .ok l ∧
      (l.isClean = true ↔ AddsUp N depths.written s root lines) ∧
      (∀ (i : Nat) fault, (s.statuses root)[i]? = some (Report.Status.failed fault) →
        l.isClean = false) ∧
      ∀ lines' name', lines'.Perm lines →
        ∃ l', (run (always N : Normalizer ε) s (.stream { lines := lines', name := name' })).linking
          = .ok l' ∧ l'.isClean = l.isClean := by
  obtain ⟨l, hl, clean⟩ :=
    run_clean_iff (ε := ε) N fresh opened read going legible lines name short
  refine ⟨l, hl, clean, ?_, ?_⟩
  · intro i fault hi
    rw [Bool.eq_false_iff]
    intro hclean
    exact (clean.mp hclean).records fault (List.mem_of_getElem? hi)
  · intro lines' name' hp
    obtain ⟨l', hl', clean'⟩ := run_clean_iff (ε := ε) N fresh opened read going legible lines'
      name' fun line hm => short line (hp.mem_iff.mp hm)
    refine ⟨l', hl', ?_⟩
    rw [Bool.eq_iff_iff, clean, clean']
    exact ⟨fun h => h.of_perm hp.symm, fun h => h.of_perm hp⟩

end Opened

/-- Two compiler diagnostics with something between them that is none. -/
def twoDiagnostics : Document where
  name := "report.json"
  text := "[\x7b\"kind\":\"warning\"," ++
    "\"locations\":[\x7b\"caret\":\x7b\"file\":\"x.c\"\x7d\x7d]\x7d," ++
    "\x7b\x7d,\x7b\"kind\":\"error\"\x7d]"

/-- The rejected record does no harm, and the queries may come in either order. -/
theorem clean_run_two :
    let lines := ["7,COMPILER_WARNING,x.c\n", "8,COMPILER_WARNING,<unknown>,and more\r\n"]
    let file (name : String) : Json.Value := .object [("file", .text name)]
    let root : Json.Value := .array
      [.object [("kind", .text "warning"), ("locations", .array [.object [("caret", file "x.c")]])],
        .object [], .object [("kind", .text "error")]]
    let cursor := Report.Cursor.ofRecords root.children
    let s := (Report.Stream.live twoDiagnostics Cleanup.standard .compiler cursor (.ok [])).1
    let depths : Json.Depths := ⟨100, 100⟩
    twoDiagnostics.hasError = false ∧
    Report.Stream.ofDocument depths twoDiagnostics Cleanup.standard = .ok (s, []) ∧
    Json.read depths.read twoDiagnostics.text = .ok root ∧ s.fatal = none ∧
    (∀ k, s.kind = some k → k.Legible Cleanup.standard root) ∧
    (∀ line ∈ lines, Query.ShortIdentifier line) ∧
    ∃ l, (run (always id : Normalizer Unit) s (.stream { lines })).linking = .ok l ∧
      l.isClean = true ∧ AddsUp id 100 s root lines ∧
      ∃ l', (run (always id : Normalizer Unit) s (.stream { lines := lines.reverse })).linking =
        .ok l' ∧ l'.isClean = true := by
  intro lines file root cursor s depths
  have opened : Report.Stream.ofDocument depths twoDiagnostics Cleanup.standard = .ok (s, []) := by
    rfl
  have read : Json.read depths.read twoDiagnostics.text = .ok root := by rfl
  have legible : ∀ k, s.kind = some k → k.Legible Cleanup.standard root := by
    intro k hk
    obtain rfl : .compiler = k := Option.some.inj hk
    exact Report.Kind.legible_of_isOk (by decide +kernel) (by decide +kernel)
  have few : ∀ line ∈ lines, ∀ id ∈ (Query.fields line).head?,
      id.countP Char.isDigit ≤ Decimal.maxDigits := by decide +kernel
  have short : ∀ line ∈ lines, Query.ShortIdentifier line := by
    intro line hl id checker file more hf _
    exact few line hl id (by rw [hf]; rfl)
  have outcome : ((run (always id : Normalizer Unit) s (.stream { lines })).linking.map
      isClean).toOption = some true := by decide +kernel
  obtain ⟨l, hl, clean, -, order⟩ :=
    clean_run (ε := Unit) id rfl opened read rfl legible lines "-" short
  have hclean : l.isClean = true := by
    rw [hl] at outcome
    exact Option.some.inj outcome
  obtain ⟨l', hl', same⟩ := order lines.reverse "-" (List.reverse_perm lines)
  exact ⟨rfl, opened, read, rfl, legible, short, l, hl, hclean, clean.mp hclean, l', hl',
    same.trans hclean⟩

end Findings.Linking
