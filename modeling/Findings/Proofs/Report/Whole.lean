import Findings.Proofs.Report.Containment
/-!
A document that is read to its end, from opening it on.

* `Stream.gather_of_yields`: reading on uses up all outcomes that are still to come;
* `LegibleText.gathered`: what was given, how much of it, and whether anything was wrong.
-/

namespace Findings.Report

theorem consumed_append_behindFirst (os : List Outcome) : consumed 1 os ++ behindFirst os = os :=
  List.prefix_iff_eq_append.mp (isPrefix_consumed 1 os)

theorem Stream.gather_of_yields {s : Stream} {os : List Outcome} (h : s.Yields os) :
    s.gather.defects = .ok (defectsOf os) ∧ Advanced s s.gather.stream os s.gather.notices := by
  induction left : defectsOf os generalizing s os with
  | nil =>
    obtain ⟨given, -, moved⟩ := Stream.advanced_next h
    have none : (defectsOf os).head? = none := by rw [left]; rfl
    have all := consumed_append_behindFirst os
    rw [behindFirst_of_none os none, List.append_nil] at all
    rw [all] at moved
    rw [none] at given
    rw [gather_of_none s given]
    exact ⟨rfl, moved⟩
  | cons d ds ih =>
    obtain ⟨given, behind, moved⟩ := Stream.advanced_next h
    obtain ⟨defects, rest⟩ := ih behind (by rw [defectsOf_behindFirst, left]; rfl)
    have first : (defectsOf os).head? = some d := by rw [left]; rfl
    rw [first] at given
    rw [gather_of_some s d given]
    refine ⟨?_, ?_⟩
    · dsimp only
      rw [defects]
      rfl
    · rw [← consumed_append_behindFirst os]
      exact moved.trans rest

variable {depths : Json.Depths} {d : Document} {rules : List Cleanup.Rule}

theorem anyFailed_eq_false_iff (os : List Outcome) :
    anyFailed os = false ↔ ∀ o ∈ os, ∀ fault, o.status ≠ .failed fault := by
  rw [anyFailed, List.any_eq_false]
  refine forall₂_congr fun o _ => ?_
  cases o.status <;> simp [Status.isFailed]

/-- What the document says about the scan can be read, if it has a format. -/
def ScanReadable (depths : Json.Depths) (d : Document) : Prop :=
  ∀ root k, Json.read depths.read d.text = .ok root → Kind.detect root = .ok k →
    ∀ fault, k.scanProps depths.written root ≠ .ok (.error fault)

/-- Nothing of the document failed: neither what it says about the scan nor any of its records. -/
structure Faultless (depths : Json.Depths) (d : Document) (rules : List Cleanup.Rule) : Prop where
  scan : ScanReadable depths d
  records : ∀ o ∈ outcomesOf depths d rules, ∀ fault, o.status ≠ .failed fault

/-- A stream that was just opened, with all outcomes of its document still to come. -/
structure Stream.Fresh (depths : Json.Depths) (d : Document) (rules : List Cleanup.Rule)
    (s : Stream) : Prop where
  live : s.fatal = none
  uncounted : s.count = 0
  scan : s.document.hasError = false ↔ ScanReadable depths d
  outcomes : s.Yields (outcomesOf depths d rules) ∨ s.cursor = none ∧ outcomesOf depths d rules = []

variable {root : Json.Value} {k : Kind} {c : Cursor}

theorem fresh_blank (unmarked : d.hasError = false) (read : Json.read depths.read d.text = .ok root)
    (empty : root.isEmpty = true) : ({ document := d, rules } : Stream).Fresh depths d rules where
  live := rfl
  uncounted := rfl
  scan := by
    refine iff_of_true unmarked fun root' k read' found => ?_
    obtain rfl := eq_of_eq_ok read read'
    cases (Kind.detect_of_isEmpty empty).symm.trans found
  outcomes := .inr ⟨rfl, by simp [outcomesOf, read, Kind.detect_of_isEmpty empty]⟩

theorem fresh_live (unmarked : d.hasError = false) (read : Json.read depths.read d.text = .ok root)
    (found : Kind.detect root = .ok k) (start : Cursor.start k root = .ok c)
    {scan : Except RecordFault (List (String × String))}
    (written : k.scanProps depths.written root = .ok scan) (legible : k.Legible rules root) :
    (Stream.live d rules k c scan).1.Fresh depths d rules := by
  obtain ⟨kind, cursor, same, own⟩ := Stream.live_fields rules unmarked c written
  refine ⟨Stream.live_fatal .., ?_, own.trans ⟨fun own root' k' read' found' => ?_, fun all => ?_⟩,
    .inl ⟨k, c, cursor, ?_⟩⟩
  · cases scan <;> rfl
  · obtain rfl := eq_of_eq_ok read read'
    obtain rfl := eq_of_eq_ok found found'
    obtain ⟨props, legible⟩ := own k kind
    rw [legible]
    exact fun fault => nofun
  · intro k' kind'
    obtain rfl := Option.some.inj (kind.symm.trans kind')
    cases scan with
    | ok props => exact ⟨props, written⟩
    | error fault => exact absurd written (all root k read found fault)
  · rw [same, outcomesOf, read]
    dsimp only
    rw [found]
    exact Cursor.yields_start start legible

/-- A stream that was just opened and can go on has nothing to come, or it is in front of the first
record. -/
theorem LegibleText.fresh {s : Stream} {notices : List Notice} (h : LegibleText depths d rules)
    (unmarked : d.hasError = false) (opened : Stream.ofDocument depths d rules = .ok (s, notices))
    (live : s.fatal = none) : s.Fresh depths d rules := by
  cases read : Json.read depths.read d.text with
  | error e =>
    rcases Stream.done_or_live opened with ⟨-, -, loadable⟩ | ⟨root, -, -, -, read', -⟩
    · obtain ⟨root, read', -⟩ := loadable.mp live
      cases read.symm.trans read'
    · cases read.symm.trans read'
  | ok root =>
    rcases Stream.ofRoot_cases depths.written d rules root with
      ⟨empty, same⟩ | ⟨-, fault, same, -⟩ | ⟨-, k, c, same, found, start⟩
    · obtain ⟨rfl, -⟩ := Prod.mk.inj (eq_of_eq_ok same (Stream.ofRoot_of_opened opened read))
      exact fresh_blank unmarked read empty
    · obtain ⟨rfl, -⟩ := Prod.mk.inj (eq_of_eq_ok same (Stream.ofRoot_of_opened opened read))
      cases live
    · rw [Stream.ofRoot_of_opened opened read] at same
      cases written : k.scanProps depths.written root with
      | error fault =>
        rw [written] at same
        cases same
      | ok scan =>
        rw [written] at same
        obtain ⟨rfl, -⟩ := Prod.mk.inj (Except.ok.inj same)
        exact fresh_live unmarked read found start written (h.records root k read found)

theorem loadable_of_live {s : Stream} {notices : List Notice}
    (opened : Stream.ofDocument depths d rules = .ok (s, notices)) (live : s.fatal = none) :
    Loadable depths d := by
  rcases Stream.done_or_live opened with
    ⟨-, -, loadable⟩ | ⟨root, k, c, scan, read, found, start, -⟩
  · exact loadable.mp live
  · exact ⟨root, read, .inr ⟨k, c, found, start⟩⟩

/-- **A whole document.** Reading on to the end gives the defects of its outcomes and counts them;
the document is left unmarked if nothing of it failed, and only then. -/
theorem Stream.Fresh.gathered {s : Stream} (h : s.Fresh depths d rules) :
    s.gather.defects = .ok (defectsOf (outcomesOf depths d rules)) ∧
      s.gather.stream.count = (defectsOf (outcomesOf depths d rules)).length ∧
      (s.gather.stream.document.hasError = false ↔ Faultless depths d rules) := by
  rcases h.outcomes with yields | ⟨none, empty⟩
  · obtain ⟨defects, moved⟩ := Stream.gather_of_yields yields
    refine ⟨defects, by rw [moved.count, h.uncounted, Nat.zero_add], ?_⟩
    rw [moved.hasError, Bool.or_eq_false_iff, h.scan, anyFailed_eq_false_iff]
    exact ⟨fun both => ⟨both.1, both.2⟩, fun fine => ⟨fine.scan, fine.records⟩⟩
  · have spent := Stream.spent_of_no_cursor none
    rw [gather_of_none s (by rw [spent]), empty]
    dsimp only
    rw [spent]
    refine ⟨rfl, h.uncounted, h.scan.trans ⟨fun scan => ⟨scan, ?_⟩, Faultless.scan⟩⟩
    rw [empty]
    exact fun o mem => absurd mem List.not_mem_nil

/-- Two streams of one document that were just opened come to the same end. -/
theorem Stream.Fresh.hasError_eq {s t : Stream} (h : s.Fresh depths d rules)
    (h' : t.Fresh depths d rules) :
    s.gather.stream.document.hasError = t.gather.stream.document.hasError := by
  obtain ⟨-, -, unmarked⟩ := h.gathered
  obtain ⟨-, -, unmarked'⟩ := h'.gathered
  rw [Bool.eq_iff_iff, ← not_iff_not, Bool.not_eq_true, Bool.not_eq_true, unmarked, unmarked']

end Findings.Report
