import Findings.Report.Cursor
/-!
The records of a report as one sequence, set against the cursor that opens runs one by one and keeps
one rule table for the run that is open.

* `openRuns_of_none`, `openRuns_of_some`: opening runs finds the next record, or that there is none;
* `next_of_remainder_nil`, `next_of_remainder_cons`: the cursor gives the sequence, each record
  while the table of its own run is in place.
-/

namespace Findings.Report

open Json (Value)

/-- A record, and the rules of the run that it stands in with their weakness numbers; only SARIF
logs have runs. -/
structure Record where
  rules : List Value := []
  table : Sarif.RuleTable := []
  node : Value
  legible : Sarif.addRules [] rules = .ok table := by rfl

/-- The records of a run. What is no object has none, and a run whose rules cannot be read is not
opened. -/
def Record.ofRun (run : Value) : List Record :=
  match run with
  | .object _ =>
    match legible : Sarif.ruleTable run with
    | .ok table => (Sarif.results run).map fun node =>
        { rules := ((Sarif.driver run).field "rules").children, table, node, legible }
    | .error _ => []
  | _ => []

/-- What stands under the field of a format that holds its records, or its runs. -/
def Kind.nodes (k : Kind) (root : Value) : List Value :=
  match k.recordsKey? with
  | some key => (root.field key).children
  | none => root.children

/-- The records of a format are the nodes there, if these are to be had at all. -/
theorem Kind.records_cases (k : Kind) (root : Value) :
    k.records root = .ok (k.nodes root) ∨
      k.nodes root = [] ∧ ∃ fault, k.records root = .error fault := by
  unfold Kind.records Kind.nodes
  cases k.recordsKey? with
  | none => exact .inl rfl
  | some key =>
    dsimp only
    unfold recordsUnder
    cases root.field key with
    | array _ => exact .inl rfl
    | object _ => exact .inl rfl
    | _ => exact .inr ⟨rfl, _, rfl⟩

/-- All records of a report, in the order of the text. -/
def Kind.recordSequence (k : Kind) (root : Value) : List Record :=
  match k with
  | .sarif => (k.nodes root).flatMap Record.ofRun
  | _ => (k.nodes root).map fun node => { node }

/-- No weakness number in the rules of a run is too long to be read. -/
def LegibleRules (runs : List Value) : Prop :=
  ∀ fields o, .object fields ∈ runs → Sarif.ruleTable (.object fields) ≠ .error o

theorem legibleRules_nil : LegibleRules [] :=
  fun _ _ h => absurd h List.not_mem_nil

theorem LegibleRules.tail {run : Value} {runs : List Value} (h : LegibleRules (run :: runs)) :
    LegibleRules runs :=
  fun fields o hr => h fields o (List.mem_cons_of_mem run hr)

/-- A record as the cursor hands it out: with the table that is in place. -/
def Record.ruled (r : Record) : Sarif.RuleTable × Value := (r.table, r.node)

/-- The records of a run whose rules can be read. -/
theorem Record.ruled_ofRun (fields : List (String × Value)) (own : Sarif.RuleTable)
    (h : Sarif.ruleTable (.object fields) = .ok own) :
    (ofRun (.object fields)).map ruled = (Sarif.results (.object fields)).map fun node =>
      (own, node) := by
  unfold ofRun
  dsimp only
  split
  · next table read =>
    obtain rfl : table = own := Except.ok.inj (read.symm.trans h)
    rw [List.map_map]
    rfl
  · next o read => cases read.symm.trans h

namespace Cursor

/-- What the cursor has still to hand out. -/
def remainder (c : Cursor) : List (Sarif.RuleTable × Value) :=
  (c.pending.map fun node => (c.table, node)) ++ (c.runs.flatMap Record.ofRun).map Record.ruled

theorem openRuns_of_none (table : Sarif.RuleTable) (runs : List Value) (hl : LegibleRules runs)
    (h : (runs.flatMap Record.ofRun).map Record.ruled = []) :
    (openRuns table runs).oversize = none ∧ (openRuns table runs).pending = [] := by
  induction runs generalizing table with
  | nil => exact ⟨rfl, rfl⟩
  | cons run runs ih =>
    rw [List.flatMap_cons, List.map_append, List.append_eq_nil_iff] at h
    cases run with
    | object fields =>
      cases ht : Sarif.ruleTable (.object fields) with
      | error o => exact absurd ht (hl fields o List.mem_cons_self)
      | ok own =>
        rw [Record.ruled_ofRun fields own ht, List.map_eq_nil_iff] at h
        simpa [openRuns, ht, h.1] using ih own hl.tail h.2
    | _ => simpa [openRuns] using ih table hl.tail h.2

theorem openRuns_of_some (table : Sarif.RuleTable) (runs : List Value) (hl : LegibleRules runs)
    (r : Sarif.RuleTable × Value) (rest : List (Sarif.RuleTable × Value))
    (h : (runs.flatMap Record.ofRun).map Record.ruled = r :: rest) :
    ∃ pending, (openRuns table runs).oversize = none ∧
      (openRuns table runs).pending = r.2 :: pending ∧ (openRuns table runs).table = r.1 ∧
      rest = (pending.map fun node => (r.1, node)) ++
        ((openRuns table runs).runs.flatMap Record.ofRun).map Record.ruled ∧
      LegibleRules (openRuns table runs).runs := by
  induction runs generalizing table with
  | nil => simp at h
  | cons run runs ih =>
    rw [List.flatMap_cons, List.map_append] at h
    cases run with
    | object fields =>
      cases ht : Sarif.ruleTable (.object fields) with
      | error o => exact absurd ht (hl fields o List.mem_cons_self)
      | ok own =>
        rw [Record.ruled_ofRun fields own ht] at h
        cases hr : Sarif.results (.object fields) with
        | nil =>
          -- The table of an empty run stays in place only until the next run is opened.
          rw [hr] at h
          simpa [openRuns, ht, hr] using ih own hl.tail h
        | cons node nodes =>
          rw [hr, List.map_cons, List.cons_append, List.cons.injEq] at h
          obtain ⟨rfl, rfl⟩ := h
          exact ⟨nodes, by simp [openRuns, ht, hr], by simp [openRuns, ht, hr],
            by simp [openRuns, ht, hr], by simp [openRuns, ht, hr],
            by simpa [openRuns, ht, hr] using hl.tail⟩
    | _ => simpa [openRuns] using ih table hl.tail h

variable {c : Cursor}

theorem next_of_remainder_nil (hl : LegibleRules c.runs) (h : c.remainder = []) :
    c.next.record = .ok none ∧ c.next.cursor.remainder = [] ∧ LegibleRules c.next.cursor.runs := by
  rw [remainder, List.append_eq_nil_iff, List.map_eq_nil_iff] at h
  obtain ⟨none, empty⟩ := openRuns_of_none c.table c.runs hl h.2
  simp [next, h.1, none, empty, remainder, LegibleRules]

theorem next_of_remainder_cons (hl : LegibleRules c.runs) (r : Sarif.RuleTable × Value)
    (rest : List (Sarif.RuleTable × Value)) (h : c.remainder = r :: rest) :
    c.next.record = .ok (some (c.index, r.2)) ∧ c.next.cursor.table = r.1 ∧
      c.next.cursor.index = c.index + 1 ∧ c.next.cursor.remainder = rest ∧
      LegibleRules c.next.cursor.runs := by
  rw [remainder] at h
  cases hp : c.pending with
  | cons node nodes =>
    rw [hp, List.map_cons, List.cons_append, List.cons.injEq] at h
    obtain ⟨rfl, rfl⟩ := h
    simpa [next, hp, remainder] using hl
  | nil =>
    rw [hp, List.map_nil, List.nil_append] at h
    -- The run that is open has no more results: the record is the first of a later run.
    obtain ⟨pending, none, head, table, tail, legible⟩ :=
      openRuns_of_some c.table c.runs hl r rest h
    simpa [next, hp, none, head, table, tail, remainder] using legible

end Cursor

end Findings.Report
