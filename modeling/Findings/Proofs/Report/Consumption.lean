import Findings.Proofs.Report.Gathered
/-!
What a stream uses up of the outcomes that its records still have to give, and what it does about
them: the count of its defects, the mark on its document, and the lines in which it complains.

* `consumed`: the outcomes up to a defect; `consumed_append_drop`, `defectsOf_consumed`;
* `Yields`: what a cursor, or a stream, has still to give;
* `advanced_next`: one call uses up the outcomes to the next defect, or all of them.
-/

namespace Findings

/-- The lines that report an error. -/
def errors (log : List Notice) : List Notice := log.filter fun n => n.severity = .error

@[simp] theorem errors_nil : errors [] = [] := rfl

@[simp] theorem errors_append (log more : List Notice) :
    errors (log ++ more) = errors log ++ errors more :=
  List.filter_append ..

namespace Report

/-! ## Outcomes -/

/-- The defects among some outcomes. -/
def defectsOf (os : List Outcome) : List Defect := os.filterMap fun o => o.status.defect?

def anyFailed (os : List Outcome) : Bool := os.any fun o => o.status.isFailed

/-- The outcomes up to the defect with this number, counted from one; all of them, if there are not
so many defects. -/
def consumed : Nat → List Outcome → List Outcome
  | 0, _ => []
  | _ + 1, [] => []
  | n + 1, o :: os =>
    o :: match o.status.defect? with
      | some _ => consumed n os
      | none => consumed (n + 1) os

/-- The line about a record that failed. -/
def Outcome.complaint? (name : String) (o : Outcome) : Option Notice :=
  match o.status with
  | .failed fault =>
    some ⟨.error, name ++ ": error: " ++
      ("failed to read defect #" ++ toString o.index ++ ": " ++ fault.message)⟩
  | _ => none

/-- What a document says about outcomes; a silent one says nothing. -/
def complaints (d : Document) (os : List Outcome) : List Notice :=
  if d.silent then [] else os.filterMap (Outcome.complaint? d.name)

section Outcomes

variable (n : Nat) (o : Outcome) (os more : List Outcome)

@[simp] theorem consumed_zero : consumed 0 os = [] := by cases os <;> rfl

@[simp] theorem consumed_nil : consumed n [] = [] := by cases n <;> rfl

theorem consumed_cons_of_some {o : Outcome} {d : Defect} (h : o.status.defect? = some d) :
    consumed (n + 1) (o :: os) = o :: consumed n os := by
  rw [consumed, h]

theorem consumed_cons_of_none {o : Outcome} (h : o.status.defect? = none) :
    consumed (n + 1) (o :: os) = o :: consumed (n + 1) os := by
  rw [consumed, h]

theorem isPrefix_consumed : consumed n os <+: os := by
  induction os generalizing n with
  | nil => simp
  | cons o os ih =>
    cases n with
    | zero => simp
    | succ n =>
      cases h : o.status.defect? with
      | some d =>
        rw [consumed_cons_of_some n os h]
        exact List.cons_prefix_cons.mpr ⟨rfl, ih n⟩
      | none =>
        rw [consumed_cons_of_none n os h]
        exact List.cons_prefix_cons.mpr ⟨rfl, ih (n + 1)⟩

theorem consumed_prefix_of_le {n m : Nat} (h : n ≤ m) : consumed n os <+: consumed m os := by
  induction os generalizing n m with
  | nil => simp
  | cons o os ih =>
    cases n with
    | zero => simp
    | succ n =>
      obtain ⟨m, rfl⟩ : ∃ m', m = m' + 1 := ⟨m - 1, by omega⟩
      cases hd : o.status.defect? with
      | some d =>
        rw [consumed_cons_of_some n os hd, consumed_cons_of_some m os hd]
        exact List.cons_prefix_cons.mpr ⟨rfl, ih (by omega)⟩
      | none =>
        rw [consumed_cons_of_none n os hd, consumed_cons_of_none m os hd]
        exact List.cons_prefix_cons.mpr ⟨rfl, ih h⟩

theorem defectsOf_consumed : defectsOf (consumed n os) = (defectsOf os).take n := by
  induction os generalizing n with
  | nil => simp [defectsOf]
  | cons o os ih =>
    cases n with
    | zero => simp [defectsOf]
    | succ n =>
      cases h : o.status.defect? with
      | some d =>
        rw [consumed_cons_of_some n os h]
        simpa [defectsOf, h] using ih n
      | none =>
        rw [consumed_cons_of_none n os h]
        simpa [defectsOf, h] using ih (n + 1)

/-- What is left behind the first defect. -/
def behindFirst (os : List Outcome) : List Outcome := os.drop (consumed 1 os).length

@[simp] theorem behindFirst_nil : behindFirst [] = [] := rfl

theorem behindFirst_cons_of_some {o : Outcome} {d : Defect} (h : o.status.defect? = some d) :
    behindFirst (o :: os) = os := by
  rw [behindFirst, consumed_cons_of_some 0 os h, consumed_zero]
  rfl

theorem behindFirst_cons_of_none {o : Outcome} (h : o.status.defect? = none) :
    behindFirst (o :: os) = behindFirst os := by
  rw [behindFirst, consumed_cons_of_none 0 os h]
  rfl

theorem consumed_succ : consumed (n + 1) os = consumed 1 os ++ consumed n (behindFirst os) := by
  induction os with
  | nil => simp
  | cons o os ih =>
    cases h : o.status.defect? with
    | some d =>
      rw [consumed_cons_of_some n os h, consumed_cons_of_some 0 os h, behindFirst_cons_of_some os h]
      simp
    | none =>
      rw [consumed_cons_of_none n os h, consumed_cons_of_none 0 os h, behindFirst_cons_of_none os h,
        ih, List.cons_append]

theorem defectsOf_behindFirst : defectsOf (behindFirst os) = (defectsOf os).tail := by
  induction os with
  | nil => rfl
  | cons o os ih =>
    cases h : o.status.defect? with
    | some d =>
      rw [behindFirst_cons_of_some os h]
      simp [defectsOf, h]
    | none =>
      rw [behindFirst_cons_of_none os h, ih]
      simp [defectsOf, h]

/-- Where there is no defect, everything is used up. -/
theorem behindFirst_of_none (h : (defectsOf os).head? = none) : behindFirst os = [] := by
  induction os with
  | nil => rfl
  | cons o os ih =>
    cases hd : o.status.defect? with
    | some d => simp [defectsOf, hd] at h
    | none =>
      simp only [defectsOf, List.filterMap_cons, hd] at h
      rw [behindFirst_cons_of_none os hd, ih h]

@[simp] theorem complaints_append (d : Document) :
    complaints d (os ++ more) = complaints d os ++ complaints d more := by
  unfold complaints
  split <;> simp

@[simp] theorem anyFailed_append : anyFailed (os ++ more) = (anyFailed os || anyFailed more) :=
  List.any_append ..

end Outcomes

/-! ## What is still to come -/

/-- Reading on gives these outcomes, and then none for ever. -/
def Cursor.Yields (k : Kind) (rules : List Cleanup.Rule) (c : Cursor) (os : List Outcome) : Prop :=
  ∀ i, ((c.after k rules i).read k rules).outcome = .ok os[i]?

namespace Cursor

variable {k : Kind} {rules : List Cleanup.Rule} {c : Cursor} {os : List Outcome}

theorem Yields.outcome (h : c.Yields k rules os) : (c.read k rules).outcome = .ok os.head? := by
  rw [List.head?_eq_getElem?]
  exact h 0

theorem Yields.tail (h : c.Yields k rules os) : (c.read k rules).cursor.Yields k rules os.tail := by
  intro i
  rw [List.getElem?_tail]
  exact h (i + 1)

theorem index_next (c : Cursor) (i : Nat) (node : Json.Value)
    (h : c.next.record = .ok (some (i, node))) :
    i = c.index ∧ c.next.cursor.index = c.index + 1 := by
  unfold next at h ⊢
  split
  · simp_all
  · dsimp only at h ⊢
    split <;> simp_all

/-- Records are numbered as they come. -/
theorem Yields.index (h : c.Yields k rules os) (i : Nat) (o : Outcome) (ho : os[i]? = some o) :
    o.index = c.index + i := by
  have number (c : Cursor) (o : Outcome) (ho : (c.read k rules).outcome = .ok (some o)) :
      o.index = c.index ∧ (c.read k rules).cursor.index = c.index + 1 := by
    obtain ⟨node, taken, -⟩ := (c.read_eq_some_iff k rules o).mp ho
    exact c.index_next o.index node taken
  induction i generalizing c os with
  | zero => exact (number c o ((h 0).trans (congrArg Except.ok ho))).1
  | succ i ih =>
    cases os with
    | nil => cases ho
    | cons first os =>
      obtain ⟨-, moved⟩ := number c first (h 0)
      rw [ih h.tail ho, moved]
      omega

theorem errors_openRuns (table : Sarif.RuleTable) (runs : List Json.Value) :
    errors (openRuns table runs).notices = [] := by
  induction runs generalizing table with
  | nil => rfl
  | cons run runs ih =>
    cases run with
    | object fields =>
      simp only [openRuns]
      split
      · rfl
      · split
        · exact ih _
        · rfl
    | _ => exact ih table

/-- Reading a record reports no error by itself. -/
theorem errors_read (k : Kind) (rules : List Cleanup.Rule) (c : Cursor) :
    errors (c.read k rules).notices = [] := by
  change errors c.next.notices = []
  unfold next
  split
  · rfl
  · dsimp only
    split <;> exact errors_openRuns c.table c.runs

end Cursor

/-- The stream can go on, and these outcomes are still to come. -/
def Stream.Yields (s : Stream) (os : List Outcome) : Prop :=
  ∃ k c, s.cursor = some (k, c) ∧ c.Yields k s.rules os

/-- The outcomes of the records of a report, each under its number. -/
def Kind.outcomes (k : Kind) (rules : List Cleanup.Rule) (root : Json.Value) : List Outcome :=
  ((k.recordSequence root).filterMap fun r => (k.status rules r).toOption).mapIdx
    fun index status => { index, status }

section Outcomes

variable {k : Kind} {rules : List Cleanup.Rule} {root : Json.Value} {c : Cursor}

theorem Kind.length_outcomes (legible : k.Legible rules root) :
    (k.outcomes rules root).length = (k.recordSequence root).length := by
  have each := congrArg List.length (Stream.map_status legible)
  rw [List.length_map, List.length_map] at each
  rw [Kind.outcomes, List.length_mapIdx, each]

theorem Kind.getElem?_outcomes (legible : k.Legible rules root) {i : Nat} {r : Record}
    (found : (k.recordSequence root)[i]? = some r) :
    ∃ status, k.status rules r = .ok status ∧
      (k.outcomes rules root)[i]? = some { index := i, status } := by
  have each := congrArg (·[i]?) (Stream.map_status legible)
  simp only [List.getElem?_map] at each
  rw [found, Option.map_some, eq_comm, Option.map_eq_some_iff] at each
  obtain ⟨status, there, same⟩ := each
  refine ⟨status, same.symm, ?_⟩
  rw [Kind.outcomes, List.getElem?_mapIdx, there]
  rfl

/-- Where all numbers can be read, a cursor at the first record gives the outcome of each. -/
theorem Cursor.yields_start (start : Cursor.start k root = .ok c)
    (legible : k.Legible rules root) : c.Yields k rules (k.outcomes rules root) := by
  intro i
  rw [outcome_after start legible]
  cases found : (k.recordSequence root)[i]? with
  | none =>
    rw [List.getElem?_eq_none_iff, ← Kind.length_outcomes legible] at found
    rw [List.getElem?_eq_none found]
  | some r =>
    obtain ⟨status, read, there⟩ := Kind.getElem?_outcomes legible found
    rw [there]
    dsimp only
    rw [read]
    rfl

end Outcomes

/-! ## Moving on -/

/-- The stream `t` is `s` after it has used up some outcomes, with the log of what it said. -/
structure Advanced (s t : Stream) (os : List Outcome) (log : List Notice) : Prop where
  name : t.document.name = s.document.name
  silent : t.document.silent = s.document.silent
  rules : t.rules = s.rules
  count : t.count = s.count + (defectsOf os).length
  hasError : t.document.hasError = (s.document.hasError || anyFailed os)
  errors : errors log = complaints s.document os

namespace Advanced

variable {s t u : Stream} {os more : List Outcome} {log log' : List Notice}

theorem refl (s : Stream) : Advanced s s [] [] where
  name := rfl
  silent := rfl
  rules := rfl
  count := rfl
  hasError := (Bool.or_false _).symm
  errors := by simp [complaints]

theorem trans (h : Advanced s t os log) (h' : Advanced t u more log') :
    Advanced s u (os ++ more) (log ++ log') where
  name := h'.name.trans h.name
  silent := h'.silent.trans h.silent
  rules := h'.rules.trans h.rules
  count := by
    rw [h'.count, h.count, defectsOf, defectsOf, defectsOf, List.filterMap_append,
      List.length_append, Nat.add_assoc]
  hasError := by rw [h'.hasError, h.hasError, anyFailed_append, Bool.or_assoc]
  errors := by
    have same : complaints t.document more = complaints s.document more := by
      rw [complaints, complaints, h.silent, h.name]
    rw [errors_append, h.errors, h'.errors, same, complaints_append]

end Advanced

namespace Stream

variable {s : Stream} {k : Kind} {c : Cursor}

/-- A record without a defect is one that the stream passes over, and then it starts anew. -/
theorem next_of_skipped (hc : s.cursor = some (k, c)) (o : Outcome)
    (h : (c.read k s.rules).outcome = .ok (some o)) (ho : o.status.defect? = none) :
    ∃ t log, s.next = { t.next with notices := log ++ t.next.notices } ∧
      t.cursor = some (k, (c.read k s.rules).cursor) ∧ Advanced s t [o] log := by
  have quiet := Cursor.errors_read k s.rules c
  rw [next_eq hc]
  dsimp only
  rw [h]
  dsimp only
  cases hs : o.status with
  | decoded d => simp [hs, Status.defect?] at ho
  | rejected =>
    refine ⟨s.moved k (c.read k s.rules).cursor, _, rfl, rfl, rfl, rfl, rfl, ?_, ?_, ?_⟩
    · simp [moved, defectsOf, hs, Status.defect?]
    · simp [moved, anyFailed, hs, Status.isFailed]
    · simp [quiet, complaints, Outcome.complaint?, hs]
  | failed fault =>
    refine ⟨((s.moved k (c.read k s.rules).cursor).complain o fault).1, _, rfl, rfl, rfl, rfl, rfl,
      ?_, ?_, ?_⟩
    · simp [moved, complain, defectsOf, hs, Status.defect?]
    · simp [complain, Document.failPart, Document.mark, anyFailed, hs, Status.isFailed]
    · rw [errors_append, quiet, List.nil_append]
      simp only [moved, complain, Document.failPart, complaints]
      by_cases silent : s.document.silent
      · simp [silent]
      · simp [silent, Outcome.complaint?, hs, errors]

/-- **One call.** It gives the first defect that is still to come, and uses up what stands in front
of it; where none is to come, it gives none and uses up all. -/
theorem advanced_next {os : List Outcome} (h : s.Yields os) :
    s.next.defect = .ok (defectsOf os).head? ∧ s.next.stream.Yields (behindFirst os) ∧
      Advanced s s.next.stream (consumed 1 os) s.next.notices := by
  induction os generalizing s with
  | nil =>
    obtain ⟨k, c, hc, yields⟩ := h
    have quiet := Cursor.errors_read k s.rules c
    have ended : s.next =
        { defect := .ok none, stream := s.moved k (c.read k s.rules).cursor
          notices := (c.read k s.rules).notices } := by
      rw [next_eq hc]
      dsimp only
      rw [yields.outcome]
      rfl
    rw [ended]
    refine ⟨rfl, ⟨k, _, rfl, yields.tail⟩, rfl, rfl, rfl, rfl, (Bool.or_false _).symm, ?_⟩
    rw [quiet]
    simp [complaints]
  | cons o os ih =>
    obtain ⟨k, c, hc, yields⟩ := h
    cases ho : o.status.defect? with
    | some d =>
      obtain ⟨i, status⟩ := o
      obtain rfl : status = .decoded d := Status.eq_decoded ho
      have quiet := Cursor.errors_read k s.rules c
      have given : s.next =
          { defect := .ok (some d)
            stream := { s.moved k (c.read k s.rules).cursor with count := s.count + 1 }
            notices := (c.read k s.rules).notices } := by
        rw [next_eq hc]
        dsimp only
        rw [yields.outcome]
        rfl
      rw [given, consumed_cons_of_some 0 os ho, consumed_zero, behindFirst_cons_of_some os ho]
      refine ⟨rfl, ⟨k, _, rfl, yields.tail⟩, rfl, rfl, rfl, rfl, (Bool.or_false _).symm, ?_⟩
      rw [quiet]
      simp [complaints, Outcome.complaint?]
    | none =>
      obtain ⟨t, log, step, cursor, first⟩ := next_of_skipped hc o yields.outcome ho
      have left : t.Yields os := ⟨k, _, cursor, first.rules ▸ yields.tail⟩
      obtain ⟨given, behind, rest⟩ := ih left
      rw [step, consumed_cons_of_none 0 os ho, behindFirst_cons_of_none os ho]
      refine ⟨?_, behind, first.trans rest⟩
      rw [given, defectsOf, defectsOf, List.filterMap_cons, ho]

end Stream

end Report

end Findings
