import Findings.Proofs.Report.Containment
/-!
What calls leave as it is, whatever comes of them.

* `kept_next`, `kept_after`: calls move the cursor, count defects and mark the document;
* `ofDocument_cases`, `name_of_opened`: a stream that was just opened;
* `spent_of_none`: where a call gives nothing, no later call does anything.
-/

namespace Findings.Report

namespace Stream

/-- The stream `t` has everything from `s` but its cursor and its count, and at most a mark. -/
structure Kept (s t : Stream) : Prop where
  rules : t.rules = s.rules
  kind : t.kind = s.kind
  fatal : t.fatal = s.fatal
  scanProps : t.scanProps = s.scanProps
  document : t.document = s.document ∨ t.document = s.document.mark

namespace Kept

variable {s t u : Stream}

theorem refl (s : Stream) : Kept s s := ⟨rfl, rfl, rfl, rfl, .inl rfl⟩

theorem trans (h : Kept s t) (h' : Kept t u) : Kept s u where
  rules := h'.rules.trans h.rules
  kind := h'.kind.trans h.kind
  fatal := h'.fatal.trans h.fatal
  scanProps := h'.scanProps.trans h.scanProps
  document := by
    rcases h'.document with same | marked
    · exact same ▸ h.document
    · rw [marked]
      rcases h.document with same | marked
      · exact .inr (by rw [same])
      · exact .inr (by rw [marked]; rfl)

theorem name (h : Kept s t) : t.document.name = s.document.name := by
  rcases h.document with same | marked
  · rw [same]
  · rw [marked]
    rfl

end Kept

theorem kept_moved (s : Stream) (k : Kind) (c : Cursor) : Kept s (s.moved k c) :=
  ⟨rfl, rfl, rfl, rfl, .inl rfl⟩

theorem kept_complain (s : Stream) (o : Outcome) (fault : RecordFault) :
    Kept s (s.complain o fault).1 :=
  ⟨rfl, rfl, rfl, rfl, .inr rfl⟩

theorem kept_advance (s : Stream) (kind : Kind) (c : Cursor) :
    Kept s (s.advance kind c).stream := by
  fun_induction advance s kind c with
  | case1 s c read => exact s.kept_moved kind read.cursor
  | case2 s c read => exact s.kept_moved kind read.cursor
  | case3 s c read => exact ⟨rfl, rfl, rfl, rfl, .inl rfl⟩
  | case4 s c read _ _ _ _ _ ih => exact (s.kept_moved kind read.cursor).trans ih
  | case5 s c read s' outcome _ fault _ behind complaint marked _ ih =>
    have step := s'.kept_complain outcome fault
    rw [marked] at step
    exact ((s.kept_moved kind read.cursor).trans step).trans ih

theorem kept_next (s : Stream) : Kept s s.next.stream := by
  unfold next
  split
  · exact .refl s
  · exact s.kept_advance _ _

theorem kept_after (s : Stream) (n : Nat) : Kept s (s.after n) := by
  induction n generalizing s with
  | zero => exact .refl s
  | succ n ih => exact s.kept_next.trans (ih s.next.stream)

/-! ## Opened streams -/

section Opened

variable {depths : Json.Depths} {d : Document} {rules : List Cleanup.Rule} {s : Stream}
  {log : List Notice}

/-- A document is empty, broken, or a report. -/
theorem ofDocument_cases (opened : ofDocument depths d rules = .ok (s, log)) :
    s = { document := d, rules } ∨
      (∃ fatal, s = (broken d rules fatal).1 ∧ log = (broken d rules fatal).2) ∨
      ∃ k c scan, s = (live d rules k c scan).1 := by
  cases read : Json.read depths.read d.text with
  | error e =>
    rw [ofDocument, read] at opened
    dsimp only at opened
    split at opened
    · cases opened
    · exact .inr (.inl ⟨_, by rw [Except.ok.inj opened], by rw [Except.ok.inj opened]⟩)
  | ok root =>
    rcases ofRoot_ok_cases (ofRoot_of_opened opened read) with
      blank | ⟨fault, same⟩ | ⟨k, c, scan, -, -, -, same⟩
    · exact .inl blank
    · exact .inr (.inl ⟨.noFormat fault, by rw [← same], by rw [← same]⟩)
    · exact .inr (.inr ⟨k, c, scan, by rw [same]⟩)

theorem name_of_opened (opened : ofDocument depths d rules = .ok (s, log)) :
    s.document.name = d.name := by
  rcases ofDocument_cases opened with rfl | ⟨fatal, rfl, -⟩ | ⟨k, c, scan, rfl⟩
  · rfl
  · rfl
  · cases scan <;> rfl

end Opened

end Stream

/-! ## Spent streams -/

theorem Cursor.record_of_ended {k : Kind} {rules : List Cleanup.Rule} {c : Cursor}
    (h : (c.read k rules).outcome = .ok none) : c.next.record = .ok none := by
  simp only [read, readWith] at h
  rcases taken : c.next.record with o | _ | record
  · simp [taken] at h
  · rfl
  · simp [taken, map_eq_ok_iff] at h

/-- A cursor without records and runs stays where it is. -/
theorem Cursor.next_of_bare {c : Cursor} (bare : c.pending = [] ∧ c.runs = []) :
    c.next = { record := .ok none, cursor := c } := by
  obtain ⟨index, table, _, _⟩ := c
  obtain ⟨rfl, rfl⟩ := bare
  rfl

namespace Stream

theorem spent_of_bare {s : Stream} {k : Kind} {c : Cursor} (hc : s.cursor = some (k, c))
    (bare : c.pending = [] ∧ c.runs = []) : s.Spent := by
  have read : c.read k s.rules = { outcome := .ok none, cursor := c } := by
    rw [Cursor.read, Cursor.readWith, c.next_of_bare bare]
  have still : s.moved k c = s := by rw [moved, ← hc]
  rw [Spent, next_eq hc, read]
  dsimp only
  rw [still]

theorem spent_of_advance (s : Stream) (kind : Kind) (c : Cursor)
    (h : (s.advance kind c).defect = .ok none) : (s.advance kind c).stream.Spent := by
  fun_induction advance s kind c with
  | case1 => cases h
  | case2 s c read s' ended =>
    exact spent_of_bare rfl (Cursor.bare_of_none (Cursor.record_of_ended ended))
  | case3 => simp at h
  | case4 _ _ _ _ _ _ _ _ ih => exact ih h
  | case5 _ _ _ _ _ _ _ _ _ _ _ _ ih => exact ih h

/-- A stream is spent as soon as a call gives nothing. -/
theorem spent_of_none {s : Stream} (h : s.next.defect = .ok none) : s.next.stream.Spent := by
  cases hc : s.cursor with
  | none =>
    have spent := spent_of_no_cursor hc
    rw [spent]
    exact spent
  | some place =>
    rw [next, hc] at h ⊢
    exact s.spent_of_advance _ _ h

end Stream

end Findings.Report
