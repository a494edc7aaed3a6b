import Findings.Query
/-!
The queries of a stream of lines.

* `nextIn_of_queries_nil`, `nextIn_of_queries_cons`: reading the stream gives them one by one, and
  ends with the error flag that the lines deserve;
* `queriesOf_of_short`, `length_filterMap_query?`: lines have the queries of the well-formed ones
  among them, and so many.
-/

namespace Findings.Query

/-- The queries of some lines, in their order; lines that are no query have none. -/
def queriesOf : List String → Except Decimal.Oversize (List Query)
  | [] => .ok []
  | line :: rest =>
    match ofLine line with
    | .ok (.ok q) => (queriesOf rest).map (q :: ·)
    | .ok (.error o) => .error o
    | .error _ => queriesOf rest

/-- Whether the line is no query. -/
def isBad (line : String) : Bool :=
  match ofLine line with
  | .ok _ => false
  | .error _ => true

namespace Stream

/-- The error flag behind the last line. -/
def faulty (s : Stream) : Bool := s.hasError || s.lines.any isBad

variable (name : String) (lineno : Nat) (hasError : Bool) (lines : List String)

theorem nextIn_of_queries_nil (h : queriesOf lines = .ok []) :
    (nextIn name lineno hasError lines).query = .ok none ∧
      (nextIn name lineno hasError lines).stream.hasError = (hasError || lines.any isBad) := by
  induction lines generalizing lineno hasError with
  | nil => simp [nextIn]
  | cons line rest ih =>
    rcases hl : ofLine line with fault | o | q
    · have bad : isBad line = true := by simp [isBad, hl]
      simp only [queriesOf, hl] at h
      simpa [nextIn, hl, bad] using ih (lineno + 1) true h
    · simp [queriesOf, hl] at h
    · cases hr : queriesOf rest <;> simp [queriesOf, hl, hr, Except.map] at h

theorem nextIn_of_queries_cons (q : Query) (qs : List Query)
    (h : queriesOf lines = .ok (q :: qs)) :
    (nextIn name lineno hasError lines).query = .ok (some q) ∧
      queriesOf (nextIn name lineno hasError lines).stream.lines = .ok qs ∧
      (nextIn name lineno hasError lines).stream.faulty = (hasError || lines.any isBad) := by
  induction lines generalizing lineno hasError with
  | nil => simp [queriesOf] at h
  | cons line rest ih =>
    rcases hl : ofLine line with fault | o | p
    · have bad : isBad line = true := by simp [isBad, hl]
      simp only [queriesOf, hl] at h
      simpa [nextIn, hl, bad] using ih (lineno + 1) true h
    · simp [queriesOf, hl] at h
    · have good : isBad line = false := by simp [isBad, hl]
      cases hr : queriesOf rest with
      | error o => simp [queriesOf, hl, hr, Except.map] at h
      | ok others =>
        simp only [queriesOf, hl, hr, Except.map, Except.ok.injEq, List.cons.injEq] at h
        obtain ⟨rfl, rfl⟩ := h
        simp [nextIn, hl, hr, faulty, good]

end Stream

/-! ## Well-formed lines -/

/-- A minus sign or none, then digits. -/
def IsIdentifier (cs : List Char) : Prop :=
  ∃ sign digits, cs = sign ++ digits ∧ (sign = [] ∨ sign = ['-']) ∧ digits ≠ [] ∧
    ∀ c ∈ digits, c.isDigit

/-- The fields of a line, without its ending. -/
def fields (line : String) : List (List Char) := Text.splitAt ',' (withoutEnding line.toList)

/-- Three fields at least, the first of them an identifier. -/
def WellFormed (line : String) : Prop :=
  ∃ id checker file more, fields line = id :: checker :: file :: more ∧ IsIdentifier id

/-- The identifier of the line, if it has one, can be read. -/
def ShortIdentifier (line : String) : Prop :=
  ∀ id checker file more, fields line = id :: checker :: file :: more → IsIdentifier id →
    id.countP Char.isDigit ≤ Decimal.maxDigits

/-- The query of a line that has one. -/
def query? (line : String) : Option Query :=
  match ofLine line with
  | .ok (.ok q) => some q
  | _ => none

theorem isSigned_iff (cs : List Char) : Decimal.isSigned cs = true ↔ IsIdentifier cs := by
  constructor
  · intro h
    unfold Decimal.isSigned at h
    split at h
    · next ds => exact ⟨['-'], ds, rfl, .inr rfl, by simpa using h⟩
    · exact ⟨[], cs, rfl, .inl rfl, by simpa using h⟩
  · rintro ⟨sign, digits, rfl, rfl | rfl, some, all⟩
    · unfold Decimal.isSigned
      split
      · next ds h =>
        rw [List.nil_append] at h
        exact absurd (all '-' (h ▸ List.mem_cons_self)) (by decide)
      · simpa using ⟨some, all⟩
    · simpa [Decimal.isSigned] using ⟨some, all⟩

instance : DecidablePred WellFormed := fun line =>
  match h : fields line with
  | id :: checker :: file :: more =>
    decidable_of_iff (Decimal.isSigned id = true) <| by
      rw [isSigned_iff]
      refine ⟨fun identifier => ⟨id, checker, file, more, h, identifier⟩, ?_⟩
      rintro ⟨id', checker', file', more', h', identifier⟩
      obtain ⟨rfl, -⟩ := List.cons.inj (h.symm.trans h')
      exact identifier
  | [] | [_] | [_, _] => .isFalse <| by
      rintro ⟨id', checker', file', more', h', -⟩
      cases h.symm.trans h'

theorem natural_of_digits {ds : List Char} (all : ∀ c ∈ ds, c.isDigit)
    (short : ds.countP Char.isDigit ≤ Decimal.maxDigits) :
    Decimal.natural ds = .ok (Nat.ofDigitChars 10 ds 0) := by
  rw [List.countP_eq_length.mpr all] at short
  exact if_pos short

theorem natural_of_long {ds : List Char} (all : ∀ c ∈ ds, c.isDigit)
    (long : Decimal.maxDigits < ds.countP Char.isDigit) :
    Decimal.natural ds = .error ⟨ds.countP Char.isDigit⟩ := by
  rw [List.countP_eq_length.mpr all] at long ⊢
  exact if_neg (Nat.not_le.mpr long)

theorem signed_of_short (cs : List Char) (h : IsIdentifier cs)
    (short : cs.countP Char.isDigit ≤ Decimal.maxDigits) : ∃ n, Decimal.signed cs = .ok n := by
  obtain ⟨sign, ds, rfl, rfl | rfl, -, all⟩ := h
  · unfold Decimal.signed
    split
    · next ds h =>
      rw [List.nil_append] at h
      exact absurd (all '-' (h ▸ List.mem_cons_self)) (by decide)
    · exact ⟨_, by rw [List.nil_append, natural_of_digits all short]; rfl⟩
  · have few : ds.countP Char.isDigit ≤ Decimal.maxDigits := by
      simpa [List.countP_cons] using short
    exact ⟨_, by rw [List.singleton_append, Decimal.signed, natural_of_digits all few]; rfl⟩

theorem ofLine_of_short (line : String) (short : ShortIdentifier line) :
    (∃ q, ofLine line = .ok (.ok q) ∧ WellFormed line) ∨
      ∃ fault, ofLine line = .error fault ∧ ¬WellFormed line := by
  unfold ofLine
  split
  · next id checker file more hf =>
    have hf : fields line = id :: checker :: file :: more := hf
    by_cases hid : Decimal.isSigned id = true
    · have identifier := (isSigned_iff id).mp hid
      obtain ⟨n, hn⟩ := signed_of_short id identifier (short id checker file more hf identifier)
      rw [if_pos hid, hn]
      exact .inl ⟨_, rfl, id, checker, file, more, hf, identifier⟩
    · rw [if_neg hid]
      refine .inr ⟨_, rfl, ?_⟩
      rintro ⟨id', checker', file', more', hf', identifier⟩
      obtain rfl : id = id' := (List.cons.inj (hf.symm.trans hf')).1
      exact hid ((isSigned_iff id).mpr identifier)
  · next few =>
    refine .inr ⟨_, rfl, ?_⟩
    rintro ⟨id, checker, file, more, hf, -⟩
    exact few id checker file more hf

theorem queriesOf_of_short (lines : List String) (short : ∀ line ∈ lines, ShortIdentifier line) :
    queriesOf lines = .ok (lines.filterMap query?) ∧
      (lines.any isBad = false ↔ ∀ line ∈ lines, WellFormed line) := by
  induction lines with
  | nil => simp [queriesOf]
  | cons line rest ih =>
    obtain ⟨queries, good⟩ := ih fun l hl => short l (List.mem_cons_of_mem line hl)
    rw [List.any_cons, Bool.or_eq_false_iff, good, List.forall_mem_cons, List.filterMap_cons]
    rcases ofLine_of_short line (short line List.mem_cons_self) with ⟨q, hq, wf⟩ | ⟨fault, hf, ill⟩
    · simp [queriesOf, query?, isBad, hq, queries, Except.map, wf]
    · simp [queriesOf, query?, isBad, hf, queries, ill]

/-- There are as many queries as lines that are well formed. -/
theorem length_filterMap_query? (lines : List String)
    (short : ∀ line ∈ lines, ShortIdentifier line) :
    (lines.filterMap query?).length = lines.countP fun line => WellFormed line := by
  induction lines with
  | nil => rfl
  | cons line rest ih =>
    obtain ⟨first, others⟩ := List.forall_mem_cons.mp short
    rw [List.filterMap_cons, List.countP_cons, ← ih others]
    rcases ofLine_of_short line first with ⟨q, hq, wf⟩ | ⟨fault, hf, ill⟩
    · simp [query?, hq, wf]
    · simp [query?, hf, ill]

end Findings.Query
