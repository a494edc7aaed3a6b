import Findings.Proofs.QueryCalls
/-!
Identifiers of more digits than can be read: the calls that fail, and what comes of those after
them.

* `gives_iff`: what a call answers at a line that has a query;
* `forall₂_gives_iff`: the answers are those of the well-formed lines;
* `calls_return_iff`: the main statement.
-/

namespace Findings.Query

/-- What a call answers at a line that reads as a query. An identifier of too many digits, leading
zeros among them, cannot be read although it is one. -/
inductive Gives (line : String) : Except Decimal.Oversize Query → Prop where
  | query {q : Query} (reads : Reads line (.ok q)) (short : ShortIdentifier line) :
      Gives line (.ok q)
  | long {q : Query} {id rest : List Char} (reads : Reads line (.ok q))
      (body : Body line (id ++ ',' :: rest)) (first : ',' ∉ id)
      (long : Decimal.maxDigits < id.countP Char.isDigit) :
      Gives line (.error ⟨id.countP Char.isDigit⟩)

theorem Body.fields_eq {line : String} {id rest : List Char} (body : Body line (id ++ ',' :: rest))
    (first : ',' ∉ id) : fields line = id :: Text.splitAt ',' rest := by
  rw [fields, ← body.eq, Text.splitAt_append _ _ _ first]

theorem wellFormed_iff (line : String) : WellFormed line ↔ ∃ q, Reads line (.ok q) := by
  constructor
  · rintro ⟨id, checker, file, more, split, identifier⟩
    obtain ⟨fault | q, reads⟩ := exists_reads line
    · have refused := reads.ofLine_fault
      rw [fields] at split
      simp [ofLine, split, (isSigned_iff id).mpr identifier] at refused
    · exact ⟨q, reads⟩
  · rintro ⟨q, reads⟩
    obtain ⟨id, checker, file, more, split, number, -⟩ := reads.ofLine_query
    exact ⟨id, checker, file, more, split, number.isIdentifier⟩

theorem Gives.answer_eq {line : String} {answer : Except Decimal.Oversize Query}
    (h : Gives line answer) : Stream.answer? line = some answer := by
  cases h with
  | query reads short =>
    rw [Stream.answer?, reads.ofLine_eq short]
    rfl
  | @long q id rest reads body first long =>
    obtain ⟨id', checker, file, more, split, number, answer⟩ := reads.ofLine_query
    obtain ⟨rfl, -⟩ := List.cons.inj ((body.fields_eq first).symm.trans split)
    rw [Stream.answer?, answer, number.signed_eq_error long]
    rfl

/-- A line that has a query gives an answer. -/
theorem Reads.gives {line : String} {q : Query} (h : Reads line (.ok q)) :
    ∃ answer, Gives line answer := by
  cases h with
  | @query id checker file more n body first second third others number =>
    by_cases long : Decimal.maxDigits < id.countP Char.isDigit
    · exact ⟨_, .long (.query body first second third others number) body first long⟩
    · refine ⟨_, .query (.query body first second third others number) ?_⟩
      intro id' checker' file' more' split _
      obtain ⟨rfl, -⟩ := List.cons.inj ((body.fields_eq first).symm.trans split)
      exact Nat.le_of_not_lt long

theorem gives_iff (line : String) (answer : Except Decimal.Oversize Query) :
    Gives line answer ↔ Stream.answer? line = some answer := by
  refine ⟨Gives.answer_eq, fun h => ?_⟩
  obtain ⟨fault | q, reads⟩ := exists_reads line
  · rw [Stream.answer?, reads.ofLine_fault] at h
    cases h
  · obtain ⟨answer', gives⟩ := reads.gives
    obtain rfl := Option.some.inj (gives.answer_eq.symm.trans h)
    exact gives

theorem exists_gives_iff (line : String) : (∃ answer, Gives line answer) ↔ WellFormed line := by
  rw [wellFormed_iff]
  refine ⟨?_, fun ⟨q, reads⟩ => reads.gives⟩
  rintro ⟨answer, ⟨reads, -⟩ | ⟨reads, -, -, -⟩⟩ <;> exact ⟨_, reads⟩

theorem shortIdentifier_iff (line : String) :
    ShortIdentifier line ↔ ∀ o, ¬Gives line (.error o) := by
  constructor
  · rintro short o gives
    cases gives with
    | long reads body first long =>
      obtain ⟨id, checker, file, more, split, number, -⟩ := reads.ofLine_query
      obtain ⟨rfl, -⟩ := List.cons.inj ((body.fields_eq first).symm.trans split)
      exact Nat.not_lt.mpr (short _ checker file more split number.isIdentifier) long
  · intro returns id checker file more split identifier
    obtain ⟨answer, gives⟩ :=
      (exists_gives_iff line).mpr ⟨id, checker, file, more, split, identifier⟩
    cases gives with
    | query reads short => exact short id checker file more split identifier
    | long reads body first long => exact absurd (.long reads body first long) (returns _)

theorem forall₂_gives_iff (lines : List String) (answers : List (Except Decimal.Oversize Query)) :
    List.Forall₂ Gives (lines.filter fun line => WellFormed line) answers ↔
      answers = lines.filterMap Stream.answer? := by
  induction lines generalizing answers with
  | nil => simp
  | cons line lines ih =>
    by_cases wellFormed : WellFormed line
    · obtain ⟨answer, gives⟩ := (exists_gives_iff line).mpr wellFormed
      rw [List.filter_cons_of_pos (by simpa using wellFormed),
        List.filterMap_cons_some gives.answer_eq]
      cases answers with
      | nil => simp
      | cons first others =>
        rw [List.forall₂_cons, ih, gives_iff, gives.answer_eq, Option.some.injEq, List.cons.injEq,
          eq_comm]
    · have none : Stream.answer? line = none := by
        rw [Option.eq_none_iff_forall_ne_some]
        intro answer some
        exact wellFormed ((exists_gives_iff line).mp ⟨answer, (gives_iff line answer).mpr some⟩)
      rw [List.filter_cons_of_neg (by simpa using wellFormed), List.filterMap_cons_none none, ih]

/-- **The calls that fail.** Each line reads as one thing, and the lines that have a query give one
answer each: the query, or that the identifier is too long. The calls on a stream give the answers
in their order and then nothing more. A call that fails leaves the stream as if it had given the
query: behind that line, which is counted, with no complaint of it and no mark for it, so that the
calls after it go on. All calls return if and only if no identifier is too long. -/
theorem calls_return_iff (name : String) (lines : List String) :
    (∃ rs answers, (∀ rs', List.Forall₂ Reads lines rs' ↔ rs' = rs) ∧
      (∀ answers', List.Forall₂ Gives (lines.filter fun line => WellFormed line) answers' ↔
        answers' = answers) ∧
      ∀ n,
        let s := Stream.after n { lines, name }
        let seen := upTo n rs
        s.next.query = Stream.answered answers[n]? ∧
        seen <+: rs ∧ s.lineno = seen.length ∧ s.lines = lines.drop seen.length ∧
        (s.hasError = true ↔ ∃ fault, .error fault ∈ seen) ∧
        Stream.said n { lines, name } = complaints name 1 seen) ∧
    ((∀ n, ∃ q, (Stream.after n { lines, name }).next.query = .ok q) ↔
      ∀ line ∈ lines, ShortIdentifier line) := by
  obtain ⟨rs, settled⟩ := exists_readings lines
  have reads := (settled rs).mpr rfl
  have query (n : Nat) := Stream.query_after n { lines, name } reads
  refine ⟨⟨rs, lines.filterMap Stream.answer?, settled, forall₂_gives_iff lines, fun n => ?_⟩, ?_⟩
  · exact ⟨query n, upTo_prefix n rs, Stream.place_after n name reads⟩
  · simp only [query, shortIdentifier_iff, gives_iff]
    constructor
    · intro returns line mem o answer
      obtain ⟨n, at_n⟩ := List.getElem?_of_mem (List.mem_filterMap.mpr ⟨line, mem, answer⟩)
      obtain ⟨q, returned⟩ := returns n
      rw [at_n] at returned
      cases returned
    · intro short n
      rcases at_n : (lines.filterMap Stream.answer?)[n]? with _ | o | q
      · exact ⟨none, rfl⟩
      · obtain ⟨line, mem, answer⟩ := List.mem_filterMap.mp (List.mem_of_getElem? at_n)
        exact absurd answer (short line mem o)
      · exact ⟨some q, rfl⟩

/-! ## A line that stops the reader -/

/-- A line whose identifier is so many ones, and one more. -/
def longLine (n : Nat) : String :=
  String.ofList (List.replicate (n + 1) '1' ++ [',', 'X', ',', 'a', '.', 'c', '\n'])

theorem gives_longLine (n : Nat) (long : Decimal.maxDigits ≤ n) :
    Gives (longLine n) (.error ⟨n + 1⟩) := by
  have digits : ∀ c ∈ List.replicate (n + 1) '1', c.isDigit := fun c mem => by
    rw [List.eq_of_mem_replicate mem]
    rfl
  have count : (List.replicate (n + 1) '1').countP Char.isDigit = n + 1 := by
    rw [List.countP_eq_length.mpr digits, List.length_replicate]
  have first : ',' ∉ List.replicate (n + 1) '1' := fun mem => by
    cases List.eq_of_mem_replicate mem
  have body : Body (longLine n)
      (List.replicate (n + 1) '1' ++ ',' :: (['X'] ++ ',' :: (['a', '.', 'c'] ++ []))) :=
    ⟨⟨['\n'], by rw [longLine, String.toList_ofList, List.append_assoc]; rfl, by simp [isLineEnd]⟩,
      by simp [isLineEnd]⟩
  have reads := Reads.query body first (by decide) (by decide) (.inl rfl)
    (.plain (by simp) digits)
  have gives := Gives.long reads body first (by rw [count]; exact Nat.lt_succ_of_le long)
  rwa [count] at gives

theorem next_longLine (n : Nat) (long : Decimal.maxDigits ≤ n) :
    let s : Stream := { lines := [longLine n, "5,X,a.c\n"] }
    s.next.query = .error ⟨n + 1⟩ ∧ s.next.notices = [] ∧
      s.next.stream.hasError = false ∧ s.next.stream.lineno = 1 ∧
      s.next.stream.next.query = .ok (some { id := 5, checker := "X", file := "a.c" }) := by
  have second : ofLine "5,X,a.c\n" = .ok (.ok { id := 5, checker := "X", file := "a.c" }) := by
    decide +kernel
  have answer := (gives_longLine n long).answer_eq
  rw [Stream.answer?] at answer
  cases first : ofLine (longLine n) with
  | error fault =>
    rw [first] at answer
    cases answer
  | ok given =>
    rw [first] at answer
    obtain rfl := Option.some.inj answer
    simp [Stream.next, Stream.nextIn, first, second]

/-- The first call fails. Nothing is said of its line, which leaves no mark, and the second call
goes on behind it. -/
theorem long_identifier_stops :
    let s : Stream := { lines := [longLine 4300, "5,X,a.c\n"] }
    s.next.query = .error ⟨4301⟩ ∧ s.next.notices = [] ∧
      s.next.stream.hasError = false ∧ s.next.stream.lineno = 1 ∧
      s.next.stream.next.query = .ok (some { id := 5, checker := "X", file := "a.c" }) :=
  next_longLine 4300 (Nat.le_refl _)

end Findings.Query
