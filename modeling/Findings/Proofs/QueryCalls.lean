import Findings.Proofs.QueryLines
import Mathlib.Data.List.Forall2
import Mathlib.Tactic.Choose
/-!
What the calls on a stream of lines answer, what they say, and where they leave the stream.

* `reads_iff`: what a line reads as, by its own text;
* `reads_query_iff`: which lines have a query;
* `nextIn_past`, `after_past`: where one call leaves the stream, and where any number of them do;
* `query_after`: what each of them answers;
* `hasError_after`: a bad line is not forgotten;
* `calls_answered`: the main statement.
-/

namespace Findings.Query

/-! ## One line -/

/-- The line without its ending, which has all the carriage returns and line feeds. -/
structure Body (line : String) (cs : List Char) : Prop where
  ending : ∃ ends, line.toList = cs ++ ends ∧ ∀ c ∈ ends, isLineEnd c
  kept : ∀ c ∈ cs.getLast?, isLineEnd c = false

/-- The integer whose decimal numeral this is. -/
inductive Denotes : List Char → Int → Prop where
  | plain {ds : List Char} (some : ds ≠ []) (all : ∀ c ∈ ds, c.isDigit) :
      Denotes ds (Nat.ofDigitChars 10 ds 0)
  | minus {ds : List Char} (some : ds ≠ []) (all : ∀ c ∈ ds, c.isDigit) :
      Denotes ('-' :: ds) (-(Nat.ofDigitChars 10 ds 0 : Int))

/-- The query of a line, or why it has none. -/
abbrev Reading := Except LineFault Query

/-- The same, where an identifier could have been too long. -/
def Reading.answer (r : Reading) : Except LineFault (Except Decimal.Oversize Query) :=
  r.map Except.ok

/-- Whether the line is bad. -/
def Reading.isFault : Reading → Bool
  | .ok _ => false
  | .error _ => true

theorem Reading.isFault_iff (r : Reading) : r.isFault = true ↔ ∃ fault, r = .error fault := by
  cases r <;> simp [isFault]

theorem Reading.answer_injective : Function.Injective Reading.answer := by
  rintro (fault | q) (fault' | q') same <;> cases same <;> rfl

/-- What the line reads as. Whatever follows the third field makes no difference. -/
inductive Reads (line : String) : Reading → Prop where
  | query {id checker file more : List Char} {n : Int}
      (body : Body line (id ++ ',' :: (checker ++ ',' :: (file ++ more))))
      (first : ',' ∉ id) (second : ',' ∉ checker) (third : ',' ∉ file)
      (others : more = [] ∨ ∃ rest, more = ',' :: rest) (number : Denotes id n) :
      Reads line (.ok { id := n, checker := String.ofList checker, file := String.ofList file })
  | tooFewFields {cs : List Char} (body : Body line cs) (few : cs.count ',' < 2) :
      Reads line (.error .tooFewFields)
  | badIdentifier {id rest : List Char} (body : Body line (id ++ ',' :: rest))
      (first : ',' ∉ id) (enough : ',' ∈ rest) (none : ¬IsIdentifier id) :
      Reads line (.error .badIdentifier)

theorem body_withoutEnding (line : String) : Body line (withoutEnding line.toList) where
  ending := by
    refine ⟨(line.toList.reverse.takeWhile isLineEnd).reverse, ?_, fun c mem => ?_⟩
    · rw [withoutEnding, ← List.reverse_append, List.takeWhile_append_dropWhile,
        List.reverse_reverse]
    · exact List.all_eq_true.mp List.all_takeWhile c (List.mem_reverse.mp mem)
  kept c last := by
    rw [withoutEnding, List.getLast?_reverse] at last
    have first := List.head?_dropWhile_not isLineEnd line.toList.reverse
    rw [Option.mem_def.mp last] at first
    simpa using first

theorem Body.eq {line : String} {cs : List Char} (h : Body line cs) :
    cs = withoutEnding line.toList := by
  obtain ⟨ends, whole, all⟩ := h.ending
  have rest : cs.reverse.dropWhile isLineEnd = cs.reverse := by
    cases hr : cs.reverse with
    | nil => rfl
    | cons c before =>
      have last : cs.getLast? = some c := by rw [← List.head?_reverse, hr, List.head?_cons]
      rw [List.dropWhile_cons_of_neg (by simp [h.kept c last])]
  rw [withoutEnding, whole, List.reverse_append,
    List.dropWhile_append_of_pos fun c mem => all c (List.mem_reverse.mp mem), rest,
    List.reverse_reverse]

theorem Denotes.isIdentifier {cs : List Char} {n : Int} (h : Denotes cs n) : IsIdentifier cs := by
  cases h with
  | plain some all => exact ⟨[], cs, rfl, .inl rfl, some, all⟩
  | minus some all => exact ⟨['-'], _, rfl, .inr rfl, some, all⟩

theorem IsIdentifier.denotes {cs : List Char} (h : IsIdentifier cs) : ∃ n, Denotes cs n := by
  obtain ⟨sign, ds, rfl, rfl | rfl, some, all⟩ := h
  · exact ⟨_, .plain some all⟩
  · exact ⟨_, .minus some all⟩

theorem Denotes.signed_eq {cs : List Char} {n : Int} (h : Denotes cs n)
    (short : cs.countP Char.isDigit ≤ Decimal.maxDigits) : Decimal.signed cs = .ok n := by
  cases h with
  | plain some all =>
    unfold Decimal.signed
    split
    · exact absurd (all '-' List.mem_cons_self) (by decide)
    · rw [natural_of_digits all short]
      rfl
  | minus some all =>
    rw [List.countP_cons_of_neg (by decide)] at short
    rw [Decimal.signed, natural_of_digits all short]
    rfl

theorem Denotes.signed_eq_error {cs : List Char} {n : Int} (h : Denotes cs n)
    (long : Decimal.maxDigits < cs.countP Char.isDigit) :
    Decimal.signed cs = .error ⟨cs.countP Char.isDigit⟩ := by
  cases h with
  | plain some all =>
    unfold Decimal.signed
    split
    · exact absurd (all '-' List.mem_cons_self) (by decide)
    · rw [natural_of_long all long]
      rfl
  | minus some all =>
    rw [List.countP_cons_of_neg (by decide)] at long ⊢
    rw [Decimal.signed, natural_of_long all long]
    rfl

theorem Denotes.unique {cs : List Char} {n m : Int} (h : Denotes cs n) (h' : Denotes cs m) :
    n = m := by
  cases h with
  | plain some all =>
    cases h' with
    | plain => rfl
    | minus => exact absurd (all '-' List.mem_cons_self) (by decide)
  | minus =>
    cases h' with
    | plain _ all => exact absurd (all '-' List.mem_cons_self) (by decide)
    | minus => rfl

/-- The fields of a text with two commas at least. -/
theorem splitAt_three (id checker file more : List Char) (first : ',' ∉ id)
    (second : ',' ∉ checker) (third : ',' ∉ file)
    (others : more = [] ∨ ∃ rest, more = ',' :: rest) :
    ∃ parts, Text.splitAt ',' (id ++ ',' :: (checker ++ ',' :: (file ++ more))) =
      id :: checker :: file :: parts := by
  rw [Text.splitAt_append _ _ _ first, Text.splitAt_append _ _ _ second]
  rcases others with rfl | ⟨rest, rfl⟩
  · rw [List.append_nil, Text.splitAt_of_not_mem _ _ third]
    exact ⟨[], rfl⟩
  · rw [Text.splitAt_append _ _ _ third]
    exact ⟨_, rfl⟩

/-- A text with two commas at least is made of three fields and the rest. -/
theorem exists_three (cs : List Char) (enough : 2 ≤ cs.count ',') :
    ∃ id checker file more, cs = id ++ ',' :: (checker ++ ',' :: (file ++ more)) ∧ ',' ∉ id ∧
      ',' ∉ checker ∧ ',' ∉ file ∧ (more = [] ∨ ∃ rest, more = ',' :: rest) := by
  obtain ⟨id, behind, rfl, first⟩ :=
    List.eq_append_cons_of_mem (List.count_pos_iff.mp (Nat.lt_of_succ_lt enough))
  rw [List.count_append, List.count_eq_zero.mpr first, List.count_cons_self] at enough
  obtain ⟨checker, rest, rfl, second⟩ :=
    List.eq_append_cons_of_mem (List.count_pos_iff.mp (by omega : 0 < behind.count ','))
  by_cases others : ',' ∈ rest
  · obtain ⟨file, more, rfl, third⟩ := List.eq_append_cons_of_mem others
    exact ⟨id, checker, file, ',' :: more, rfl, first, second, third, .inr ⟨more, rfl⟩⟩
  · exact ⟨id, checker, rest, [], by rw [List.append_nil], first, second, others, .inl rfl⟩

/-- Every line reads as something. -/
theorem exists_reads (line : String) : ∃ r, Reads line r := by
  have body := body_withoutEnding line
  by_cases few : (withoutEnding line.toList).count ',' < 2
  · exact ⟨_, .tooFewFields body few⟩
  · obtain ⟨id, checker, file, more, whole, first, second, third, others⟩ :=
      exists_three _ (Nat.le_of_not_lt few)
    rw [whole] at body
    by_cases identifier : IsIdentifier id
    · obtain ⟨n, number⟩ := identifier.denotes
      exact ⟨_, .query body first second third others number⟩
    · exact ⟨_, .badIdentifier body first (by simp) identifier⟩

/-- The identifier alone decides whether a query that a line reads as can be had. -/
theorem Reads.ofLine_query {line : String} {q : Query} (h : Reads line (.ok q)) :
    ∃ id checker file more, fields line = id :: checker :: file :: more ∧ Denotes id q.id ∧
      ofLine line = .ok ((Decimal.signed id).map fun n => { q with id := n }) := by
  cases h with
  | @query id checker file more n body first second third others number =>
    obtain ⟨parts, split⟩ := splitAt_three id checker file more first second third others
    rw [body.eq] at split
    refine ⟨id, checker, file, parts, split, number, ?_⟩
    simp only [ofLine, split, (isSigned_iff id).mpr number.isIdentifier, if_true]

theorem Reads.ofLine_fault {line : String} {fault : LineFault} (h : Reads line (.error fault)) :
    ofLine line = .error fault := by
  cases h with
  | tooFewFields body few =>
    rw [body.eq] at few
    have fields := Text.length_splitAt ',' (withoutEnding line.toList)
    unfold ofLine
    split
    · next split =>
      rw [split] at fields
      simp only [List.length_cons] at fields
      omega
    · rfl
  | @badIdentifier id rest body first enough none =>
    obtain ⟨checker, behind, rfl, second⟩ := List.eq_append_cons_of_mem enough
    have split := Text.splitAt_append ',' id (checker ++ ',' :: behind) first
    rw [Text.splitAt_append _ _ _ second, body.eq] at split
    obtain ⟨file, parts, rest⟩ := List.exists_cons_of_ne_nil (Text.splitAt_ne_nil ',' behind)
    have refused : ¬Decimal.isSigned id = true := fun signed => none ((isSigned_iff id).mp signed)
    rw [ofLine, split, rest]
    exact if_neg refused

theorem Reads.ofLine_eq {line : String} (short : ShortIdentifier line) {r : Reading}
    (h : Reads line r) : ofLine line = r.answer := by
  cases r with
  | error fault => exact h.ofLine_fault
  | ok q =>
    obtain ⟨id, checker, file, more, split, number, answer⟩ := h.ofLine_query
    rw [answer, number.signed_eq (short id checker file more split number.isIdentifier)]
    rfl

/-- No line reads as two things. -/
theorem Reads.unique {line : String} {r r' : Reading} (h : Reads line r) (h' : Reads line r') :
    r = r' := by
  cases r with
  | error fault =>
    cases r' with
    | error fault' =>
      exact congrArg _ (Except.error.inj (h.ofLine_fault.symm.trans h'.ofLine_fault))
    | ok q' =>
      obtain ⟨_, _, _, _, -, -, answer⟩ := h'.ofLine_query
      cases h.ofLine_fault.symm.trans answer
  | ok q =>
    obtain ⟨_, _, _, _, -, -, answer⟩ := h.ofLine_query
    cases h' with
    | @query id' checker' file' more' n' body' first' second' third' others' number' =>
      cases h with
      | @query id checker file more n body first second third others number =>
        obtain ⟨parts, split⟩ := splitAt_three id checker file more first second third others
        obtain ⟨parts', split'⟩ :=
          splitAt_three id' checker' file' more' first' second' third' others'
        rw [body.eq] at split
        rw [body'.eq, split] at split'
        obtain ⟨rfl, rfl, rfl, -⟩ : id = id' ∧ checker = checker' ∧ file = file' ∧ _ := by
          simpa using split'
        rw [number.unique number']
    | tooFewFields body few => cases (Reads.tooFewFields body few).ofLine_fault.symm.trans answer
    | badIdentifier body first enough none =>
      cases (Reads.badIdentifier body first enough none).ofLine_fault.symm.trans answer

theorem reads_iff {line : String} (short : ShortIdentifier line) (r : Reading) :
    Reads line r ↔ ofLine line = r.answer := by
  refine ⟨Reads.ofLine_eq short, fun h => ?_⟩
  obtain ⟨r', reads⟩ := exists_reads line
  exact Reading.answer_injective (h.symm.trans (reads.ofLine_eq short)) ▸ reads

/-- The lines that have a query. -/
theorem reads_query_iff (line : String) :
    (∃ q, Reads line (.ok q)) ↔
      ∃ cs, Body line cs ∧ 2 ≤ cs.count ',' ∧ IsIdentifier (cs.takeWhile (· ≠ ',')) := by
  have field (id rest : List Char) (first : ',' ∉ id) :
      (id ++ ',' :: rest).takeWhile (· ≠ ',') = id := by
    rw [List.takeWhile_append_of_pos fun c mem => by simpa using ne_of_mem_of_not_mem mem first,
      List.takeWhile_cons_of_neg (by simp), List.append_nil]
  constructor
  · rintro ⟨_, reads⟩
    cases reads with
    | query body first second third others number =>
      refine ⟨_, body, ?_, (field _ _ first).symm ▸ number.isIdentifier⟩
      simp only [List.count_append, List.count_cons_self]
      omega
  · rintro ⟨cs, body, enough, identifier⟩
    obtain ⟨id, checker, file, more, rfl, first, second, third, others⟩ := exists_three cs enough
    rw [field _ _ first] at identifier
    obtain ⟨n, number⟩ := identifier.denotes
    exact ⟨_, .query body first second third others number⟩

/-! ## Several lines -/

theorem forall₂_reads_iff {lines : List String} (short : ∀ line ∈ lines, ShortIdentifier line)
    (rs : List Reading) :
    List.Forall₂ Reads lines rs ↔ lines.map ofLine = rs.map Reading.answer := by
  induction lines generalizing rs with
  | nil => simp [eq_comm]
  | cons line lines ih =>
    obtain ⟨head, tail⟩ := List.forall_mem_cons.mp short
    cases rs with
    | nil => simp
    | cons r rs =>
      rw [List.forall₂_cons, reads_iff head, ih tail, List.map_cons, List.map_cons, List.cons.injEq]

/-- What some lines read as is settled. -/
theorem exists_readings (lines : List String) :
    ∃ rs, ∀ rs', List.Forall₂ Reads lines rs' ↔ rs' = rs := by
  choose reading reads using exists_reads
  have only (line : String) (r : Reading) : Reads line r ↔ reading line = r :=
    ⟨(reads line).unique, fun same => same ▸ reads line⟩
  refine ⟨lines.map reading, fun rs' => ?_⟩
  have same : List.Forall₂ Reads lines rs' ↔ List.Forall₂ Eq (lines.map reading) rs' := by
    rw [List.forall₂_map_left_iff]
    exact ⟨List.Forall₂.imp fun _ _ => (only _ _).mp, List.Forall₂.imp fun _ _ => (only _ _).mpr⟩
  rw [same, List.forall₂_eq_eq_eq, eq_comm]

/-- The queries among some readings. -/
def queries (rs : List Reading) : List Query := rs.filterMap Except.toOption

/-- The readings up to the query of this number, or all of them if there are fewer queries. -/
def upTo : Nat → List Reading → List Reading
  | 0, _ => []
  | _ + 1, [] => []
  | n + 1, .ok q :: rs => .ok q :: upTo n rs
  | n + 1, .error fault :: rs => .error fault :: upTo (n + 1) rs

/-- What is said of the lines that have no query, where this is the number of the first line. -/
def complaints (name : String) (number : Nat) (rs : List Reading) : List Notice :=
  (rs.zipIdx number).filterMap fun
    | (.error fault, number) => some (Stream.complaint name number fault)
    | (.ok _, _) => none

@[simp] theorem queries_ok (q : Query) (rs : List Reading) :
    queries (.ok q :: rs) = q :: queries rs := rfl

@[simp] theorem queries_error (fault : LineFault) (rs : List Reading) :
    queries (.error fault :: rs) = queries rs := rfl

@[simp] theorem complaints_ok (name : String) (number : Nat) (q : Query) (rs : List Reading) :
    complaints name number (.ok q :: rs) = complaints name (number + 1) rs := rfl

@[simp] theorem complaints_error (name : String) (number : Nat) (fault : LineFault)
    (rs : List Reading) :
    complaints name number (.error fault :: rs) =
      Stream.complaint name number fault :: complaints name (number + 1) rs := rfl

theorem upTo_nil (n : Nat) : upTo n [] = [] := by
  cases n <;> rfl

theorem upTo_succ (n : Nat) (rs : List Reading) :
    upTo (n + 1) rs = upTo 1 rs ++ upTo n (rs.drop (upTo 1 rs).length) := by
  induction rs with
  | nil => simp [upTo_nil]
  | cons r rs ih =>
    cases r with
    | ok q => simp [upTo]
    | error fault => simp [upTo, ih]

theorem upTo_prefix (n : Nat) (rs : List Reading) : upTo n rs <+: rs := by
  fun_induction upTo n rs with
  | case1 => exact List.nil_prefix
  | case2 => exact List.nil_prefix
  | case3 _ _ _ ih => exact List.cons_prefix_cons.mpr ⟨rfl, ih⟩
  | case4 _ _ _ ih => exact List.cons_prefix_cons.mpr ⟨rfl, ih⟩

theorem complaints_append (name : String) (number : Nat) (rs others : List Reading) :
    complaints name number (rs ++ others) =
      complaints name number rs ++ complaints name (number + rs.length) others := by
  rw [complaints, List.zipIdx_append, List.filterMap_append]
  rfl

/-! ## Calls -/

namespace Stream

/-- The stream after some calls. -/
def after : Nat → Stream → Stream
  | 0, s => s
  | n + 1, s => after n s.next.stream

/-- What was said in some calls. -/
def said : Nat → Stream → List Notice
  | 0, _ => []
  | n + 1, s => s.next.notices ++ said n s.next.stream

/-- The stream behind its first lines, which read so. -/
def past (s : Stream) (seen : List Reading) : Stream where
  lines := s.lines.drop seen.length
  name := s.name
  lineno := s.lineno + seen.length
  hasError := s.hasError || seen.any Reading.isFault

theorem past_past (s : Stream) (seen more : List Reading) :
    (s.past seen).past more = s.past (seen ++ more) := by
  simp [past, List.drop_drop, Nat.add_assoc, Bool.or_assoc]

/-- What a call answers that stops at this line; it goes past the others. -/
def answer? (line : String) : Option (Except Decimal.Oversize Query) := (ofLine line).toOption

/-- What a call answers, by the first of the answers that the lines have. -/
def answered : Option (Except Decimal.Oversize Query) → Except Decimal.Oversize (Option Query)
  | none => .ok none
  | some answer => answer.map some

theorem query_nextIn (name : String) (lineno : Nat) (hasError : Bool) (lines : List String) :
    (nextIn name lineno hasError lines).query = answered (lines.filterMap answer?).head? := by
  induction lines generalizing lineno hasError with
  | nil => rfl
  | cons line lines ih =>
    rw [List.filterMap_cons, answer?, nextIn]
    rcases ofLine line with fault | o | q
    · exact ih _ _
    · rfl
    · rfl

/-- What the next call says, and where it leaves the stream, also where it fails. -/
theorem nextIn_past (name : String) (lineno : Nat) (hasError : Bool) {lines : List String}
    {rs : List Reading} (h : List.Forall₂ Reads lines rs) :
    (nextIn name lineno hasError lines).stream =
        past { lines, name, lineno, hasError } (upTo 1 rs) ∧
      (nextIn name lineno hasError lines).notices = complaints name (lineno + 1) (upTo 1 rs) := by
  induction h generalizing lineno hasError with
  | nil => simp [nextIn, upTo, complaints, past]
  | @cons line r lines rs reads _ ih =>
    cases r with
    | ok q =>
      obtain ⟨id, _, _, _, -, -, answer⟩ := reads.ofLine_query
      cases read : Decimal.signed id <;>
        simp [nextIn, answer, read, Except.map, upTo, complaints, past, Reading.isFault]
    | error fault =>
      obtain ⟨state, notices⟩ := ih (lineno + 1) true
      simp only [nextIn, reads.ofLine_fault, state, notices]
      simp [upTo, past, Reading.isFault, Nat.add_assoc, Nat.add_comm 1]

theorem reads_past (s : Stream) {rs : List Reading} (seen : List Reading)
    (h : List.Forall₂ Reads s.lines rs) :
    List.Forall₂ Reads (s.past seen).lines (rs.drop seen.length) :=
  List.forall₂_drop _ h

theorem after_past (n : Nat) (s : Stream) {rs : List Reading} (h : List.Forall₂ Reads s.lines rs) :
    s.after n = s.past (upTo n rs) ∧
      s.said n = complaints s.name (s.lineno + 1) (upTo n rs) := by
  induction n generalizing s rs with
  | zero => simp [after, said, upTo, past, complaints]
  | succ n ih =>
    obtain ⟨first, told⟩ := nextIn_past s.name s.lineno s.hasError h
    obtain ⟨state, notices⟩ := ih _ (reads_past s (upTo 1 rs) h)
    rw [upTo_succ, complaints_append]
    constructor
    · rw [after, next, first]
      exact state.trans (past_past s _ _)
    · rw [said, next, first, told, notices]
      congr 2
      exact Nat.add_right_comm _ _ _

/-- The lines up to the query of some number are those up to the answer of that number. -/
theorem answers_drop_upTo (n : Nat) {lines : List String} {rs : List Reading}
    (h : List.Forall₂ Reads lines rs) :
    (lines.drop (upTo n rs).length).filterMap answer? = (lines.filterMap answer?).drop n := by
  induction h generalizing n with
  | nil => simp [upTo_nil]
  | @cons line r lines rs reads _ ih =>
    cases n with
    | zero => rfl
    | succ n =>
      cases r with
      | error fault =>
        have none : answer? line = none := by simp [answer?, reads.ofLine_fault, Except.toOption]
        rw [List.filterMap_cons_none none]
        exact ih (n + 1)
      | ok q =>
        obtain ⟨_, _, _, _, -, -, answer⟩ := reads.ofLine_query
        have some : answer? line = some _ := congrArg Except.toOption answer
        rw [List.filterMap_cons_some some]
        exact ih n

/-- Each call has an answer of its own, and those that failed before do not matter to it. -/
theorem query_after (n : Nat) (s : Stream) {rs : List Reading}
    (h : List.Forall₂ Reads s.lines rs) :
    (s.after n).next.query = answered (s.lines.filterMap answer?)[n]? := by
  rw [(after_past n s h).1, next, query_nextIn, past, answers_drop_upTo n h, List.head?_drop]

theorem answers_of_short {lines : List String} {rs : List Reading}
    (h : List.Forall₂ Reads lines rs) (short : ∀ line ∈ lines, ShortIdentifier line) :
    lines.filterMap answer? = (queries rs).map .ok := by
  induction h with
  | nil => rfl
  | @cons line r lines rs reads _ ih =>
    obtain ⟨head, tail⟩ := List.forall_mem_cons.mp short
    rw [List.filterMap_cons, answer?, reads.ofLine_eq head, ih tail]
    cases r <;> rfl

/-- The place of the stream after some calls, and what was said on the way there. -/
theorem place_after (n : Nat) (name : String) {lines : List String} {rs : List Reading}
    (h : List.Forall₂ Reads lines rs) :
    let s := after n { lines, name }
    let seen := upTo n rs
    s.lineno = seen.length ∧ s.lines = lines.drop seen.length ∧
      (s.hasError = true ↔ ∃ fault, .error fault ∈ seen) ∧
      said n { lines, name } = complaints name 1 seen := by
  intro s seen
  obtain ⟨state, notices⟩ : s = past { lines, name } seen ∧ said n { lines, name } = _ :=
    after_past n { lines, name } h
  refine ⟨?_, ?_, ?_, notices⟩
  · rw [state]
    exact Nat.zero_add _
  · rw [state]
    rfl
  · rw [state]
    simp [past, Reading.isFault_iff]

/-- Once there was a bad line, the stream remembers it. -/
theorem hasError_nextIn (name : String) (lineno : Nat) (lines : List String) :
    (nextIn name lineno true lines).stream.hasError = true := by
  induction lines generalizing lineno with
  | nil => rfl
  | cons line lines ih =>
    rw [nextIn]
    split
    · rfl
    · rfl
    · exact ih _

theorem hasError_after (n : Nat) (s : Stream) (h : s.hasError = true) :
    (s.after n).hasError = true := by
  induction n generalizing s with
  | zero => exact h
  | succ n ih =>
    apply ih
    rw [next, h]
    exact hasError_nextIn _ _ _

end Stream

/-- **The calls.** Each line reads as one thing. A line has a query if and only if its text without
the ending has two commas at least and the first field is an identifier. The calls on a stream give
the queries in their order and then nothing more. The stream has then read the lines up to the last
query that it gave, or all of them; it knows their number, and whether there was a bad one among
them, for good. One complaint was made of each of the bad ones, with its number, and no other. -/
theorem calls_answered (name : String) (lines : List String)
    (short : ∀ line ∈ lines, ShortIdentifier line) :
    (∀ line ∈ lines, (∃ q, Reads line (.ok q)) ↔
      ∃ cs, Body line cs ∧ 2 ≤ cs.count ',' ∧ IsIdentifier (cs.takeWhile (· ≠ ','))) ∧
    ∃ rs, (∀ rs', List.Forall₂ Reads lines rs' ↔ rs' = rs) ∧ ∀ n,
      let s := Stream.after n { lines, name }
      let seen := upTo n rs
      s.next.query = .ok (queries rs)[n]? ∧
      seen <+: rs ∧ s.lineno = seen.length ∧ s.lines = lines.drop seen.length ∧
      (s.hasError = true ↔ ∃ fault, .error fault ∈ seen) ∧
      (s.hasError = true → ∀ m, (s.after m).hasError = true) ∧
      Stream.said n { lines, name } = complaints name 1 seen := by
  obtain ⟨rs, settled⟩ := exists_readings lines
  have reads := (settled rs).mpr rfl
  refine ⟨fun line _ => reads_query_iff line, rs, settled, fun n => ?_⟩
  obtain ⟨count, rest, marked, notices⟩ := Stream.place_after n name reads
  refine ⟨?_, upTo_prefix n rs, count, rest, marked, fun error m => Stream.hasError_after m _ error,
    notices⟩
  rw [Stream.query_after n { lines, name } reads, Stream.answers_of_short reads short,
    List.getElem?_map]
  cases (queries rs)[n]? <;> rfl

/-- Bad lines in front of, between and behind the good ones. -/
def mixed : List String :=
  ["x,A,a.c\n", "007,X,\r\n\r", "\n", "-3,Y,b\r.c,more,fields", "1,X\n", "+1,X,x.c\n"]

/-- Three calls read all of it. -/
theorem calls_answered_mixed :
    (∀ line ∈ mixed, ShortIdentifier line) ∧
    let s : Stream := { lines := mixed, name := "ids.txt" }
    s.next.query = .ok (some { id := 7, checker := "X", file := "" }) ∧
    (s.after 1).next.query = .ok (some { id := -3, checker := "Y", file := "b\r.c" }) ∧
    (s.after 2).next.query = .ok none ∧ (s.after 2).lineno = 4 ∧
    (s.after 3).next.query = .ok none ∧ (s.after 3).lineno = 6 ∧ (s.after 3).hasError = true ∧
    s.said 3 =
      [⟨.error, "ids.txt:1: error: failed to parse the identifier"⟩,
        ⟨.error, "ids.txt:3: error: not enough \x27,\x27 at the line"⟩,
        ⟨.error, "ids.txt:5: error: not enough \x27,\x27 at the line"⟩,
        ⟨.error, "ids.txt:6: error: failed to parse the identifier"⟩] := by
  have few : ∀ line ∈ mixed, ∀ id ∈ (fields line).head?,
      id.countP Char.isDigit ≤ Decimal.maxDigits := by decide +kernel
  have short : ∀ line ∈ mixed, ShortIdentifier line := by
    intro line mem id checker file more split _
    exact few line mem id (by rw [split]; rfl)
  obtain ⟨-, rs, settled, calls⟩ := calls_answered "ids.txt" mixed short
  have readings := (settled
    [.error .badIdentifier, .ok { id := 7, checker := "X", file := "" }, .error .tooFewFields,
      .ok { id := -3, checker := "Y", file := "b\r.c" }, .error .tooFewFields,
      .error .badIdentifier]).mp ((forall₂_reads_iff short _).mpr (by rfl))
  subst readings
  obtain ⟨first, -⟩ := calls 0
  obtain ⟨second, -⟩ := calls 1
  obtain ⟨third, -, four, -⟩ := calls 2
  obtain ⟨fourth, -, six, -, marked, -, complaints⟩ := calls 3
  refine ⟨short, first, second, third, four, fourth, six, marked.mpr ⟨.badIdentifier, ?_⟩, ?_⟩
  · decide
  · rw [complaints]
    decide +kernel

end Findings.Query
