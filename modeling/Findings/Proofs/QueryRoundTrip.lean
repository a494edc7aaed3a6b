import Findings.Proofs.QueryFailures
import Mathlib.Data.List.Induction
/-!
Queries written as lines and read again.

* `ofDigitChars_lt`: a number has no more digits than it is read from, leading zeros among them;
* `ofLine_of_body`: the query of a line, by the fields that it is made of;
* `readAs_iff`: what a call answers at a line;
* `lines_round_trip`: the main statement.
-/

namespace Findings.Query

/-- The line that says the query, without an ending. -/
def written (q : Query) : Except Decimal.Unwritable String :=
  (Decimal.written q.id).map fun id => id ++ "," ++ q.checker ++ "," ++ q.file

/-- Wherever the line comes next, a call answers with the query, counts the line, and says
nothing. -/
def ReadAs (line : String) (q : Query) : Prop :=
  ∀ s : Stream, ∀ rest, s.lines = line :: rest →
    s.next = { query := .ok (some q), stream := { s with lines := rest, lineno := s.lineno + 1 } }

/-! ## Numerals -/

/-- The digits of a number, written without leading zeros. -/
def digitCount (n : Int) : Nat := (Nat.toDigits 10 n.natAbs).length

theorem ofDigitChars_lt {ds : List Char} (all : ∀ c ∈ ds, c.isDigit) :
    Nat.ofDigitChars 10 ds 0 < Nat.pow 10 ds.length := by
  induction ds using List.reverseRecOn with
  | nil => decide
  | append_singleton ds c ih =>
    obtain ⟨front, last⟩ := List.forall_mem_append.mp all
    have digit := last c (List.mem_singleton_self c)
    have below := ih front
    simp only [Char.isDigit, Bool.and_eq_true, decide_eq_true_eq] at digit
    have high : c.toNat ≤ 57 := digit.2
    have zero : '0'.toNat = 48 := rfl
    have longer : Nat.pow 10 (ds ++ [c]).length = Nat.pow 10 ds.length * 10 := by
      rw [List.length_append]
      rfl
    rw [Nat.ofDigitChars_append, Nat.ofDigitChars_cons, Nat.ofDigitChars_nil, longer]
    omega

theorem denotes_toString (n : Int) : Denotes (toString n).toList n := by
  have all (k : Nat) : ∀ c ∈ Nat.toDigits 10 k, c.isDigit :=
    fun c => Decimal.isDigit_of_mem_toDigits
  cases n with
  | ofNat k =>
    have number := Denotes.plain Nat.toDigits_ne_nil (all k)
    rw [Nat.ofDigitChars_ten_toDigits, ← Decimal.toList_toString k] at number
    exact number
  | negSucc k =>
    have number := Denotes.minus Nat.toDigits_ne_nil (all (k + 1))
    rw [Nat.ofDigitChars_ten_toDigits, ← Decimal.toList_toString_negSucc k] at number
    exact number

theorem countP_toString (n : Int) : (toString n).toList.countP Char.isDigit = digitCount n := by
  have all (k : Nat) : (Nat.toDigits 10 k).countP Char.isDigit = (Nat.toDigits 10 k).length :=
    List.countP_eq_length.mpr fun c => Decimal.isDigit_of_mem_toDigits
  cases n with
  | ofNat k => exact (congrArg _ (Decimal.toList_toString k)).trans (all k)
  | negSucc k =>
    rw [Decimal.toList_toString_negSucc, List.countP_cons_of_neg (by decide)]
    exact all (k + 1)

theorem written_of_digitCount {n : Int} (short : digitCount n ≤ Decimal.maxDigits) :
    Decimal.written n = .ok (toString n) := by
  have below := (Nat.length_toDigits_le_iff (by decide) (by decide)).mp short
  rw [Decimal.written, Nat.pow_eq, if_pos below]

/-- Leading zeros only make the text longer. -/
theorem Denotes.digitCount_le {cs : List Char} {n : Int} (h : Denotes cs n) :
    digitCount n ≤ cs.countP Char.isDigit := by
  have few {ds : List Char} (some : ds ≠ []) (all : ∀ c ∈ ds, c.isDigit) :
      (Nat.toDigits 10 (Nat.ofDigitChars 10 ds 0)).length ≤ ds.countP Char.isDigit := by
    rw [List.countP_eq_length.mpr all,
      Nat.length_toDigits_le_iff (by decide) (List.length_pos_of_ne_nil some)]
    exact ofDigitChars_lt all
  cases h with
  | plain some all => exact few some all
  | minus some all =>
    rw [digitCount, Int.natAbs_neg, List.countP_cons_of_neg (by decide)]
    exact few some all

theorem Denotes.no_comma {cs : List Char} {n : Int} (h : Denotes cs n) : ',' ∉ cs := by
  cases h with
  | plain _ all => exact fun mem => absurd (all _ mem) (by decide)
  | minus _ all =>
    rw [List.mem_cons, not_or]
    exact ⟨by decide, fun mem => absurd (all _ mem) (by decide)⟩

/-! ## Lines -/

theorem ofLine_of_body {line : String} {id checker file more : List Char} {n : Int}
    (body : Body line (id ++ ',' :: (checker ++ ',' :: (file ++ more)))) (first : ',' ∉ id)
    (second : ',' ∉ checker) (third : ',' ∉ file) (others : more = [] ∨ ∃ rest, more = ',' :: rest)
    (number : Denotes id n) (short : id.countP Char.isDigit ≤ Decimal.maxDigits) :
    ofLine line =
      .ok (.ok { id := n, checker := String.ofList checker, file := String.ofList file }) := by
  refine (Reads.query body first second third others number).ofLine_eq ?_
  intro id' _ _ _ split _
  rw [body.fields_eq first] at split
  rwa [← (List.cons.inj split).1]

theorem readAs_iff (line : String) (q : Query) : ReadAs line q ↔ ofLine line = .ok (.ok q) := by
  constructor
  · intro h
    have answer := congrArg Stream.Step.query (h { lines := [line] } [] rfl)
    rw [Stream.next, Stream.nextIn] at answer
    cases read : ofLine line with
    | error fault => simp [read, Stream.nextIn] at answer
    | ok found => cases found <;> simp_all
  · intro h s rest lines
    simp only [Stream.next, lines, Stream.nextIn, h]

/-- Text in front of a line goes with what the line has before its ending. -/
theorem Body.behind {line : String} {cs : List Char} (h : Body line cs) (front : String)
    (solid : ∀ c ∈ front.toList.getLast?, isLineEnd c = false) :
    Body (front ++ line) (front.toList ++ cs) where
  ending := by
    obtain ⟨ends, whole, all⟩ := h.ending
    exact ⟨ends, by rw [String.toList_append, whole, List.append_assoc], all⟩
  kept := by
    intro c last
    rw [List.getLast?_append] at last
    cases own : cs.getLast? with
    | none => exact solid c (by rwa [own] at last)
    | some b =>
      rw [own] at last
      exact h.kept c (own.trans last)

theorem body_of_ending {ending : String} (ends : ∀ c ∈ ending.toList, isLineEnd c) :
    Body ending [] where
  ending := ⟨ending.toList, rfl, ends⟩
  kept := nofun

/-! ## Queries -/

/-- What a line can say: the identifier can be written, and no field has a comma. -/
structure Sayable (q : Query) : Prop where
  short : digitCount q.id ≤ Decimal.maxDigits
  checker : ',' ∉ q.checker.toList
  file : ',' ∉ q.file.toList

variable {q : Query}

theorem Sayable.written_eq (h : q.Sayable) :
    q.written = .ok (toString q.id ++ "," ++ q.checker ++ "," ++ q.file) := by
  rw [written, written_of_digitCount h.short]
  rfl

/-- The fields of the line, with nothing behind them or with a comma and more. -/
theorem toList_said (q : Query) (more : List Char) :
    (toString q.id ++ "," ++ q.checker ++ "," ++ q.file).toList ++ more =
      (toString q.id).toList ++ ',' :: (q.checker.toList ++ ',' :: (q.file.toList ++ more)) := by
  simp

theorem Sayable.readAs (h : q.Sayable) {line : String} {more : List Char}
    (body : Body line ((toString q.id ++ "," ++ q.checker ++ "," ++ q.file).toList ++ more))
    (others : more = [] ∨ ∃ rest, more = ',' :: rest) : ReadAs line q := by
  have number := denotes_toString q.id
  have short : (toString q.id).toList.countP Char.isDigit ≤ Decimal.maxDigits := by
    rw [countP_toString]
    exact h.short
  rw [toList_said] at body
  have answer := ofLine_of_body body number.no_comma h.checker h.file others number short
  rw [readAs_iff, answer, String.ofList_toList, String.ofList_toList]

theorem Sayable.readAs_ended (h : q.Sayable) {ending : String}
    (ends : ∀ c ∈ ending.toList, isLineEnd c)
    (kept : ∀ c ∈ q.file.toList.getLast?, isLineEnd c = false) :
    ReadAs (toString q.id ++ "," ++ q.checker ++ "," ++ q.file ++ ending) q := by
  refine h.readAs ((body_of_ending ends).behind _ ?_) (.inl rfl)
  intro c last
  rw [String.toList_append, List.getLast?_append] at last
  cases own : q.file.toList.getLast? with
  | some b =>
    rw [own] at last
    exact kept c (own.trans last)
  | none =>
    rw [own, Option.none_or, String.toList_append, List.getLast?_append] at last
    obtain rfl := Option.some.inj last
    decide

theorem Sayable.readAs_longer (h : q.Sayable) (more : String) :
    ReadAs (toString q.id ++ "," ++ q.checker ++ "," ++ q.file ++ "," ++ more) q := by
  have body := (body_withoutEnding more).behind
    (toString q.id ++ "," ++ q.checker ++ "," ++ q.file ++ ",") ?_
  · rw [String.toList_append, List.append_assoc] at body
    exact h.readAs body (.inr ⟨_, rfl⟩)
  · intro c last
    rw [String.toList_append, List.getLast?_append] at last
    obtain rfl := Option.some.inj last
    decide

/-- A query that was read from a line of three fields can be said, and its file ends in no line
end. -/
theorem sayable_of_reads {line : String} (three : (fields line).length = 3)
    (short : ShortIdentifier line) (h : Reads line (.ok q)) :
    q.Sayable ∧ ∀ c ∈ q.file.toList.getLast?, isLineEnd c = false := by
  cases h with
  | @query id checker file more n body first second third others number =>
    have none : more = [] := by
      rcases others with none | ⟨rest, rfl⟩
      · exact none
      · rw [fields, Text.length_splitAt, ← body.eq] at three
        simp only [List.count_append, List.count_cons_self] at three
        omega
    obtain ⟨parts, split⟩ := splitAt_three id checker file more first second third others
    rw [body.eq] at split
    have few := short id checker file parts split number.isIdentifier
    refine ⟨⟨Nat.le_trans number.digitCount_le few, ?_, ?_⟩, ?_⟩
    · rwa [String.toList_ofList]
    · rwa [String.toList_ofList]
    · rw [String.toList_ofList]
      intro c last
      have whole : id ++ ',' :: (checker ++ ',' :: (file ++ more)) =
          (id ++ ',' :: checker ++ [',']) ++ file := by simp [none]
      refine body.kept c ?_
      rw [whole, List.getLast?_append, Option.mem_def.mp last]
      rfl

/-- **Round trip.** A query can be said in a line if its identifier can be written and no field has
a comma. Such a line is read as the query with any line ending behind it, where the file does not
end in one itself, and with a comma and any text behind it, whatever the file ends in. A query that
was read from a line of three fields can be said, however its identifier was spelled, and is read
from what says it. -/
theorem lines_round_trip :
    (∀ q : Query, q.Sayable → ∃ text, q.written = .ok text ∧
      (∀ ending : String, (∀ c ∈ ending.toList, isLineEnd c) →
        (∀ c ∈ q.file.toList.getLast?, isLineEnd c = false) → ReadAs (text ++ ending) q) ∧
      ∀ more, ReadAs (text ++ "," ++ more) q) ∧
    ∀ line q, (fields line).length = 3 → ReadAs line q →
      ∃ text, q.written = .ok text ∧ ReadAs text q := by
  refine ⟨fun q said => ⟨_, said.written_eq, ?_, ?_⟩, fun line q three readAs => ?_⟩
  · exact fun ending ends kept => said.readAs_ended ends kept
  · exact fun more => said.readAs_longer more
  · have answer : Stream.answer? line = some (.ok q) := by
      rw [Stream.answer?, (readAs_iff line q).mp readAs]
      rfl
    cases (gives_iff line (.ok q)).mpr answer with
    | query reads short =>
      obtain ⟨said, kept⟩ := sayable_of_reads three short reads
      refine ⟨_, said.written_eq, ?_⟩
      have ends : ∀ c ∈ "".toList, isLineEnd c := List.all_eq_true.mp rfl
      have again := said.readAs_ended ends kept
      rwa [String.append_empty] at again

/-- A query with a carriage return in its checker and no file. -/
def nameless : Query := { id := -7, checker := "A\rB", file := "" }

/-- It is read from what says it, with a line ending or with more fields behind it; so is the query
of a line with leading zeros. -/
theorem lines_round_trip_nameless :
    nameless.Sayable ∧ (fields "-007,A\rB,\r\n").length = 3 ∧ ReadAs "-007,A\rB,\r\n" nameless ∧
    ∃ text, nameless.written = .ok text ∧ text = "-7,A\rB," ∧ ReadAs (text ++ "\n\r\n") nameless ∧
      ReadAs (text ++ "," ++ "\n") nameless ∧ ReadAs text nameless := by
  have said : nameless.Sayable := ⟨by decide +kernel, by decide, by decide⟩
  have three : (fields "-007,A\rB,\r\n").length = 3 := by decide +kernel
  have readAs : ReadAs "-007,A\rB,\r\n" nameless := (readAs_iff _ _).mpr (by decide +kernel)
  obtain ⟨there, back⟩ := lines_round_trip
  obtain ⟨text, written, ended, longer⟩ := there nameless said
  obtain ⟨text', written', again⟩ := back _ nameless three readAs
  obtain rfl : text = text' := Except.ok.inj (written.symm.trans written')
  have spelled : text = "-7,A\rB," :=
    Except.ok.inj (written.symm.trans said.written_eq)
  exact ⟨said, three, readAs, text, written, spelled, ended _ (List.all_eq_true.mp rfl) nofun,
    longer _, again⟩

end Findings.Query
