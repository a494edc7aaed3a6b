import Findings.Console.Writer
import Findings.Decimal.Integer
import Findings.Text.Utf8
/-!
What the program may expect of a console.

* `PlainLine`, `Sound`: text that a console shows as it is, and markup that it can show at all, by
  how they are put together;
* `Text.Whole`, `Text.whole_iff`: text that standard output takes;
* `Writer.Lawful`: a console that does what it is for.
-/

namespace Findings

/-! ## Whole text -/

namespace Text

/-- No character of the text is of this kind. -/
def Lacks (kind : Char → Bool) (s : String) : Prop := ∀ c ∈ s.toList, kind c = false

instance (kind : Char → Bool) (s : String) : Decidable (Lacks kind s) :=
  decidable_of_iff (s.toList.all fun c => !kind c) (by simp [Lacks])

theorem Lacks.append {kind : Char → Bool} {s t : String} (h : Lacks kind s) (h' : Lacks kind t) :
    Lacks kind (s ++ t) := by
  rw [Lacks, String.toList_append]
  exact List.forall_mem_append.mpr ⟨h, h'⟩

/-- No halves of surrogate pairs. -/
abbrev Whole (s : String) : Prop := Lacks Point.isStandIn s

/-- Of the texts that are made of points, just those without halves are whole. -/
theorem whole_iff (ps : List Point) :
    Whole (String.ofList (ps.flatMap Point.chars)) ↔ ∀ n, Point.half n ∉ ps := by
  rw [Whole, Lacks, String.toList_ofList]
  constructor
  · intro whole n
    rw [← points_chars ps]
    exact half_not_mem_points whole n
  · intro whole c mem
    obtain ⟨p, there, mem⟩ := List.mem_flatMap.mp mem
    cases p with
    | char d => exact Point.isStandIn_of_mem_chars mem
    | half n => exact absurd there (whole n)

/-- A text that came from bytes is whole. -/
theorem whole_ofPlain (cs : List Char) : Whole (String.ofList (ofPlain cs)) := by
  have same : ofPlain cs = (cs.map Point.char).flatMap Point.chars := by
    rw [ofPlain, List.flatMap_map]
  rw [same, whole_iff]
  intro n mem
  obtain ⟨c, -, other⟩ := List.mem_map.mp mem
  cases other

theorem Whole.unwritable?_eq_none {s : String} (h : Whole s) : Utf8.unwritable? s = none := by
  have none (position : Nat) (ps : List Point) (whole : ∀ n, Point.half n ∉ ps) :
      Utf8.unwritableFrom? position ps = none := by
    induction ps generalizing position with
    | nil => rfl
    | cons p ps ih =>
      cases p with
      | char c => exact ih _ fun n mem => whole n (List.mem_cons_of_mem _ mem)
      | half n => exact absurd List.mem_cons_self (whole n)
  exact none 0 _ (half_not_mem_points h)

theorem Lacks.whole {s : String} (h : Lacks Point.isReserved s) : Whole s :=
  fun c mem => Point.isStandIn_of_unreserved (h c mem)

theorem ofPlain_of_lacks {cs : List Char} (h : ∀ c ∈ cs, Point.isReserved c = false) :
    ofPlain cs = cs := by
  induction cs with
  | nil => rfl
  | cons c cs ih =>
    obtain ⟨first, others⟩ := List.forall_mem_cons.mp h
    have one : (Point.char c).chars = [c] := by rw [Point.chars, first, if_neg Bool.false_ne_true]
    rw [ofPlain, List.flatMap_cons, one, ← ofPlain, ih others, List.singleton_append]

theorem Lacks.backslashed_eq {s : String} (h : Lacks Point.isReserved s) :
    backslashed s.toList = s.toList := by
  have back : points s.toList = s.toList.map Point.char := by
    rw [← points_ofPlain, ofPlain_of_lacks h]
  rw [backslashed, back, List.flatMap_map]
  exact ofPlain_of_lacks h

end Text

namespace Console

open Text (Whole)

/-! ## Plain text -/

/-- A character of ASCII that is shown as it is, except that two colons may enclose a sign. -/
def isPlain (c : Char) : Bool := ' ' ≤ c && c ≤ '~' && c ≠ '[' && c ≠ '\\'

/-- A text of such characters, with so many colons. -/
structure PlainText (colons : Nat) (s : String) : Prop where
  plain : s.toList.all isPlain = true
  count : s.toList.count ':' = colons

instance (colons : Nat) (s : String) : Decidable (PlainText colons s) :=
  decidable_of_iff (s.toList.all isPlain = true ∧ s.toList.count ':' = colons)
    ⟨fun h => ⟨h.1, h.2⟩, fun h => ⟨h.plain, h.count⟩⟩

theorem PlainText.append {m n : Nat} {s t : String} (h : PlainText m s) (h' : PlainText n t) :
    PlainText (m + n) (s ++ t) where
  plain := by rw [String.toList_append, List.all_append, h.plain, h'.plain, Bool.and_self]
  count := by rw [String.toList_append, List.count_append, h.count, h'.count]

/-- One line of plain text, without a blank at its end. -/
structure PlainLine (s : String) : Prop where
  plain : ∃ colons ≤ 1, PlainText colons s
  ends : s.toList.getLast? ≠ some ' '

theorem bounds_of_isPlain {c : Char} (h : isPlain c = true) :
    (32 ≤ c.toNat ∧ c.toNat ≤ 126) ∧ c ≠ '[' ∧ c ≠ '\\' := by
  simp only [isPlain, Bool.and_eq_true, decide_eq_true_eq] at h
  obtain ⟨⟨⟨low, high⟩, bracket⟩, backslash⟩ := h
  exact ⟨⟨low, high⟩, bracket, backslash⟩

theorem isPlain_of_isDigit {c : Char} (h : c.isDigit = true) : isPlain c = true ∧ c ≠ ':' := by
  simp only [Char.isDigit, Bool.and_eq_true, decide_eq_true_eq, ge_iff_le] at h
  have bounds : 48 ≤ c.toNat ∧ c.toNat ≤ 57 := h
  refine ⟨?_, ?_⟩
  · simp only [isPlain, Bool.and_eq_true, decide_eq_true_eq]
    refine ⟨⟨⟨?_, ?_⟩, ?_⟩, ?_⟩
    · exact Nat.le_trans (by decide : 32 ≤ 48) bounds.1
    · exact Nat.le_trans bounds.2 (by decide : 57 ≤ 126)
    all_goals
      rintro rfl
      exact absurd bounds.2 (by decide)
  · rintro rfl
    exact absurd bounds.2 (by decide)

theorem plainText_toString (n : Int) : PlainText 0 (toString n) := by
  have digits (n : Nat) : ∀ c ∈ Nat.toDigits 10 n, isPlain c = true ∧ c ≠ ':' :=
    fun c mem => isPlain_of_isDigit (Decimal.isDigit_of_mem_toDigits mem)
  have all : ∀ c ∈ (toString n).toList, isPlain c = true ∧ c ≠ ':' := by
    cases n with
    | ofNat n =>
      rw [show (toString (Int.ofNat n)).toList = _ from Decimal.toList_toString n]
      exact digits n
    | negSucc n =>
      rw [Decimal.toList_toString_negSucc]
      exact List.forall_mem_cons.mpr ⟨by decide, digits _⟩
  exact ⟨List.all_eq_true.mpr fun c mem => (all c mem).1,
    List.count_eq_zero.mpr fun mem => (all _ mem).2 rfl⟩

/-- A text that a number ends has no blank at its end. -/
theorem getLast?_append_toString (s : String) (n : Nat) :
    (s ++ toString n).toList.getLast? ≠ some ' ' := by
  have digits : (toString n).toList = Nat.toDigits 10 n := Decimal.toList_toString n
  have mem := List.getLast_mem (Nat.toDigits_ne_nil (n := n) (b := 10))
  rw [String.toList_append, digits, List.getLast?_append,
    List.getLast?_eq_some_getLast Nat.toDigits_ne_nil, Option.some_or]
  intro last
  rw [Option.some.inj last] at mem
  exact absurd (Decimal.isDigit_of_mem_toDigits mem) (by decide)

theorem isReserved_of_isPlain {c : Char} (h : isPlain c = true) :
    Text.Point.isReserved c = false := by
  have bounds := (bounds_of_isPlain h).1
  rw [← Bool.not_eq_true, Text.Point.isReserved_iff]
  omega

theorem PlainText.lacks {n : Nat} {s : String} (h : PlainText n s) :
    Text.Lacks Text.Point.isReserved s :=
  fun c mem => isReserved_of_isPlain (List.all_eq_true.mp h.plain c mem)

theorem PlainLine.whole {s : String} (h : PlainLine s) : Whole s := by
  obtain ⟨⟨_, -, plain⟩, -⟩ := h
  exact plain.lacks.whole

/-! ## Markup -/

/-- Neither a bracket that could open a tag, nor a backslash that could fall on one. -/
def Tagless (s : String) : Prop := '[' ∉ s.toList ∧ '\\' ∉ s.toList

instance (s : String) : Decidable (Tagless s) := inferInstanceAs (Decidable (_ ∧ _))

theorem Tagless.append {s t : String} (h : Tagless s) (h' : Tagless t) : Tagless (s ++ t) := by
  simp only [Tagless, String.toList_append, List.mem_append, not_or]
  exact ⟨⟨h.1, h'.1⟩, h.2, h'.2⟩

theorem PlainText.tagless {n : Nat} {s : String} (h : PlainText n s) : Tagless s := by
  have each (c : Char) (mem : c ∈ s.toList) := bounds_of_isPlain (List.all_eq_true.mp h.plain c mem)
  exact ⟨fun mem => (each _ mem).2.1 rfl, fun mem => (each _ mem).2.2 rfl⟩

/-- Styles that the program names in tags. -/
def styles : List String := ["bold", "cyan", "dim", "green", "italic", "red"]

/-- Text between tags: words, and among them perhaps an escaped text. It is firm if no backslashes
of that one can fall on a tag behind it. -/
inductive Run (escape : String → String) : (firm : Bool) → String → Prop where
  | words {w : String} (plain : Tagless w) : Run escape true w
  | around {w v : String} (s : String) (before : Tagless w) (behind : Tagless v)
      (unclosed : ']' ∉ v.toList) (some : v ≠ "") : Run escape true (w ++ escape s ++ v)
  | escaped {w : String} (s : String) (before : Tagless w) : Run escape false (w ++ escape s)

/-- Markup whose tags close what they opened, and nothing else. -/
inductive Sound (escape : String → String) : String → Prop where
  | run {firm : Bool} {s : String} (run : Run escape firm s) : Sound escape s
  | styled {firm : Bool} {before style inside rest : String} (front : Run escape true before)
      (named : style ∈ styles) (inner : Run escape firm inside) (behind : Sound escape rest) :
      Sound escape (before ++ styled style inside ++ rest)

section Building

variable {escape : String → String} {s w : String} {firm : Bool}

theorem Run.after (plain : Tagless w) (h : Run escape firm s) : Run escape firm (w ++ s) := by
  cases h with
  | words plain' => exact .words (plain.append plain')
  | around s before behind unclosed some =>
    rw [← String.append_assoc, ← String.append_assoc]
    exact .around s (plain.append before) behind unclosed some
  | escaped s before =>
    rw [← String.append_assoc]
    exact .escaped s (plain.append before)

theorem Run.ofEscape (s : String) : Run escape false (escape s) := by
  have run : Run escape false ("" ++ escape s) := .escaped s (by decide)
  rwa [String.empty_append] at run

theorem Sound.words (plain : Tagless w) : Sound escape w := .run (.words plain)

/-- Words in front of sound markup leave it sound. -/
theorem Sound.after (plain : Tagless w) (h : Sound escape s) : Sound escape (w ++ s) := by
  cases h with
  | run run => exact .run (run.after plain)
  | styled front named inner behind =>
    rw [← String.append_assoc, ← String.append_assoc]
    exact .styled (front.after plain) named inner behind

theorem Sound.opening {style inside : String} (named : style ∈ styles)
    (inner : Run escape firm inside) (behind : Sound escape s) :
    Sound escape (Console.styled style inside ++ s) := by
  have sound : Sound escape ("" ++ Console.styled style inside ++ s) :=
    .styled (.words (by decide)) named inner behind
  rwa [String.empty_append] at sound

theorem Sound.single {style inside : String} (named : style ∈ styles)
    (inner : Run escape firm inside) : Sound escape (Console.styled style inside) := by
  have blank : Sound escape "" := .words (by decide)
  have sound := Sound.opening named inner blank
  rwa [String.append_empty] at sound

end Building

namespace Table

/-- A table with plain headings whose cells can all be shown. -/
structure Sound (escape : String → String) (t : Table) : Prop where
  title : PlainLine t.title
  headings : ∀ c ∈ t.columns, PlainLine c.heading
  cells : ∀ row ∈ t.body, ∀ cell ∈ row, Console.Sound escape cell

structure Whole (t : Table) : Prop where
  title : Text.Whole t.title
  headings : ∀ c ∈ t.columns, Text.Whole c.heading
  cells : ∀ row ∈ t.body, ∀ cell ∈ row, Text.Whole cell

end Table

/-! ## Consoles -/

/-- A console without styles. It shows what is plain as it is, even behind an empty line, and can
show whatever is sound; what is shown has no halves of surrogate pairs unless they were there
before. -/
structure Writer.Lawful (w : Writer) : Prop where
  line : ∀ s, PlainLine s →
    w.print s = .ok (s ++ "\n") ∧ w.print ("\n" ++ s) = .ok ("\n" ++ s ++ "\n")
  bare : ∀ s, Tagless s → w.escape s = s
  print : ∀ s, Sound w.escape s → ∃ t, w.print s = .ok t
  rule : ∀ title, PlainLine title → ∃ t, w.rule title = .ok t
  table : ∀ t : Table, t.Sound w.escape → ∃ s, w.table t = .ok s
  whole_escape : ∀ s, Whole s → Whole (w.escape s)
  whole_print : ∀ s t, w.print s = .ok t → Whole s → Whole t
  whole_rule : ∀ title t, w.rule title = .ok t → Whole title → Whole t
  whole_table : ∀ (t : Table) s, w.table t = .ok s → t.Whole → Whole s

end Console

end Findings
