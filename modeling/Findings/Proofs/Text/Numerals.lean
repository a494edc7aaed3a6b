import Findings.Text.Numeral
import Mathlib.Data.List.TakeWhile
/-!
Which texts are numerals, and of which number: the grammar against the reader.

* `digits?_eq_some_iff`: a run of digits with single underscores between them;
* `trimBlanks_append`, `exists_trimBlanks`: a text is what is left of it with blanks at both ends;
* `integer?_eq_some_iff`: the reader gives the number that the text denotes, and none otherwise;
* `denotes_toString`: a number of not too many digits is denoted by its decimal text.
-/

namespace Findings.Text

/-! ## Blanks at the ends -/

theorem dropWhile_eq_self {p : Char → Bool} {cs : List Char} (h : ∀ c ∈ cs.head?, p c = false) :
    cs.dropWhile p = cs := by
  cases cs with
  | nil => rfl
  | cons c cs =>
    have stop := h c rfl
    rw [List.dropWhile_cons_of_neg (by simp [stop])]

/-- The text has a character that is no blank at each of its ends. -/
structure Tight (cs : List Char) : Prop where
  first : ∀ c ∈ cs.head?, isBlank c = false
  last : ∀ c ∈ cs.getLast?, isBlank c = false

theorem trimBlanks_append {left body right : List Char} (hl : ∀ c ∈ left, isBlank c)
    (hr : ∀ c ∈ right, isBlank c) (tight : Tight body) :
    trimBlanks (left ++ body ++ right) = body := by
  have front : (body ++ right).dropWhile isBlank = body ++ right ∨ body = [] := by
    cases body with
    | nil => exact .inr rfl
    | cons c body => exact .inl (dropWhile_eq_self tight.first)
  rw [trimBlanks, List.append_assoc, List.dropWhile_append_of_pos hl]
  rcases front with front | rfl
  · have back : ∀ c ∈ right.reverse, isBlank c := fun c h => hr c (List.mem_reverse.mp h)
    have stop : ∀ c ∈ body.reverse.head?, isBlank c = false := by
      rw [List.head?_reverse]
      exact tight.last
    rw [front, List.reverse_append, List.dropWhile_append_of_pos back, dropWhile_eq_self stop,
      List.reverse_reverse]
  · have all : right.dropWhile isBlank = [] := List.dropWhile_eq_nil_iff.mpr hr
    rw [List.nil_append, all]
    rfl

theorem exists_trimBlanks (cs : List Char) :
    ∃ left right, cs = left ++ trimBlanks cs ++ right ∧ (∀ c ∈ left, isBlank c) ∧
      ∀ c ∈ right, isBlank c := by
  let rest := cs.dropWhile isBlank
  refine ⟨cs.takeWhile isBlank, (rest.reverse.takeWhile isBlank).reverse, ?_, ?_, ?_⟩
  · have back : trimBlanks cs ++ (rest.reverse.takeWhile isBlank).reverse = rest := by
      rw [trimBlanks, ← List.reverse_append, List.takeWhile_append_dropWhile, List.reverse_reverse]
    rw [List.append_assoc, back, List.takeWhile_append_dropWhile]
  · exact fun _ => List.mem_takeWhile_imp
  · exact fun c h => List.mem_takeWhile_imp (List.mem_reverse.mp h)

/-! ## Digits -/

namespace Digit

theorem exists_zero {code d : Nat} {table : List Nat} (h : valueFrom code table = some d) :
    ∃ z ∈ table, z ≤ code ∧ code < z + 10 ∧ d = code - z := by
  induction table with
  | nil => cases h
  | cons z table ih =>
    rw [valueFrom] at h
    split at h
    · next within =>
      exact ⟨z, List.mem_cons_self, within.1, within.2, (Option.some.inj h).symm⟩
    · obtain ⟨y, mem, found⟩ := ih h
      exact ⟨y, List.mem_cons_of_mem _ mem, found⟩

/-- No script has its digits among the blanks. -/
theorem not_isBlank {c : Char} {d : Nat} (h : value? c = some d) : isBlank c = false := by
  obtain ⟨z, mem, least, most, -⟩ := exists_zero h
  have apart : ∀ z ∈ zeros, ∀ r ∈ blankRanges, z + 10 ≤ r.1 ∨ r.2 < z := by decide
  cases blank : isBlank c with
  | false => rfl
  | true =>
    obtain ⟨r, range, low, high⟩ := (Ranges.mem_iff _ _).mp blank
    have := apart z mem r range
    omega

end Digit

namespace Numeral

/-! ## Runs of digits -/

/-- Digits from first to last, in any script, each pair of neighbours with an underscore between
them or with nothing. -/
inductive Spells : List Char → List Nat → Prop where
  | last {c : Char} {d : Nat} (digit : Digit.value? c = some d) : Spells [c] [d]
  | next {c : Char} {d : Nat} {cs : List Char} {ds : List Nat} (digit : Digit.value? c = some d)
      (rest : Spells cs ds) : Spells (c :: cs) (d :: ds)
  | parted {c : Char} {d : Nat} {cs : List Char} {ds : List Nat} (digit : Digit.value? c = some d)
      (rest : Spells cs ds) : Spells (c :: '_' :: cs) (d :: ds)

theorem value?_underscore : Digit.value? '_' = none := by decide

theorem digits?_cons (c : Char) (cs : List Char) (ds : List Nat) :
    digits? (c :: cs) = some ds ↔
      ∃ d rest, Digit.value? c = some d ∧ moreDigits cs = some rest ∧ ds = d :: rest := by
  rw [digits?]
  cases Digit.value? c <;> cases moreDigits cs <;> simp [eq_comm]

theorem moreDigits_underscore (cs : List Char) : moreDigits ('_' :: cs) = digits? cs := by
  cases cs with
  | nil => simp [moreDigits, digits?, value?_underscore]
  | cons c cs => rfl

/-- Digits that stand alone may also stand behind another one. -/
theorem moreDigits_of_digits? {cs : List Char} {ds : List Nat} (h : digits? cs = some ds) :
    moreDigits cs = some ds := by
  cases cs with
  | nil => cases h
  | cons c cs =>
    have digit : c ≠ '_' := by
      rintro rfl
      obtain ⟨d, -, value, -⟩ := (digits?_cons _ _ _).mp h
      rw [value?_underscore] at value
      cases value
    rw [← h, moreDigits.eq_3 _ _ (by rintro - - rfl; exact absurd rfl digit), digits?]

theorem spells_of_moreDigits {c : Char} {d : Nat} (digit : Digit.value? c = some d)
    {cs : List Char} {ds : List Nat} (h : moreDigits cs = some ds) :
    Spells (c :: cs) (d :: ds) := by
  fun_induction moreDigits cs generalizing c d ds with
  | case1 =>
    obtain rfl := Option.some.inj h
    exact .last digit
  | case2 b rest d' ds' more value ih =>
    obtain rfl := Option.some.inj h
    exact .parted digit (ih value more)
  | case3 => cases h
  | case4 b rest _ d' ds' more value ih =>
    obtain rfl := Option.some.inj h
    exact .next digit (ih value more)
  | case5 => cases h

theorem digits?_eq_some_iff (cs : List Char) (ds : List Nat) :
    digits? cs = some ds ↔ Spells cs ds := by
  constructor
  · intro h
    cases cs with
    | nil => cases h
    | cons c cs =>
      obtain ⟨d, rest, digit, more, rfl⟩ := (digits?_cons _ _ _).mp h
      exact spells_of_moreDigits digit more
  · intro h
    induction h with
    | last digit => exact (digits?_cons _ _ _).mpr ⟨_, _, digit, rfl, rfl⟩
    | next digit _ ih =>
      exact (digits?_cons _ _ _).mpr ⟨_, _, digit, moreDigits_of_digits? ih, rfl⟩
    | parted digit _ ih =>
      exact (digits?_cons _ _ _).mpr ⟨_, _, digit, (moreDigits_underscore _).trans ih, rfl⟩

theorem Spells.first {cs : List Char} {ds : List Nat} (h : Spells cs ds) :
    ∃ c rest d, cs = c :: rest ∧ Digit.value? c = some d := by
  cases h with
  | last digit => exact ⟨_, _, _, rfl, digit⟩
  | next digit _ => exact ⟨_, _, _, rfl, digit⟩
  | parted digit _ => exact ⟨_, _, _, rfl, digit⟩

theorem Spells.final {cs : List Char} {ds : List Nat} (h : Spells cs ds) :
    ∃ c ∈ cs.getLast?, ∃ d, Digit.value? c = some d := by
  induction h with
  | last digit => exact ⟨_, rfl, _, digit⟩
  | next _ rest ih =>
    obtain ⟨b, cs, -, rfl, -⟩ := rest.first
    exact ih
  | parted _ rest ih =>
    obtain ⟨b, cs, -, rfl, -⟩ := rest.first
    exact ih

/-! ## Numbers -/

/-- A run of digits, few enough to be read, and the number it comes to. -/
def Natural (cs : List Char) (n : Nat) : Prop :=
  ∃ ds, Spells cs ds ∧ ds.length ≤ Decimal.maxDigits ∧ ofDigits ds = n

theorem natural?_eq_some_iff (cs : List Char) (n : Nat) : natural? cs = some n ↔ Natural cs n := by
  simp only [Natural, ← digits?_eq_some_iff]
  rw [natural?]
  cases digits? cs <;> simp

/-- Digits with a sign in front of them or without one. -/
inductive Signed : List Char → Int → Prop where
  | minus {cs : List Char} {n : Nat} (body : Natural cs n) : Signed ('-' :: cs) (-n)
  | plus {cs : List Char} {n : Nat} (body : Natural cs n) : Signed ('+' :: cs) n
  | bare {cs : List Char} {n : Nat} (body : Natural cs n) : Signed cs n

theorem Natural.first_ne {cs : List Char} {n : Nat} (h : Natural cs n) {sign : Char}
    (none : Digit.value? sign = none) (rest : List Char) : cs ≠ sign :: rest := by
  rintro rfl
  obtain ⟨ds, spells, -⟩ := h
  obtain ⟨c, _, d, eq, digit⟩ := spells.first
  rw [← (List.cons.inj eq).1, none] at digit
  cases digit

/-- A run of digits, made into a number with a sign. -/
theorem map_natural?_eq_some_iff (cs : List Char) (f : Int → Int) (n : Int) :
    (natural? cs : Option Int).map f = some n ↔ ∃ k : Nat, Natural cs k ∧ f k = n := by
  simp only [← natural?_eq_some_iff]
  cases natural? cs <;> simp

theorem signed?_eq_some_iff (cs : List Char) (n : Int) : signed? cs = some n ↔ Signed cs n := by
  constructor
  · intro h
    unfold signed? at h
    split at h <;> obtain ⟨k, body, rfl⟩ := (map_natural?_eq_some_iff _ _ _).mp h
    · exact .minus body
    · exact .plus body
    · exact .bare body
  · intro h
    cases h with
    | minus body => exact (map_natural?_eq_some_iff _ _ _).mpr ⟨_, body, rfl⟩
    | plus body => exact (map_natural?_eq_some_iff _ _ _).mpr ⟨_, body, rfl⟩
    | bare body =>
      rw [signed?.eq_3 _ (body.first_ne (by decide)) (body.first_ne (by decide))]
      exact (map_natural?_eq_some_iff _ _ _).mpr ⟨_, body, rfl⟩

theorem Natural.tight {cs : List Char} {n : Nat} (h : Natural cs n) : Tight cs := by
  obtain ⟨ds, spells, -⟩ := h
  obtain ⟨c, rest, d, rfl, digit⟩ := spells.first
  obtain ⟨b, last, d', digit'⟩ := spells.final
  refine ⟨fun x hx => ?_, fun x hx => ?_⟩
  · obtain rfl := Option.some.inj hx
    exact Digit.not_isBlank digit
  · obtain rfl := Option.mem_unique hx last
    exact Digit.not_isBlank digit'

theorem Tight.sign {cs : List Char} (h : Tight cs) (some : cs ≠ []) {sign : Char}
    (visible : isBlank sign = false) : Tight (sign :: cs) := by
  refine ⟨fun x hx => ?_, fun x hx => h.last x ?_⟩
  · rw [← Option.some.inj hx]
    exact visible
  · rwa [List.getLast?_cons_of_ne_nil some] at hx

theorem Signed.tight {cs : List Char} {n : Int} (h : Signed cs n) : Tight cs := by
  have some {cs : List Char} {n : Nat} (body : Natural cs n) : cs ≠ [] := by
    rintro rfl
    obtain ⟨_, spells, -⟩ := body
    cases spells
  cases h with
  | minus body => exact Tight.sign body.tight (some body) (by decide)
  | plus body => exact Tight.sign body.tight (some body) (by decide)
  | bare body => exact body.tight

/-- The text is a numeral, perhaps with blanks around it, and `n` is its number. -/
def Denotes (s : String) (n : Int) : Prop :=
  ∃ left body right, s.toList = left ++ body ++ right ∧ (∀ c ∈ left, isBlank c) ∧
    (∀ c ∈ right, isBlank c) ∧ Signed body n

theorem integer?_eq_some_iff (s : String) (n : Int) : integer? s = some n ↔ Denotes s n := by
  rw [integer?, signed?_eq_some_iff]
  constructor
  · intro h
    obtain ⟨left, right, eq, hl, hr⟩ := exists_trimBlanks s.toList
    exact ⟨left, _, right, eq, hl, hr, h⟩
  · rintro ⟨left, body, right, eq, hl, hr, h⟩
    rwa [eq, trimBlanks_append hl hr h.tight]

/-! ## Decimal texts -/

/-- The usual digits, as a run without underscores. -/
theorem spells_of_isDigit {cs : List Char} (some : cs ≠ []) (all : ∀ c ∈ cs, c.isDigit) :
    Spells cs (cs.map fun c => c.toNat - '0'.toNat) := by
  induction cs with
  | nil => exact absurd rfl some
  | cons c cs ih =>
    obtain ⟨first, others⟩ := List.forall_mem_cons.mp all
    have digit := Digit.value?_of_isDigit c first
    cases cs with
    | nil => exact .last digit
    | cons => exact .next digit (ih (List.cons_ne_nil _ _) others)

theorem ofDigits_map (cs : List Char) :
    ofDigits (cs.map fun c => c.toNat - '0'.toNat) = Nat.ofDigitChars 10 cs 0 := by
  rw [ofDigits, List.foldl_map]
  rfl

theorem natural_toDigits {n : Nat} (short : (Nat.toDigits 10 n).length ≤ Decimal.maxDigits) :
    Natural (Nat.toDigits 10 n) n := by
  refine ⟨_, spells_of_isDigit Nat.toDigits_ne_nil fun c => Decimal.isDigit_of_mem_toDigits, ?_, ?_⟩
  · rwa [List.length_map]
  · rw [ofDigits_map, Nat.ofDigitChars_ten_toDigits]

theorem denotes_toString {n : Int} (short : (Nat.toDigits 10 n.natAbs).length ≤ Decimal.maxDigits) :
    Denotes (toString n) n := by
  have signed : Signed (toString n).toList n := by
    cases n with
    | ofNat k =>
      have digits : (toString (Int.ofNat k)).toList = Nat.toDigits 10 k := Decimal.toList_toString k
      rw [digits]
      exact .bare (natural_toDigits short)
    | negSucc k =>
      rw [Decimal.toList_toString_negSucc]
      exact .minus (natural_toDigits short)
  exact ⟨[], _, [], by simp, nofun, nofun, signed⟩

end Numeral

end Findings.Text
