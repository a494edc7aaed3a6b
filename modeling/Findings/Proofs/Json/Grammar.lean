import Findings.Json.Reader
/-!
JSON as its standard has it, to compare with the texts that are read. The standard knows
three words, and `NaN` is none of them.

* `clear_of_derives`: in a text of the standard, no capital N stands outside of strings.
-/

namespace Findings.Json.Grammar

/-- Characters between the quotes of a string. -/
inductive Quoted : List Char → Prop where
  | nil : Quoted []
  | plain {c : Char} {cs : List Char} (visible : 0x20 ≤ c.toNat) (quote : c ≠ '"')
      (backslash : c ≠ '\\') (rest : Quoted cs) : Quoted (c :: cs)
  | short {c : Char} {cs : List Char} (letter : c ∈ ['"', '\\', '/', 'b', 'f', 'n', 'r', 't'])
      (rest : Quoted cs) : Quoted ('\\' :: c :: cs)
  | unicode {digits cs : List Char} (four : digits.length = 4)
      (hex : ∀ c ∈ digits, c.isDigit ∨ c ∈ "abcdefABCDEF".toList) (rest : Quoted cs) :
      Quoted ('\\' :: 'u' :: digits ++ cs)

/-- Digits without a needless zero in front. -/
def IsWhole (cs : List Char) : Prop :=
  cs ≠ [] ∧ (∀ c ∈ cs, c.isDigit) ∧ (cs.head? = some '0' → cs = ['0'])

/-- A point with digits, or nothing. -/
def IsFraction (cs : List Char) : Prop :=
  cs = [] ∨ ∃ ds, cs = '.' :: ds ∧ ds ≠ [] ∧ ∀ c ∈ ds, c.isDigit

/-- A letter e with a number that may have a sign, or nothing. -/
def IsExponent (cs : List Char) : Prop :=
  cs = [] ∨ ∃ e sign ds, cs = e :: sign ++ ds ∧ e ∈ ['e', 'E'] ∧ sign ∈ [[], ['+'], ['-']] ∧
    ds ≠ [] ∧ ∀ c ∈ ds, c.isDigit

def IsNumber (cs : List Char) : Prop :=
  ∃ sign whole fraction exponent, cs = sign ++ whole ++ fraction ++ exponent ∧
    sign ∈ [[], ['-']] ∧ IsWhole whole ∧ IsFraction fraction ∧ IsExponent exponent

def IsBlank (cs : List Char) : Prop := ∀ c ∈ cs, c ∈ [' ', '\t', '\n', '\r']

/-- The parts of a text: a value, a value among blanks, and the insides of arrays and objects. -/
inductive Part where
  | value
  | element
  | items
  | fields

inductive Derives : Part → List Char → Prop where
  | word {cs : List Char} (known : cs ∈ ["null".toList, "true".toList, "false".toList]) :
      Derives .value cs
  | number {cs : List Char} (number : IsNumber cs) : Derives .value cs
  | string {cs : List Char} (inside : Quoted cs) : Derives .value ('"' :: cs ++ ['"'])
  | emptyArray {blank : List Char} (isBlank : IsBlank blank) :
      Derives .value ('[' :: blank ++ [']'])
  | array {cs : List Char} (items : Derives .items cs) : Derives .value ('[' :: cs ++ [']'])
  | emptyObject {blank : List Char} (isBlank : IsBlank blank) :
      Derives .value ('\x7b' :: blank ++ ['\x7d'])
  | object {cs : List Char} (fields : Derives .fields cs) :
      Derives .value ('\x7b' :: cs ++ ['\x7d'])
  | element {before cs behind : List Char} (isBlank : IsBlank before) (value : Derives .value cs)
      (isBlank' : IsBlank behind) : Derives .element (before ++ cs ++ behind)
  | lastItem {cs : List Char} (item : Derives .element cs) : Derives .items cs
  | item {cs more : List Char} (item : Derives .element cs) (others : Derives .items more) :
      Derives .items (cs ++ ',' :: more)
  | lastField {before key behind cs : List Char} (isBlank : IsBlank before) (inside : Quoted key)
      (isBlank' : IsBlank behind) (item : Derives .element cs) :
      Derives .fields (before ++ ('"' :: key ++ ['"']) ++ behind ++ ':' :: cs)
  | field {before key behind cs more : List Char} (isBlank : IsBlank before) (inside : Quoted key)
      (isBlank' : IsBlank behind) (item : Derives .element cs) (others : Derives .fields more) :
      Derives .fields (before ++ ('"' :: key ++ ['"']) ++ behind ++ ':' :: cs ++ ',' :: more)

/-- The text is JSON. -/
def IsText (s : String) : Prop := Derives .element s.toList

/-! ## Outside of strings -/

/-- Whether there is no capital N outside of strings, from the inside of a string on or not. -/
def clear : (quoted : Bool) → List Char → Bool
  | _, [] => true
  | true, ['\\'] => true
  | true, '\\' :: _ :: cs => clear true cs
  | true, c :: cs => clear (c ≠ '"') cs
  | false, c :: cs => c ≠ 'N' && clear (c = '"') cs

theorem clear_true_append (cs rest : List Char) (h : ∀ c ∈ cs, c ≠ '"' ∧ c ≠ '\\') :
    clear true (cs ++ rest) = clear true rest := by
  induction cs with
  | nil => rfl
  | cons c cs ih =>
    obtain ⟨quote, backslash⟩ := h c List.mem_cons_self
    rw [← ih fun d hd => h d (List.mem_cons_of_mem c hd), List.cons_append, clear]
    · simp [quote]
    · exact fun same => absurd same backslash
    · exact fun _ _ same => absurd same backslash

theorem clear_false_append (cs rest : List Char) (h : ∀ c ∈ cs, c ≠ '"' ∧ c ≠ 'N') :
    clear false (cs ++ rest) = clear false rest := by
  induction cs with
  | nil => rfl
  | cons c cs ih =>
    obtain ⟨quote, other⟩ := h c List.mem_cons_self
    simp [clear, quote, other, ih fun d hd => h d (List.mem_cons_of_mem c hd)]

theorem clear_quoted {cs : List Char} (h : Quoted cs) (rest : List Char) :
    clear true (cs ++ '"' :: rest) = clear false rest := by
  induction h with
  | nil => simp [clear]
  | plain visible quote backslash h ih => simp_all [clear]
  | short letter h ih => simpa [clear] using ih
  | @unicode digits cs four hex h ih =>
    have plain : ∀ c ∈ digits, c ≠ '"' ∧ c ≠ '\\' := by
      intro c hc
      constructor <;> rintro rfl <;> exact absurd (hex _ hc) (by decide)
    have letter : clear true ('\\' :: 'u' :: digits ++ cs ++ '"' :: rest) =
        clear true (digits ++ (cs ++ '"' :: rest)) := by simp [clear]
    rw [letter, clear_true_append digits _ plain, ih]

theorem clear_string {cs : List Char} (h : Quoted cs) (rest : List Char) :
    clear false ('"' :: cs ++ ['"'] ++ rest) = clear false rest := by
  simpa [clear] using clear_quoted h rest

theorem clear_blank {cs : List Char} (h : IsBlank cs) (rest : List Char) :
    clear false (cs ++ rest) = clear false rest := by
  refine clear_false_append cs rest fun c hc => ?_
  constructor <;> rintro rfl <;> exact absurd (h _ hc) (by decide)

/-- What a number is made of. -/
theorem mem_of_isNumber {cs : List Char} (h : IsNumber cs) {c : Char} (hc : c ∈ cs) :
    c.isDigit ∨ c ∈ ['-', '+', '.', 'e', 'E'] := by
  obtain ⟨sign, whole, fraction, exponent, rfl, signed, ⟨-, whole, -⟩, fraction, exponent⟩ := h
  simp only [List.mem_append] at hc
  rcases hc with ((hc | hc) | hc) | hc
  · simp only [List.mem_cons, List.not_mem_nil, or_false] at signed
    rcases signed with rfl | rfl <;> simp_all
  · exact .inl (whole c hc)
  · rcases fraction with rfl | ⟨ds, rfl, -, digits⟩
    · cases hc
    · rcases List.mem_cons.mp hc with rfl | hc
      · simp
      · exact .inl (digits c hc)
  · rcases exponent with rfl | ⟨e, sign, ds, rfl, letter, signed, -, digits⟩
    · cases hc
    · simp only [List.cons_append, List.mem_cons, List.mem_append] at hc
      rcases hc with rfl | hc | hc
      · exact .inr (by simp_all)
      · simp only [List.mem_cons, List.not_mem_nil, or_false] at signed
        rcases signed with rfl | rfl | rfl <;> simp_all
      · exact .inl (digits c hc)

theorem clear_number {cs : List Char} (h : IsNumber cs) (rest : List Char) :
    clear false (cs ++ rest) = clear false rest := by
  refine clear_false_append cs rest fun c hc => ?_
  constructor <;> rintro rfl <;> exact absurd (mem_of_isNumber h hc) (by decide)

/-- Every part of a JSON text leaves it to the rest whether there is a capital N. -/
theorem clear_of_derives {p : Part} {cs : List Char} (h : Derives p cs) (rest : List Char) :
    clear false (cs ++ rest) = clear false rest := by
  induction h generalizing rest with
  | word known =>
    simp only [List.mem_cons, List.not_mem_nil, or_false] at known
    rcases known with rfl | rfl | rfl <;> simp [clear]
  | number number => exact clear_number number rest
  | string inside => exact clear_string inside rest
  | emptyArray isBlank => simp [clear, clear_blank isBlank]
  | array items ih => simp [clear, ih]
  | emptyObject isBlank => simp [clear, clear_blank isBlank]
  | object fields ih => simp [clear, ih]
  | element before value behind ih =>
    rw [List.append_assoc, List.append_assoc, clear_blank before, ih, clear_blank behind]
  | lastItem item ih => exact ih rest
  | item item others ih ih' => simp [clear, ih, ih']
  | lastField before inside behind item ih =>
    rw [List.append_assoc, List.append_assoc, List.append_assoc, clear_blank before,
      clear_string inside, clear_blank behind]
    simp [clear, ih]
  | field before inside behind item others ih ih' =>
    rw [List.append_assoc, List.append_assoc, List.append_assoc, List.append_assoc,
      clear_blank before, clear_string inside, clear_blank behind]
    simp [clear, ih, ih']

/-- A text with a capital N outside of strings is not JSON. -/
theorem not_isText_of_clear {s : String} (h : clear false s.toList = false) : ¬IsText s := by
  intro isText
  have same := clear_of_derives isText []
  rw [List.append_nil, h] at same
  cases same

end Findings.Json.Grammar
