import Findings.Json.Reader
import Findings.Proofs.Report.Digits
/-!
When a JSON text is too much to be read: by a whole number that is too long, or by its nesting.

* `digits_of_read`: only where more than `Decimal.maxDigits` digits stand in a row, a number is;
* `read_ones`: a text of more than so many digits is one such number;
* `Reader.value_brackets`: more brackets than containers may nest.
-/

namespace Findings.Json

namespace Reader

variable {α β : Type}

/-- If the length of a number is at fault, it has more than `Decimal.maxDigits` digits. -/
def Counted (x : Except Fault α) : Prop :=
  ∀ f o, x = .error f → f.cause = .oversize o → Decimal.maxDigits < o.digits

theorem counted_ok (a : α) : Counted (.ok a) :=
  nofun

/-- Any other fault says nothing of a length. -/
theorem counted_error {cause : Cause} (rest : List Char) (h : ∀ o, cause ≠ .oversize o) :
    Counted (.error ⟨cause, rest⟩ : Except Fault α) := by
  intro f o hf ho
  rw [← Except.error.inj hf] at ho
  exact absurd ho (h o)

/-- A fault that is passed on. -/
theorem counted_of_error {x : Except Fault α} (h : Counted x) {e : Fault} (he : x = .error e) :
    Counted (.error e : Except Fault β) := by
  intro f o hf ho
  rw [← Except.error.inj hf] at ho
  exact h e o he ho

theorem counted_map (f : α → β) {x : Except Fault α} (h : Counted x) : Counted (x.map f) := by
  cases x with
  | ok a => exact counted_ok (f a)
  | error e => exact counted_of_error h rfl

theorem counted_unicodeEscape (fromU : List Char) : Counted (unicodeEscape fromU) := by
  unfold unicodeEscape
  repeat' split
  all_goals first | exact counted_ok _ | exact counted_error _ nofun

theorem counted_inside (fromQuote : List Char) (spent : Nat) (acc cs : List Char) :
    Counted (inside fromQuote spent acc cs) := by
  fun_induction inside fromQuote spent acc cs with
  | case2 => assumption
  | case3 => exact counted_ok _
  | case5 => assumption
  | case6 _ _ _ he => exact counted_of_error (counted_unicodeEscape _) he
  | case7 => assumption
  | case10 => assumption
  | _ => exact counted_error _ nofun

theorem counted_number (start : List Char) (negative : Bool) (cs : List Char) :
    Counted (number start negative cs) := by
  unfold number
  split
  · exact counted_error _ nofun
  · dsimp only
    split
    · split
      · exact counted_ok _
      · next o ho =>
        intro f p hf hp
        rw [← Except.error.inj hf] at hp
        rw [← Cause.oversize.inj hp]
        exact Report.measured_natural _ o ho
    · exact counted_ok _

theorem counted_scalar (cs : List Char) : Counted (scalar cs) := by
  unfold scalar
  split
  · exact counted_map _ (counted_inside _ 0 [] _)
  · split
    · exact counted_ok _
    · split <;> exact counted_number _ _ _

section Containers

variable {read : ValueReader}

theorem counted_items (h : ∀ cs, Counted (read cs)) (fuel : Nat) (acc : List Value)
    (cs : List Char) : Counted (items read fuel acc cs) := by
  fun_induction items read fuel acc cs with
  | case2 _ _ cs e he => exact counted_of_error (h cs) he
  | case3 => exact counted_ok _
  | case4 => assumption
  | _ => exact counted_error _ nofun

theorem counted_fields (h : ∀ cs, Counted (read cs)) (fuel : Nat) (acc : List (String × Value))
    (cs : List Char) : Counted (fields read fuel acc cs) := by
  induction fuel generalizing acc cs with
  | zero => exact counted_error _ nofun
  | succ fuel ih =>
    unfold fields
    split
    · split
      · next e he => exact counted_of_error (counted_inside _ 0 [] _) he
      · split
        · split
          · next e he => exact counted_of_error (h _) he
          · split
            · exact counted_ok _
            · exact ih _ _
            · exact counted_error _ nofun
        · exact counted_error _ nofun
    · exact counted_error _ nofun

end Containers

theorem counted_value (size depth : Nat) (cs : List Char) : Counted (value size depth cs) := by
  induction depth generalizing cs with
  | zero =>
    unfold value
    split
    · exact counted_error _ nofun
    · exact counted_error _ nofun
    · exact counted_scalar cs
  | succ depth ih =>
    unfold value
    split
    · split
      · exact counted_ok _
      · exact counted_items ih size [] _
    · split
      · exact counted_ok _
      · exact counted_fields ih size [] _
    · exact counted_scalar cs

theorem counted_text (depth : Nat) (cs : List Char) : Counted (text depth cs) := by
  unfold text
  split
  · exact counted_error _ nofun
  · split
    · next e he => exact counted_of_error (counted_value _ _ _) he
    · split
      · exact counted_ok _
      · exact counted_error _ nofun

end Reader

theorem digits_of_read (depth : Nat) (s : String) (e : ReadError) (o : Decimal.Oversize)
    (h : read depth s = .error e) (ho : e.cause = .oversize o) : Decimal.maxDigits < o.digits := by
  unfold read at h
  dsimp only at h
  split at h
  · cases h
  · next f hf =>
    rw [← Except.error.inj h] at ho
    exact Reader.counted_text depth _ f o hf ho

theorem natural_ones (n : Nat) (h : Decimal.maxDigits ≤ n) :
    Decimal.natural ('1' :: List.replicate n '1') = .error ⟨n + 1⟩ := by
  simp [Decimal.natural, Nat.not_le.mpr (Nat.lt_succ_of_le h)]

theorem Reader.text_of_error {depth : Nat} {cs : List Char} {e : Reader.Fault}
    (unmarked : cs.head? ≠ some '\uFEFF')
    (h : Reader.value cs.length depth (Reader.skipSpace cs) = .error e) :
    Reader.text depth cs = .error e := by
  rw [Reader.text]
  · rw [h]
  · rintro rest rfl
    exact unmarked rfl

/-- A text of ones, more of them than can be read. -/
theorem read_ones (depth n : Nat) (h : Decimal.maxDigits ≤ n) :
    read depth (String.ofList ('1' :: List.replicate n '1')) = .error ⟨.oversize ⟨n + 1⟩, 0⟩ := by
  have digits : (List.replicate n '1').takeWhile Char.isDigit = List.replicate n '1' := by
    rw [List.takeWhile_replicate]
    rfl
  have whole : Reader.whole ('1' :: List.replicate n '1') =
      some ('1' :: List.replicate n '1', []) := by
    have first : Char.isDigit '1' = true := rfl
    have behind : (List.replicate n '1').dropWhile Char.isDigit = [] := by
      rw [List.dropWhile_replicate]
      rfl
    rw [Reader.whole]
    · simp [first, digits, behind]
    · nofun
  have number : Reader.number ('1' :: List.replicate n '1') false ('1' :: List.replicate n '1') =
      .error ⟨.oversize ⟨n + 1⟩, '1' :: List.replicate n '1'⟩ := by
    rw [Reader.number, whole]
    simp [Reader.fraction, Reader.exponent, natural_ones n h]
  have text : Reader.text depth ('1' :: List.replicate n '1') =
      .error ⟨.oversize ⟨n + 1⟩, '1' :: List.replicate n '1'⟩ := by
    have space : Reader.skipSpace ('1' :: List.replicate n '1') = '1' :: List.replicate n '1' := rfl
    have unmarked : ('1' :: List.replicate n '1').head? ≠ some '\uFEFF' := by simp
    have value (size : Nat) : Reader.value size depth ('1' :: List.replicate n '1') =
        Reader.scalar ('1' :: List.replicate n '1') := by cases depth <;> rfl
    have scalar : Reader.scalar ('1' :: List.replicate n '1') =
        Reader.number ('1' :: List.replicate n '1') false ('1' :: List.replicate n '1') := rfl
    exact Reader.text_of_error unmarked (by rw [space, value, scalar, number])
  rw [read, String.toList_ofList, text]
  simp

/-! ## Nesting -/

namespace Reader

theorem skipSpace_cons {c : Char} (h : isSpace c = false) (cs : List Char) :
    skipSpace (c :: cs) = c :: cs := by
  rw [skipSpace, List.dropWhile_cons_of_neg (by simp [h])]

/-- One bracket more than containers may nest is too many. -/
theorem value_brackets (size depth : Nat) (cs : List Char) :
    value (size + 1) depth (List.replicate (depth + 1) '[' ++ cs) =
      .error ⟨.nesting, '[' :: cs⟩ := by
  induction depth with
  | zero => rfl
  | succ depth ih =>
    have next :
        List.replicate (depth + 1) '[' ++ cs = '[' :: (List.replicate depth '[' ++ cs) := rfl
    have inner (rest : List Char) : value (size + 1) (depth + 1) ('[' :: '[' :: rest) =
        items (value (size + 1) depth) (size + 1) [] ('[' :: rest) := rfl
    rw [next] at ih
    rw [List.replicate_succ, List.cons_append, next, inner, items, ih]

section Fields

variable {read : ValueReader} {cs rest : List Char} {x : Value} {e : Fault} (key : String)
  (v : List Char)

theorem fields_of_error (name : string ('"' :: cs) = .ok (key, ':' :: v))
    (value : read (skipSpace v) = .error e) (fuel : Nat) (acc : List (String × Value)) :
    fields read (fuel + 1) acc ('"' :: cs) = .error e := by
  simp only [fields, name, skipSpace_cons (c := ':') rfl, value]

theorem fields_of_comma (name : string ('"' :: cs) = .ok (key, ':' :: v))
    (value : read (skipSpace v) = .ok (x, ',' :: rest)) (fuel : Nat)
    (acc : List (String × Value)) :
    fields read (fuel + 1) acc ('"' :: cs) =
      fields read fuel (Assoc.put key x acc) (skipSpace rest) := by
  simp only [fields, name, skipSpace_cons (c := ':') rfl, value, skipSpace_cons (c := ',') rfl]

end Fields

end Reader

end Findings.Json
