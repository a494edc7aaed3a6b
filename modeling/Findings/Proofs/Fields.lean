import Findings.Field
import Findings.Proofs.Text.Numerals
import Mathlib.Data.Rat.Cast.Order
/-!
Which fields of a record can be read, by the value that stands in them.

* `Binary64.toInt?_eq_some_iff`: a float is read as a number just if that number is its value;
* `Field.text_eq_ok_iff`, `Field.number_eq_ok_iff`: what a field is read as;
* `Field.text_iff`, `Field.number_iff`: a field can be read unless its value is of the wrong sort;
* `Field.text_eq_empty_iff`: only a missing, a null and an empty field read as an empty text.
-/

namespace Findings

/-! ## Floats -/

namespace Decimal

/-- The value of a finite number. -/
def Binary64.value? : Binary64 → Option ℚ
  | .finite negative m e => some ((if negative then -1 else 1) * (m * 2 ^ e))
  | _ => none

/-- A quotient by a power of two is whole just if nothing is left over. -/
theorem quotient_eq_iff (m k : Nat) (n : Int) :
    (m : ℚ) * 2 ^ (-(k : Int)) = n ↔ m % 2 ^ k = 0 ∧ ((m / 2 ^ k : Nat) : Int) = n := by
  have power : (2 : ℚ) ^ k ≠ 0 := pow_ne_zero k two_ne_zero
  rw [zpow_neg, zpow_natCast, ← div_eq_mul_inv, div_eq_iff power]
  constructor
  · intro h
    have whole : (m : Int) = n * (2 ^ k : Nat) := by exact_mod_cast h
    have divides : ((2 ^ k : Nat) : Int) ∣ m := ⟨n, whole.trans (mul_comm _ _)⟩
    refine ⟨Nat.mod_eq_zero_of_dvd (Int.natCast_dvd_natCast.mp divides), ?_⟩
    rw [Int.natCast_div, whole]
    exact Int.mul_ediv_cancel n (by exact_mod_cast pow_ne_zero k two_ne_zero)
  · rintro ⟨rest, rfl⟩
    have whole : m / 2 ^ k * 2 ^ k = m := Nat.div_mul_cancel (Nat.dvd_of_mod_eq_zero rest)
    exact_mod_cast whole.symm

theorem Binary64.toInt?_eq_some_iff (x : Binary64) (n : Int) :
    x.toInt? = some n ↔ x.value? = some (n : ℚ) := by
  cases x with
  | nan => simp [toInt?, value?]
  | infinite => simp [toInt?, value?]
  | finite negative m e =>
    -- The sign goes over to the other side, where it stands before a whole number.
    let size : Int := if negative then -n else n
    have value : (finite negative m e).value? = some (n : ℚ) ↔ (m : ℚ) * 2 ^ e = size := by
      cases negative <;> simp [value?, size, neg_eq_iff_eq_neg]
    have whole (k : Nat) : (if negative then -(k : Int) else k) = n ↔ (k : Int) = size := by
      cases negative <;> simp [size, neg_eq_iff_eq_neg]
    rw [value]
    rcases le_or_gt 0 e with above | below
    · obtain ⟨k, rfl⟩ := Int.eq_ofNat_of_zero_le above
      simp only [toInt?, above, if_true, Option.some.injEq, whole, Int.toNat_natCast, Nat.pow_eq]
      rw [zpow_natCast]
      exact_mod_cast Iff.rfl
    · obtain ⟨k, rfl⟩ : ∃ k : Nat, e = -k := ⟨(-e).toNat, by omega⟩
      simp only [toInt?, not_le.mpr below, if_false, neg_neg, Int.toNat_natCast, Nat.pow_eq,
        quotient_eq_iff]
      by_cases rest : m % 2 ^ k = 0
      · simp only [rest, if_true, Option.some.injEq, whole, true_and]
      · simp [rest]

/-! ## Numbers as texts -/

theorem Layout.magnitude_ne_nil (l : Layout) (m : Nat) (e : Int) : l.magnitude m e ≠ [] := by
  have positional (digits : List Char) (place : Int) : positional digits place ≠ [] := by
    unfold Layout.positional
    split <;> simp
  unfold magnitude
  dsimp only
  split
  · exact List.cons_ne_nil _ _
  · split
    · exact positional _ _
    · simp [exponential]

theorem plain_text_ne_empty (x : Binary64) : plain.text x ≠ "" := by
  cases x with
  | nan => decide
  | infinite negative => cases negative <;> decide
  | finite negative m e =>
    have digits := plain.magnitude_ne_nil m e
    intro h
    have none := congrArg String.toList h
    cases negative <;> simp [Layout.text, digits] at none

theorem repr_ne_empty (n : Int) : n.repr ≠ "" := by
  cases n with
  | ofNat n => exact fun h => Nat.repr_ne_empty h
  | negSucc n => simp [Int.repr]

end Decimal

namespace Field

open Json (Value)

/-! ## Readable fields -/

/-- Values that are never read as a text. -/
inductive Textless : Value → Prop where
  | bool (b : Bool) : Textless (.bool b)
  | array (items : List Value) : Textless (.array items)
  | object (fields : List (String × Value)) : Textless (.object fields)

/-- Values that are never read as a number: among the floats those that have a fraction or are not
finite, and among the texts those that are no numerals. -/
inductive Numberless : Value → Prop where
  | bool (b : Bool) : Numberless (.bool b)
  | array (items : List Value) : Numberless (.array items)
  | object (fields : List (String × Value)) : Numberless (.object fields)
  | real {x : Decimal.Binary64} (broken : ∀ n : Int, x.value? ≠ some (n : ℚ)) :
      Numberless (.real x)
  | text {s : String} (other : ∀ n, ¬Text.Numeral.Denotes s n) : Numberless (.text s)

theorem asText?_eq_none_iff (v : Value) : asText? v = none ↔ v = .null ∨ Textless v := by
  constructor
  · intro h
    cases v with
    | null => exact .inl rfl
    | bool b => exact .inr (.bool b)
    | array items => exact .inr (.array items)
    | object fields => exact .inr (.object fields)
    | int | real | text => cases h
  · rintro (rfl | h)
    · rfl
    · cases h <;> rfl

theorem asNumber?_eq_none_iff (v : Value) : asNumber? v = none ↔ v = .null ∨ Numberless v := by
  constructor
  · intro h
    cases v with
    | null => exact .inl rfl
    | bool b => exact .inr (.bool b)
    | array items => exact .inr (.array items)
    | object fields => exact .inr (.object fields)
    | int => cases h
    | real x =>
      refine .inr (.real fun n value => ?_)
      rw [asNumber?, (x.toInt?_eq_some_iff n).mpr value] at h
      cases h
    | text s =>
      refine .inr (.text fun n denotes => ?_)
      rw [asNumber?, (Text.Numeral.integer?_eq_some_iff s n).mpr denotes] at h
      cases h
  · rintro (rfl | h)
    · rfl
    · cases h with
      | bool | array | object => rfl
      | real broken =>
        exact Option.eq_none_iff_forall_ne_some.mpr fun n read =>
          broken n ((Decimal.Binary64.toInt?_eq_some_iff _ n).mp read)
      | text other =>
        exact Option.eq_none_iff_forall_ne_some.mpr fun n read =>
          other n ((Text.Numeral.integer?_eq_some_iff _ n).mp read)

/-- A missing field and null give the default, and other values what they stand for. -/
theorem text_eq_ok_iff (node : Value) (key default s : String) :
    text node key default = .ok s ↔
      node.field key = .null ∧ s = default ∨ asText? (node.field key) = some s := by
  rw [text]
  cases node.field key <;> simp [Value.isNull, asText?, eq_comm]

theorem number_eq_ok_iff (node : Value) (key : String) (default n : Int) :
    number node key default = .ok n ↔
      node.field key = .null ∧ n = default ∨ asNumber? (node.field key) = some n := by
  rw [number]
  cases node.field key with
  | null => simp [Value.isNull, asNumber?, eq_comm]
  | bool | int | array | object => simp [Value.isNull, asNumber?]
  | real x => cases read : x.toInt? <;> simp [Value.isNull, asNumber?, read]
  | text s => cases read : Text.Numeral.integer? s <;> simp [Value.isNull, asNumber?, read]

/-- With a default at hand, only values of the wrong sort have no reading. -/
theorem exists_reading_iff {α : Type} {v : Value} {stands : Option α} {Wrong : Value → Prop}
    (default : α) (none_iff : stands = none ↔ v = .null ∨ Wrong v) (null : ¬Wrong .null) :
    (∃ a, v = .null ∧ a = default ∨ stands = some a) ↔ ¬Wrong v := by
  constructor
  · rintro ⟨a, ⟨rfl, -⟩ | some⟩ wrong
    · exact null wrong
    · rw [none_iff.mpr (.inr wrong)] at some
      cases some
  · intro right
    by_cases empty : v = .null
    · exact ⟨default, .inl ⟨empty, rfl⟩⟩
    · have read : stands ≠ none := fun h => (none_iff.mp h).elim empty right
      exact (Option.ne_none_iff_exists'.mp read).imp fun _ => .inr

theorem text_iff (node : Value) (key default : String) :
    (∃ s, text node key default = .ok s) ↔ ¬Textless (node.field key) := by
  simp only [text_eq_ok_iff]
  exact exists_reading_iff default (asText?_eq_none_iff _) (by rintro ⟨⟩)

theorem number_iff (node : Value) (key : String) (default : Int) :
    (∃ n, number node key default = .ok n) ↔ ¬Numberless (node.field key) := by
  simp only [number_eq_ok_iff]
  exact exists_reading_iff default (asNumber?_eq_none_iff _) (by rintro ⟨⟩)

theorem text_eq_empty_iff (node : Value) (key : String) :
    text node key "" = .ok "" ↔ node.field key = .null ∨ node.field key = .text "" := by
  rw [text_eq_ok_iff]
  cases node.field key with
  | null | bool | array | object => simp [asText?]
  | text s => simp [asText?]
  | int n => simp [asText?, Decimal.repr_ne_empty]
  | real x => simp [asText?, Decimal.plain_text_ne_empty]

end Field

end Findings
