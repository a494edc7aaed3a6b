/-!
Maps as lists of pairs in the order in which their keys were first written.

* `get?_put`: a written key has its last value, all other keys keep theirs;
* `keys_put`: writing a present key keeps all positions, a new key goes to the end;
* `get?_erase`, `keys_erase`: a removed key is gone, and nothing else.
-/

namespace Findings.Assoc

variable {κ α : Type} [DecidableEq κ]

def get? (k : κ) : List (κ × α) → Option α
  | [] => none
  | (j, a) :: rest => if j = k then some a else get? k rest

def put (k : κ) (a : α) : List (κ × α) → List (κ × α)
  | [] => [(k, a)]
  | (j, b) :: rest => if j = k then (k, a) :: rest else (j, b) :: put k a rest

def erase (k : κ) : List (κ × α) → List (κ × α)
  | [] => []
  | (j, b) :: rest => if j = k then rest else (j, b) :: erase k rest

def keys (m : List (κ × α)) : List κ := m.map Prod.fst

theorem get?_put (k j : κ) (a : α) (m : List (κ × α)) :
    get? j (put k a m) = if k = j then some a else get? j m := by
  induction m with
  | nil => simp [put, get?]
  | cons p m ih =>
    obtain ⟨i, b⟩ := p
    by_cases h : i = k
    · subst h
      by_cases hj : i = j <;> simp [put, get?, hj]
    · by_cases hj : i = j
      · subst hj
        simp [put, get?, h, Ne.symm h]
      · simp [put, get?, h, hj, ih]

theorem get?_eq_none_iff (k : κ) (m : List (κ × α)) : get? k m = none ↔ k ∉ keys m := by
  induction m with
  | nil => simp [get?, keys]
  | cons p m ih =>
    obtain ⟨i, b⟩ := p
    by_cases h : i = k
    · simp [get?, keys, h]
    · simpa [get?, keys, h, Ne.symm h] using ih

theorem keys_put (k : κ) (a : α) (m : List (κ × α)) :
    keys (put k a m) = if k ∈ keys m then keys m else keys m ++ [k] := by
  induction m with
  | nil => simp [put, keys]
  | cons p m ih =>
    obtain ⟨i, b⟩ := p
    by_cases h : i = k
    · simp [put, keys, h]
    · have hk : k ≠ i := Ne.symm h
      simp only [keys] at ih
      by_cases hm : k ∈ m.map Prod.fst <;> simp_all [put, keys]

theorem keys_erase (k : κ) (m : List (κ × α)) : keys (erase k m) = (keys m).erase k := by
  induction m with
  | nil => simp [erase, keys]
  | cons p m ih =>
    obtain ⟨i, b⟩ := p
    by_cases h : i = k
    · simp [erase, keys, h]
    · simp only [keys] at ih
      simp [erase, keys, h, ih]

theorem get?_erase (k j : κ) (m : List (κ × α)) (h : (keys m).Nodup) :
    get? j (erase k m) = if k = j then none else get? j m := by
  induction m with
  | nil => simp [erase, get?]
  | cons p m ih =>
    obtain ⟨i, b⟩ := p
    simp only [keys, List.map_cons, List.nodup_cons] at h
    have ih := ih h.2
    by_cases hi : i = k
    · subst hi
      by_cases hj : i = j
      · subst hj
        simpa [erase, get?_eq_none_iff, keys] using h.1
      · simp [erase, get?, hj]
    · by_cases hj : i = j
      · subst hj
        simp [erase, get?, hi, Ne.symm hi]
      · simp [erase, get?, hi, hj, ih]

end Findings.Assoc
