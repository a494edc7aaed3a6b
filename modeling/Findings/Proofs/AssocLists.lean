import Findings.Assoc
/-!
Maps whose values are lists, none of them empty: writing an empty list takes its key away.

* `get?_eq_some_iff`: where no key stands twice, what is found is what is there;
* `get?_store`: the written list stands under its key, the other keys keep theirs;
* `keys_store`: a new key goes to the end, a present one keeps its place unless its list is empty;
* `flatMap_perm`, `flatMap_store`: what a map holds, apart from one key, is not touched by writing.
-/

namespace Findings.Assoc

variable {κ α β γ : Type} [DecidableEq κ]

theorem mem_keys_iff (k : κ) (m : List (κ × α)) : k ∈ keys m ↔ ∃ a, get? k m = some a := by
  rw [← Option.ne_none_iff_exists', ne_eq, get?_eq_none_iff, Decidable.not_not]

/-- Where no key stands twice, looking up finds what is there. -/
theorem get?_eq_some_iff (k : κ) (a : α) (m : List (κ × α)) (h : (keys m).Nodup) :
    get? k m = some a ↔ (k, a) ∈ m := by
  induction m with
  | nil => simp [get?]
  | cons p m ih =>
    obtain ⟨j, b⟩ := p
    obtain ⟨hj, hn⟩ := List.nodup_cons.mp h
    by_cases hk : j = k
    · subst hk
      have behind : (j, a) ∉ m := fun hm => hj (List.mem_map.mpr ⟨(j, a), hm, rfl⟩)
      simp [get?, behind, eq_comm]
    · simp [get?, hk, Ne.symm hk, ih hn]

theorem isEmpty_put (k : κ) (a : α) (m : List (κ × α)) : (put k a m).isEmpty = false := by
  cases m with
  | nil => rfl
  | cons p m =>
    rw [put]
    split <;> rfl

theorem put_of_get? (k : κ) (a : α) (m : List (κ × α)) (h : get? k m = some a) :
    put k a m = m := by
  induction m with
  | nil => simp [get?] at h
  | cons p m ih =>
    obtain ⟨j, b⟩ := p
    by_cases hj : j = k
    · subst hj
      simpa [get?, put, eq_comm] using h
    · simp only [get?, hj, ↓reduceIte] at h
      simp [put, hj, ih h]

theorem erase_of_notMem (k : κ) (m : List (κ × α)) (h : k ∉ keys m) : erase k m = m := by
  induction m with
  | nil => rfl
  | cons p m ih =>
    obtain ⟨j, b⟩ := p
    simp only [keys, List.map_cons, List.mem_cons, not_or] at h
    simp [erase, Ne.symm h.1, ih h.2]

theorem perm_cons_erase (k : κ) (a : α) (m : List (κ × α)) (h : get? k m = some a) :
    m.Perm ((k, a) :: erase k m) := by
  induction m with
  | nil => simp [get?] at h
  | cons p m ih =>
    obtain ⟨j, b⟩ := p
    by_cases hj : j = k
    · subst hj
      simp only [get?, ↓reduceIte, Option.some.injEq] at h
      simp [erase, h]
    · simp only [get?, hj, ↓reduceIte] at h
      simp only [erase, hj, ↓reduceIte]
      exact ((ih h).cons (j, b)).trans (.swap (k, a) (j, b) _)

theorem put_perm (k : κ) (a : α) (m : List (κ × α)) :
    (put k a m).Perm ((k, a) :: erase k m) := by
  induction m with
  | nil => simp [put, erase]
  | cons p m ih =>
    obtain ⟨j, b⟩ := p
    by_cases hj : j = k
    · simp [put, erase, hj]
    · simp only [put, erase, hj, ↓reduceIte]
      exact (ih.cons (j, b)).trans (.swap (k, a) (j, b) _)

/-- A map whose keys differ, read key by key. -/
theorem flatMap_keys (f : κ → Option α → List β) (m : List (κ × α)) (h : (keys m).Nodup) :
    (m.flatMap fun p => f p.1 (some p.2)) = (keys m).flatMap fun k => f k (get? k m) := by
  induction m with
  | nil => rfl
  | cons p m ih =>
    obtain ⟨j, b⟩ := p
    obtain ⟨hj, hn⟩ := List.nodup_cons.mp h
    have rest : ∀ k ∈ keys m, get? k ((j, b) :: m) = get? k m := by
      intro k hk
      have : j ≠ k := fun e => hj (e ▸ hk)
      simp [get?, this]
    change f j (some b) ++ m.flatMap _ = f j (get? j ((j, b) :: m)) ++ (keys m).flatMap _
    congr 1
    · simp [get?]
    · rw [ih hn]
      simp only [List.flatMap]
      congr 1
      apply List.map_congr_left
      intro k hk
      rw [rest k hk]

/-! ## Writing lists -/

/-- Writes a list under a key; an empty list takes the key away. -/
def store (k : κ) (l : List β) (m : List (κ × List β)) : List (κ × List β) :=
  if l.isEmpty then erase k m else put k l m

/-- No key stands twice, and none holds an empty list. -/
structure Filled (m : List (κ × List β)) : Prop where
  nodup : (keys m).Nodup
  ne_nil : ∀ k ∈ keys m, (get? k m).getD [] ≠ []

theorem Filled.nil : Filled ([] : List (κ × List β)) :=
  ⟨List.nodup_nil, by simp [keys]⟩

theorem Filled.mem_iff {m : List (κ × List β)} (h : Filled m) (k : κ) :
    k ∈ keys m ↔ (get? k m).getD [] ≠ [] := by
  refine ⟨h.ne_nil k, fun hk => ?_⟩
  cases hm : get? k m with
  | none => simp [hm] at hk
  | some l => exact (mem_keys_iff k m).mpr ⟨l, hm⟩

theorem get?_store (k j : κ) (l : List β) (m : List (κ × List β)) (h : Filled m) :
    (get? j (store k l m)).getD [] = if k = j then l else (get? j m).getD [] := by
  unfold store
  split
  · next hl =>
    rw [get?_erase k j m h.nodup]
    by_cases hj : k = j <;> simp [hj, List.isEmpty_iff.mp hl]
  · rw [get?_put]
    by_cases hj : k = j <;> simp [hj]

theorem keys_store (k : κ) (l : List β) (m : List (κ × List β)) :
    keys (store k l m) =
      if l = [] then (keys m).erase k else if k ∈ keys m then keys m else keys m ++ [k] := by
  cases l with
  | nil => simp [store, keys_erase]
  | cons b l => simp [store, keys_put]

theorem Filled.store {m : List (κ × List β)} (h : Filled m) (k : κ) (l : List β) :
    Filled (store k l m) where
  nodup := by
    rw [keys_store]
    split
    · exact h.nodup.erase k
    · split
      · exact h.nodup
      · next hk =>
        rw [List.nodup_append]
        refine ⟨h.nodup, by simp, ?_⟩
        intro a ha b hb
        rw [List.mem_singleton] at hb
        exact fun e => hk (hb ▸ e ▸ ha)
  ne_nil := by
    intro j hj
    rw [get?_store k j l m h]
    rw [keys_store] at hj
    by_cases hl : l = []
    · rw [if_pos hl, h.nodup.mem_erase_iff] at hj
      rw [if_neg (Ne.symm hj.1)]
      exact h.ne_nil j hj.2
    · split
      · exact hl
      · next hkj =>
        refine h.ne_nil j ?_
        rw [if_neg hl] at hj
        split at hj
        · exact hj
        · simpa [Ne.symm hkj] using hj

/-- Writing what is there changes nothing. -/
theorem store_self (k : κ) (m : List (κ × List β)) (h : Filled m) :
    store k ((get? k m).getD []) m = m := by
  cases hk : get? k m with
  | none =>
    have : k ∉ keys m := by rwa [← get?_eq_none_iff]
    simpa [store] using erase_of_notMem k m this
  | some l =>
    have : l ≠ [] := by simpa [hk] using h.ne_nil k ((mem_keys_iff k m).mpr ⟨l, hk⟩)
    simpa [store, this] using put_of_get? k l m hk

/-! ## What a map holds -/

variable (g : List β → List γ) (hg : g [] = [])

include hg

theorem flatMap_perm (k : κ) (m : List (κ × List β)) :
    (m.flatMap fun p => g p.2).Perm
      (g ((get? k m).getD []) ++ (erase k m).flatMap fun p => g p.2) := by
  cases hk : get? k m with
  | none =>
    have : k ∉ keys m := by rwa [← get?_eq_none_iff]
    simp [erase_of_notMem k m this, hg]
  | some l => simpa using (perm_cons_erase k l m hk).flatMap_right fun p => g p.2

theorem flatMap_store (k : κ) (l : List β) (m : List (κ × List β)) :
    ((store k l m).flatMap fun p => g p.2).Perm (g l ++ (erase k m).flatMap fun p => g p.2) := by
  cases l with
  | nil => simp [store, hg]
  | cons b l => simpa [store] using (put_perm k (b :: l) m).flatMap_right fun p => g p.2

end Findings.Assoc
