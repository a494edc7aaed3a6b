import Mathlib.Data.List.Perm.Subperm
/-!
Lists of items that have a key, and what comes of them when each item takes one piece of a stock
that its key has.

* `map_fst_ranked`: ranking keeps the items;
* `filter_leftover`: of one key, the items behind the limit are left over, in their order;
* `leftover_eq_nil_iff`: nothing is left over when no key has more items than its limit;
* `paired_cons`, `leftover_cons`: the first item takes the first piece of its key's stock;
* `filter_paired`: the items of one key stand side by side with its stock;
* `paired_perm`, `leftover_perm`: the order across keys does not matter;
* `length_le_of_countP_le`: what has no more items of any key has no more items;
* `flatMap_of_sublist`: keys without items may be left out of a collection.
-/

namespace Findings.Keyed

variable {α β κ : Type} [DecidableEq κ]

/-- Each item with its rank: the number of items of its key in front of it. -/
def ranked (key : α → κ) (xs : List α) : List (α × Nat) :=
  xs.zipIdx.map fun (x, i) => (x, (xs.take i).countP fun y => key y = key x)

/-- The items whose rank is at least the limit of their key. -/
def leftover (key : α → κ) (limit : κ → Nat) (xs : List α) : List α :=
  ((ranked key xs).filter fun (x, j) => limit (key x) ≤ j).map Prod.fst

/-- The items with the piece that stands at their rank in the stock of their key, if one does. -/
def paired (key : α → κ) (stock : κ → List β) (xs : List α) : List (α × β) :=
  (ranked key xs).filterMap fun (x, j) => (stock (key x))[j]?.map fun piece => (x, piece)

/-- Ranks behind an item of key `k`. -/
def behind (key : α → κ) (k : κ) : α × Nat → α × Nat
  | (y, j) => (y, if k = key y then j + 1 else j)

@[simp] theorem ranked_nil (key : α → κ) : ranked key [] = [] := rfl

theorem ranked_cons (key : α → κ) (x : α) (xs : List α) :
    ranked key (x :: xs) = (x, 0) :: (ranked key xs).map (behind key (key x)) := by
  simp only [ranked, List.zipIdx_cons, List.map_cons, List.take_zero, List.countP_nil,
    Nat.zero_add, List.zipIdx_succ, List.map_map]
  congr 1
  apply List.map_congr_left
  rintro ⟨y, i⟩ _
  by_cases h : key x = key y <;> simp [behind, h]

theorem map_fst_ranked (key : α → κ) (xs : List α) : (ranked key xs).map Prod.fst = xs := by
  induction xs with
  | nil => rfl
  | cons x xs ih =>
    rw [ranked_cons, List.map_cons, List.map_map]
    exact congrArg (x :: ·) ih

/-! ## What is left over -/

@[simp] theorem leftover_nil (key : α → κ) (limit : κ → Nat) : leftover key limit [] = [] := rfl

/-- Without a limit for any key, everything is left over. -/
theorem leftover_zero (key : α → κ) (xs : List α) : leftover key (fun _ => 0) xs = xs := by
  conv_rhs => rw [← map_fst_ranked key xs]
  exact congrArg (List.map Prod.fst) (List.filter_eq_self.mpr fun _ _ => rfl)

theorem leftover_subset (key : α → κ) (limit : κ → Nat) (xs : List α) :
    leftover key limit xs ⊆ xs := by
  have sub : (leftover key limit xs).Sublist ((ranked key xs).map Prod.fst) :=
    List.filter_sublist.map Prod.fst
  rw [map_fst_ranked] at sub
  exact sub.subset

/-- The first item uses up one unit of the limit of its key. -/
theorem leftover_cons (key : α → κ) (limit : κ → Nat) (x : α) (xs : List α) :
    leftover key limit (x :: xs) =
      (if limit (key x) = 0 then [x] else []) ++
        leftover key (fun k => if key x = k then limit k - 1 else limit k) xs := by
  have tail : (((ranked key xs).map (behind key (key x))).filter
      fun (y, j) => limit (key y) ≤ j).map Prod.fst =
      leftover key (fun k => if key x = k then limit k - 1 else limit k) xs := by
    rw [List.filter_map, List.map_map]
    refine congrArg (List.map Prod.fst) (List.filter_congr ?_)
    rintro ⟨y, j⟩ _
    by_cases h : key x = key y <;> simp [behind, h]
  rw [leftover, ranked_cons, List.filter_cons, ← tail]
  by_cases h : limit (key x) = 0 <;> simp [h]

theorem filter_leftover (key : α → κ) (limit : κ → Nat) (k : κ) (xs : List α) :
    (leftover key limit xs).filter (fun x => key x = k) =
      (xs.filter fun x => key x = k).drop (limit k) := by
  induction xs generalizing limit with
  | nil => simp
  | cons x xs ih =>
    rw [leftover_cons, List.filter_append, ih, List.filter_cons]
    by_cases hx : key x = k
    · subst hx
      cases limit (key x) <;> simp
    · cases limit (key x) <;> simp [hx]

theorem leftover_eq_nil_iff (key : α → κ) (limit : κ → Nat) (xs : List α) :
    leftover key limit xs = [] ↔ ∀ k, xs.countP (fun x => key x = k) ≤ limit k := by
  have bound (k : κ) : (leftover key limit xs).filter (fun x => key x = k) = [] ↔
      xs.countP (fun x => key x = k) ≤ limit k := by
    rw [filter_leftover, List.drop_eq_nil_iff, List.countP_eq_length_filter]
  constructor
  · intro h k
    rw [← bound, h, List.filter_nil]
  · intro h
    rw [List.eq_nil_iff_forall_not_mem]
    intro x hx
    have := (bound (key x)).mpr (h (key x))
    rw [List.filter_eq_nil_iff] at this
    simpa using this x hx

/-! ## Pairs -/

@[simp] theorem paired_nil (key : α → κ) (stock : κ → List β) : paired key stock [] = [] := rfl

/-- The first item takes the first piece of its key's stock. -/
theorem paired_cons (key : α → κ) (stock : κ → List β) (x : α) (xs : List α) :
    paired key stock (x :: xs) =
      ((stock (key x)).head?.map fun piece => (x, piece)).toList ++
        paired key (fun k => if key x = k then (stock k).tail else stock k) xs := by
  have tail : ((ranked key xs).map (behind key (key x))).filterMap
      (fun (y, j) => (stock (key y))[j]?.map fun piece => (y, piece)) =
      paired key (fun k => if key x = k then (stock k).tail else stock k) xs := by
    rw [List.filterMap_map]
    apply List.filterMap_congr
    rintro ⟨y, j⟩ _
    by_cases h : key x = key y <;> simp [behind, h]
  rw [paired, ranked_cons, List.filterMap_cons, ← tail]
  cases hs : stock (key x) <;> simp [hs]

/-- The items of one key stand side by side with its stock. -/
theorem filter_paired (key : α → κ) (stock : κ → List β) (k : κ) (xs : List α) :
    (paired key stock xs).filter (fun p => key p.1 = k) =
      (xs.filter fun x => key x = k).zip (stock k) := by
  induction xs generalizing stock with
  | nil => simp
  | cons x xs ih =>
    rw [paired_cons, List.filter_append, ih, List.filter_cons]
    by_cases hx : key x = k
    · subst hx
      cases stock (key x) <;> simp
    · cases stock (key x) <;> simp [hx]

theorem mem_stock_of_mem_paired (key : α → κ) (stock : κ → List β) (xs : List α) (p : α × β)
    (h : p ∈ paired key stock xs) : p.2 ∈ stock (key p.1) := by
  have own : p ∈ (paired key stock xs).filter fun q => key q.1 = key p.1 :=
    List.mem_filter.mpr ⟨h, by simp⟩
  rw [filter_paired] at own
  exact (List.of_mem_zip own).2

/-- Pairs and what is left over are all items, each once. -/
theorem paired_append_leftover (key : α → κ) (stock : κ → List β) (xs : List α) :
    ((paired key stock xs).map Prod.fst ++
      leftover key (fun k => (stock k).length) xs).Perm xs := by
  induction xs generalizing stock with
  | nil => simp
  | cons x xs ih =>
    have lengths : (fun k => if key x = k then (stock k).length - 1 else (stock k).length) =
        fun k => (if key x = k then (stock k).tail else stock k).length := by
      funext k
      by_cases h : key x = k <;> simp [h]
    have rest := ih fun k => if key x = k then (stock k).tail else stock k
    rw [paired_cons, leftover_cons, lengths]
    cases hs : stock (key x) with
    | nil =>
      simp only [List.head?_nil, Option.map_none, Option.toList_none, List.nil_append,
        List.length_nil, ↓reduceIte, List.singleton_append]
      exact List.perm_middle.trans (rest.cons x)
    | cons piece pieces => simpa [hs] using rest

/-! ## Key by key -/

/-- The lists have the same items of each key, in the same order. -/
def SameByKey (key : α → κ) (xs ys : List α) : Prop :=
  ∀ k, xs.filter (fun x => key x = k) = ys.filter fun x => key x = k

section SameByKey

variable {key : α → κ} {xs ys : List α}

/-- Such lists differ at most in their order. -/
theorem SameByKey.perm (h : SameByKey key xs ys) : xs.Perm ys := by
  classical
  rw [List.perm_iff_count]
  intro x
  have own := congrArg (List.count x) (h (key x))
  rwa [List.count_filter (by simp), List.count_filter (by simp)] at own

theorem SameByKey.countP_eq (h : SameByKey key xs ys) (k : κ) :
    xs.countP (fun x => key x = k) = ys.countP fun x => key x = k := by
  rw [List.countP_eq_length_filter, List.countP_eq_length_filter, h k]

theorem paired_perm (h : SameByKey key xs ys) (stock : κ → List β) :
    (paired key stock xs).Perm (paired key stock ys) := by
  have pairs : SameByKey (fun p => key p.1) (paired key stock xs) (paired key stock ys) := by
    intro k
    rw [filter_paired, filter_paired, h k]
  exact pairs.perm

theorem leftover_perm (h : SameByKey key xs ys) (limit : κ → Nat) :
    (leftover key limit xs).Perm (leftover key limit ys) := by
  have items : SameByKey key (leftover key limit xs) (leftover key limit ys) := by
    intro k
    rw [filter_leftover, filter_leftover, h k]
  exact items.perm

end SameByKey

/-- What has no more items of any key has no more items. -/
theorem length_le_of_countP_le (f : α → κ) (g : β → κ) (xs : List α) (ys : List β)
    (h : ∀ k, xs.countP (fun x => f x = k) ≤ ys.countP fun y => g y = k) :
    xs.length ≤ ys.length := by
  have sub : (xs.map f).Subperm (ys.map g) := by
    rw [List.subperm_ext_iff]
    intro k _
    have fewer := h k
    simpa [List.count, List.countP_map, Function.comp_def, beq_eq_decide] using fewer
  have length := sub.length_le
  rwa [List.length_map, List.length_map] at length

omit [DecidableEq κ] in
/-- Keys that collect nothing may be left out. -/
theorem flatMap_of_sublist (f : κ → List β) {ks all : List κ} (hs : ks.Sublist all)
    (hn : all.Nodup) (h : ∀ k ∈ all, k ∉ ks → f k = []) : ks.flatMap f = all.flatMap f := by
  induction hs with
  | slnil => rfl
  | @cons ks all k hs ih =>
    obtain ⟨hk, hn⟩ := List.nodup_cons.mp hn
    have none : f k = [] := h k List.mem_cons_self fun hm => hk (hs.subset hm)
    rw [List.flatMap_cons, none, List.nil_append]
    exact ih hn fun j hj => h j (List.mem_cons_of_mem k hj)
  | @cons_cons ks all k hs ih =>
    obtain ⟨hk, hn⟩ := List.nodup_cons.mp hn
    rw [List.flatMap_cons, List.flatMap_cons]
    congr 1
    refine ih hn fun j hj hjs => h j (List.mem_cons_of_mem k hj) ?_
    rw [List.mem_cons, not_or]
    exact ⟨fun e => hk (e ▸ hj), hjs⟩

end Findings.Keyed
