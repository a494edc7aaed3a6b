import Mathlib.Data.List.Forall2
/-!
Computations in steps, each of which may fail: when the whole of one comes to an end, and with what.

* `bind_eq_ok_iff`, `map_eq_ok_iff`, `mapM_eq_ok_iff`: every step comes to an end;
* `map_eq_error_iff`: what is done with a result does not keep a fault from being one;
* `mapError_eq_ok_iff`, `mapError_eq_error_iff`: a fault may be told in other words;
* `mapM_eq_error`: the first step to fail is the last one taken;
* `guard_eq_ok_iff`, `skip_eq_some_iff`: steps that are taken only under a condition.
-/

namespace Findings

variable {ε α β : Type}

theorem bind_eq_ok_iff (x : Except ε α) (f : α → Except ε β) (b : β) :
    x >>= f = .ok b ↔ ∃ a, x = .ok a ∧ f a = .ok b := by
  cases x <;> simp [bind, Except.bind]

theorem map_eq_ok_iff (x : Except ε α) (f : α → β) (b : β) :
    x.map f = .ok b ↔ ∃ a, x = .ok a ∧ f a = b := by
  cases x <;> simp [Except.map]

theorem map_eq_error_iff (x : Except ε α) (f : α → β) (fault : ε) :
    x.map f = .error fault ↔ x = .error fault := by
  cases x <;> simp [Except.map]

theorem mapError_eq_ok_iff {ε' : Type} (x : Except ε α) (f : ε → ε') (a : α) :
    x.mapError f = .ok a ↔ x = .ok a := by
  cases x <;> simp [Except.mapError]

theorem mapError_eq_error_iff {ε' : Type} (x : Except ε α) (f : ε → ε') (fault : ε') :
    x.mapError f = .error fault ↔ ∃ e, x = .error e ∧ f e = fault := by
  cases x <;> simp [Except.mapError]

theorem guard_eq_ok_iff (p : Prop) [Decidable p] (fault : ε) (x : Except ε α) (a : α) :
    (if p then (do throw fault; x) else x) = .ok a ↔ ¬p ∧ x = .ok a := by
  by_cases h : p
  · simp [h, throw, throwThe, MonadExceptOf.throw, bind, Except.bind]
  · simp [h]

theorem skip_eq_some_iff (p : Prop) [Decidable p] (x : Except ε (Option α)) (a : α) :
    (if p then .ok none else x) = .ok (some a) ↔ ¬p ∧ x = .ok (some a) := by
  by_cases h : p <;> simp [h]

theorem mapM_eq_ok_iff (f : α → Except ε β) (xs : List α) (ys : List β) :
    xs.mapM f = .ok ys ↔ List.Forall₂ (fun x y => f x = .ok y) xs ys := by
  induction xs generalizing ys with
  | nil => cases ys <;> simp [pure, Except.pure]
  | cons x xs ih =>
    rw [List.mapM_cons]
    simp only [bind_eq_ok_iff, ih, List.forall₂_cons_left_iff, pure, Except.pure, Except.ok.injEq]
    constructor
    · rintro ⟨y, head, ys, tail, rfl⟩
      exact ⟨y, ys, head, tail, rfl⟩
    · rintro ⟨y, ys, head, tail, rfl⟩
      exact ⟨y, head, ys, tail, rfl⟩

theorem mapM_eq_error {f : α → Except ε β} {before after : List α} {x : α} {fault : ε}
    (done : ∀ y ∈ before, ∃ b, f y = .ok b) (failed : f x = .error fault) :
    (before ++ x :: after).mapM f = .error fault := by
  induction before with
  | nil =>
    rw [List.nil_append, List.mapM_cons, failed]
    rfl
  | cons y before ih =>
    obtain ⟨⟨b, first⟩, others⟩ := List.forall_mem_cons.mp done
    rw [List.cons_append, List.mapM_cons, first, ih others]
    rfl

theorem eq_of_eq_ok {x : Except ε α} {a b : α} (ha : x = .ok a) (hb : x = .ok b) : a = b :=
  Except.ok.inj (ha.symm.trans hb)

/-- Each item of a list of pairs in step has its partner. -/
theorem exists_of_forall₂ {R : α → β → Prop} {xs : List α} {ys : List β}
    (h : List.Forall₂ R xs ys) {x : α} (mem : x ∈ xs) : ∃ y, R x y := by
  induction h with
  | nil => cases mem
  | cons head _ ih =>
    rcases List.mem_cons.mp mem with rfl | mem
    · exact ⟨_, head⟩
    · exact ih mem

/-- Items are in step with others up to the end, or up to the first that has no partner. -/
theorem forall₂_or_first (R : α → β → Prop) (xs : List α) :
    (∃ ys, List.Forall₂ R xs ys) ∨ ∃ before x after, xs = before ++ x :: after ∧
      (∀ y ∈ before, ∃ b, R y b) ∧ ¬∃ b, R x b := by
  induction xs with
  | nil => exact .inl ⟨[], .nil⟩
  | cons x xs ih =>
    by_cases partner : ∃ b, R x b
    · rcases ih with ⟨ys, all⟩ | ⟨before, y, after, rfl, all, none⟩
      · exact .inl (partner.imp' (· :: ys) fun b head => .cons head all)
      · exact .inr ⟨x :: before, y, after, rfl, List.forall_mem_cons.mpr ⟨partner, all⟩, none⟩
    · exact .inr ⟨[], x, xs, rfl, nofun, partner⟩

end Findings
