import Findings.Proofs.Backlog.Register
/-!
A backlog shows what a plain register shows. The order in which a backlog is emptied is the one
thing that its rows and lists decide: checkers, and files of a checker, come in the order of the
insertions since which they are there.

* `coupled_perform`: each operation keeps a backlog and a register together;
* `after_refines`: the main statement, over all histories.
-/

namespace Findings.Backlog

variable {N : String → String} {ops : List Op} {b : Backlog}

/-- The texts `xs` are those of which the register behind `ops` has keys, each once, ordered by the
insertion since which it has some. -/
structure Arrived (N : String → String) (ops : List Op)
    (kind : String → String × String → Bool) (xs : List String) : Prop where
  mem_iff : ∀ x, x ∈ xs ↔ (Register.after N ops).holds (kind x) = true
  inserted : ∀ x ∈ xs, ∃ d, ops[Register.since N (kind x) ops]? = some (.insert d) ∧
    kind x (keyOf N d) = true
  ordered : xs.Pairwise fun x y => Register.since N (kind x) ops < Register.since N (kind y) ops

/-- Texts may be removed, or a new one put behind the others, as the register does. -/
theorem Arrived.snoc {kind : String → String × String → Bool} {xs ys : List String}
    (h : Arrived N ops kind xs) (op : Op)
    (hm : ∀ y, y ∈ ys ↔ (Register.after N (ops ++ [op])).holds (kind y) = true)
    (hy : ys.Sublist xs ∨ ∃ y, y ∉ xs ∧ ys = xs ++ [y]) : Arrived N (ops ++ [op]) kind ys where
  mem_iff := hm
  inserted y hy := Register.insert_at_since N (kind y) (ops ++ [op]) ((hm y).mp hy)
  ordered := by
    have old : ys.Pairwise fun x y =>
        Register.since N (kind x) ops < Register.since N (kind y) ops := by
      rcases hy with hs | ⟨y, hn, rfl⟩
      · exact h.ordered.sublist hs
      · rw [List.pairwise_append]
        refine ⟨h.ordered, List.pairwise_singleton _ _, ?_⟩
        intro x hx z hz
        have absent : (Register.after N ops).holds (kind y) = false := by
          rwa [← Bool.not_eq_true, ← h.mem_iff]
        rw [List.mem_singleton.mp hz, Register.since_of_absent N _ ops absent]
        exact Register.since_lt N _ ops ((h.mem_iff x).mp hx)
    -- What is still there has been there since the same insertion as before.
    refine old.imp_of_mem ?_
    intro x y hx hy lt
    rwa [Register.since_snoc N _ ops op ((hm x).mp hx),
      Register.since_snoc N _ ops op ((hm y).mp hy)]

/-! ## The coupling -/

/-- What ties a backlog to the register that has the same history. -/
structure Coupled (N : String → String) (ops : List Op) (b : Backlog) : Prop where
  wellFormed : b.WellFormed
  stock : ∀ k, b.stock k = (Register.after N ops).under k
  perm : b.toList.Perm ((Register.after N ops).map Prod.snd)
  checkers : Arrived N ops Register.ofChecker (Assoc.keys b.rows)
  files : ∀ checker,
    Arrived N ops (fun path => Register.only (checker, path)) (Assoc.keys (b.row checker))

theorem coupled_empty (N : String → String) : Coupled N [] {} where
  wellFormed := wellFormed_empty
  stock _ := rfl
  perm := .nil
  checkers := ⟨fun _ => ⟨nofun, nofun⟩, nofun, .nil⟩
  files _ := ⟨fun _ => ⟨nofun, nofun⟩, nofun, .nil⟩

/-- Keys of a well-formed backlog are those of a register with the same lists. -/
theorem mem_rows_iff_holds {r : Register} (hb : b.WellFormed) (hs : ∀ k, b.stock k = r.under k)
    (checker : String) :
    checker ∈ Assoc.keys b.rows ↔ r.holds (Register.ofChecker checker) = true := by
  rw [hb.mem_rows_iff, Register.holds_ofChecker_iff]
  simp only [hs]

theorem mem_row_iff_holds {r : Register} (hb : b.WellFormed) (hs : ∀ k, b.stock k = r.under k)
    (checker path : String) :
    path ∈ Assoc.keys (b.row checker) ↔ r.holds (Register.only (checker, path)) = true := by
  rw [Register.holds_only_iff, ← hs]
  exact hb.mem_row_iff (checker, path)

/-- Replacing the list of one key keeps the coupling if the register has the new list. -/
theorem Coupled.withList (h : Coupled N ops b) (op : Op) (k : String × String) (l : List Defect)
    (hs : ∀ j, (Register.after N (ops ++ [op])).under j = if k = j then l else b.stock j)
    (hp : (b.withList k l).toList.Perm ((Register.after N (ops ++ [op])).map Prod.snd)) :
    Coupled N (ops ++ [op]) (b.withList k l) := by
  have wellFormed := h.wellFormed.withList k l
  have stock (j : String × String) :
      (b.withList k l).stock j = (Register.after N (ops ++ [op])).under j := by
    rw [stock_withList h.wellFormed, hs]
  refine ⟨wellFormed, stock, hp, ?_, fun checker => ?_⟩
  · apply h.checkers.snoc op (mem_rows_iff_holds wellFormed stock)
    rw [keys_rows_withList h.wellFormed]
    split
    · exact .inl List.erase_sublist
    · split
      · exact .inl (.refl _)
      · next hk => exact .inr ⟨k.1, hk, rfl⟩
  · apply (h.files checker).snoc op (mem_row_iff_holds wellFormed stock checker)
    rw [keys_withList h.wellFormed]
    split
    · next hc =>
      split
      · exact .inl List.erase_sublist
      · split
        · next he =>
          refine .inr ⟨k.2, ?_, rfl⟩
          rw [← hc, h.wellFormed.mem_row_iff, he]
          exact fun hn => hn rfl
        · exact .inl (.refl _)
    · exact .inl (.refl _)

theorem Coupled.insert (h : Coupled N ops b) (d : Defect) :
    Coupled N (ops ++ [.insert d]) (b.withList (keyOf N d) (b.stock (keyOf N d) ++ [d])) := by
  apply h.withList
  · intro j
    rw [Register.after_snoc, Register.perform, Register.under_append, ← h.stock]
    by_cases hk : keyOf N d = j <;> simp [hk]
  · rw [Register.after_snoc, Register.perform, List.map_append]
    exact (b.toList_behind (keyOf N d) d).trans (h.perm.append_right [d])

theorem Coupled.lookup (h : Coupled N ops b) (checker file : String) :
    Coupled N (ops ++ [.lookup checker file]) (b.taking (checker, N file)) := by
  apply h.withList
  · intro j
    rw [Register.after_snoc, Register.perform, Register.under_eraseP, ← h.stock]
    by_cases hk : (checker, N file) = j
    · rw [if_pos hk, if_pos hk, hk]
    · rw [if_neg hk, if_neg hk]
  · rw [Register.after_snoc, Register.perform]
    have removed := (Register.after N ops).perm_eraseP (checker, N file)
    rw [← h.stock] at removed
    have both := (b.toList_taking (checker, N file)).symm.trans (h.perm.trans removed)
    exact (List.perm_append_left_iff _).mp both

theorem coupled_drained (N : String → String) (ops : List Op) :
    Coupled N (ops ++ [.drain]) {} := by
  have gone : Register.after N (ops ++ [.drain]) = [] := Register.after_snoc N ops .drain
  have none (kind : String × String → Bool) :
      ¬ (Register.after N (ops ++ [.drain])).holds kind = true := by
    rw [gone]
    exact Bool.false_ne_true
  refine ⟨wellFormed_empty, fun k => ?_, ?_, ?_, fun checker => ?_⟩
  · rw [gone]
    rfl
  · rw [gone]
    exact .nil
  · exact ⟨fun x => ⟨nofun, fun hx => absurd hx (none _)⟩, nofun, .nil⟩
  · exact ⟨fun x => ⟨nofun, fun hx => absurd hx (none _)⟩, nofun, .nil⟩

/-- **One step.** Every operation keeps a backlog coupled with the register. -/
theorem coupled_perform {ε : Type} (h : Coupled N ops b) (op : Op)
    (hop : ∀ d, op = .insert d → d.trace ≠ []) :
    Coupled N (ops ++ [op]) (perform (always N : Normalizer ε) b op).backlog := by
  cases op with
  | insert d =>
    rw [perform, insert_eq _ N d (hop d rfl) rfl]
    exact h.insert d
  | lookup checker file =>
    obtain ⟨taken, ht, -, hb⟩ :=
      lookup_eq (always N : Normalizer ε) h.wellFormed checker file (N file)
        fun _ => rfl
    rw [perform, ht]
    change Coupled N _ taken.backlog
    rw [hb]
    exact h.lookup checker file
  | drain => exact coupled_drained N ops

theorem coupled_after {ε : Type} (N : String → String) (ops : List Op)
    (h : ∀ d, .insert d ∈ ops → d.trace ≠ []) :
    Coupled N ops (after (always N : Normalizer ε) ops) := by
  induction ops using List.reverseRecOn with
  | nil => exact coupled_empty N
  | append_singleton ops op ih =>
    rw [after_snoc]
    apply coupled_perform (ih fun d hd => h d (List.mem_append_left _ hd))
    rintro d rfl
    exact h d (List.mem_append_right _ List.mem_cons_self)

/-! ## What the coupling shows -/

theorem Coupled.size_eq (h : Coupled N ops b) : b.size = (Register.after N ops).length := by
  rw [size, h.perm.length_eq, List.length_map]

theorem Coupled.isEmpty_iff (h : Coupled N ops b) :
    b.isEmpty = true ↔ Register.after N ops = [] := by
  rw [isEmpty, List.isEmpty_iff]
  constructor
  · intro hb
    have none : b.toList = [] := by rw [toList, hb, List.flatMap_nil]
    have := h.perm
    rwa [none, List.nil_perm, List.map_eq_nil_iff] at this
  · intro hr
    have keys : Assoc.keys b.rows = [] := by
      rw [List.eq_nil_iff_forall_not_mem]
      intro checker hc
      have := (h.checkers.mem_iff checker).mp hc
      rw [hr] at this
      exact Bool.noConfusion this
    rwa [Assoc.keys, List.map_eq_nil_iff] at keys

theorem Coupled.answer_eq {ε : Type} (h : Coupled N ops b) (op : Op) (hd : op ≠ .drain)
    (hop : ∀ d, op = .insert d → d.trace ≠ []) :
    (perform (always N : Normalizer ε) b op).answer =
      .ok (Register.perform N (Register.after N ops) op).1 := by
  cases op with
  | insert d =>
    rw [perform, insert_eq _ N d (hop d rfl) rfl]
    rfl
  | lookup checker file =>
    obtain ⟨taken, ht, hd, -⟩ :=
      lookup_eq (always N : Normalizer ε) h.wellFormed checker file (N file)
        fun _ => rfl
    rw [perform, ht, Register.perform, Register.head?_under, ← h.stock, ← hd]
  | drain => exact absurd rfl hd

/-- **A backlog refines a register.** Behind every history of insertions of defects that have
events, look-ups and drains, backlog and register have the same size, are empty together, and give
the same answer to the next insertion or look-up. Draining empties the backlog and gives the
defects of the register, checker by checker and file by file, each key in the order of its
insertions; checkers and files come in the order of the insertions since which they are there. -/
theorem after_refines {ε : Type} (N : String → String) (ops : List Op)
    (h : ∀ d, .insert d ∈ ops → d.trace ≠ []) :
    (after (always N : Normalizer ε) ops).size = (Register.after N ops).length ∧
    ((after (always N : Normalizer ε) ops).isEmpty = true ↔ Register.after N ops = []) ∧
    (∀ op, op ≠ .drain → (∀ d, op = .insert d → d.trace ≠ []) →
      (perform (always N : Normalizer ε) (after (always N : Normalizer ε) ops) op).answer =
        .ok (Register.perform N (Register.after N ops) op).1) ∧
    ∃ (drained : List Defect) (checkers : List String) (files : String → List String),
      perform (always N : Normalizer ε) (after (always N : Normalizer ε) ops) .drain =
        ⟨.ok (.drained drained), {}⟩ ∧
      drained.Perm ((Register.after N ops).map Prod.snd) ∧
      (drained = checkers.flatMap fun checker => (files checker).flatMap fun path =>
        (Register.after N ops).under (checker, path)) ∧
      Arrived N ops Register.ofChecker checkers ∧
      ∀ checker, Arrived N ops (fun path => Register.only (checker, path)) (files checker) := by
  have coupled := coupled_after (ε := ε) N ops h
  refine ⟨coupled.size_eq, coupled.isEmpty_iff, coupled.answer_eq, ?_⟩
  refine ⟨_, _, fun checker => _, rfl, coupled.perm, ?_, coupled.checkers, coupled.files⟩
  rw [drain, toList_eq coupled.wellFormed]
  simp only [coupled.stock]

/-- A defect of checker `A`, one of `B`, another of `A`, and a query for the first. -/
def interleaved : List Op :=
  [.insert { checker := "A", trace := [{ file := "x.c" }], cwe := 1 },
   .insert { checker := "B", trace := [{ file := "x.c" }], cwe := 2 },
   .insert { checker := "A", trace := [{ file := "x.c" }], cwe := 3 },
   .lookup "A" "x.c"]

/-- Draining is not in the order of insertion: the row of `A` is older than that of `B`. -/
theorem after_refines_interleaved :
    (∀ d, .insert d ∈ interleaved → d.trace ≠ []) ∧
    (after (always id : Normalizer Unit) interleaved).size =
      (Register.after id interleaved).length ∧
    (after (always id : Normalizer Unit) interleaved).toList.map Defect.cwe = [3, 2] ∧
    (Register.after id interleaved).map (fun e => e.2.cwe) = [2, 3] := by
  have filed : ∀ d, .insert d ∈ interleaved → d.trace ≠ [] := by
    intro d hd
    simp only [interleaved, List.mem_cons, Op.insert.injEq, reduceCtorEq, List.not_mem_nil,
      or_false] at hd
    rcases hd with rfl | rfl | rfl <;> exact List.cons_ne_nil _ _
  exact ⟨filed, (after_refines id interleaved filed).1, by decide, by decide⟩

end Findings.Backlog
