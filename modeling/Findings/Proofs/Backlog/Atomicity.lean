import Findings.Proofs.Backlog.Soundness
/-!
Operations that fail or find nothing leave a backlog as it was. An operation is several changes one
after another, and a change that was made stays made when a later step fails; here each operation is
taken apart into such steps.

* `run_ofOp`: the steps come to what the operation does as a whole;
* `refused_iff`: what makes an operation fail;
* `backlog_of_idle`: an operation that comes to nothing changes nothing;
* `trail_of_without`: so a history goes on without it as it went on with it;
* `failures_idle`: the main statement.
-/

namespace Findings

/-! ## Entries that are begun before they are written -/

namespace Assoc

variable {κ α : Type} [DecidableEq κ]

/-- Gives a key a value if it has none. -/
def provide (k : κ) (a : α) (m : List (κ × α)) : List (κ × α) :=
  if (get? k m).isSome then m else put k a m

theorem put_put (k : κ) (a b : α) (m : List (κ × α)) : put k a (put k b m) = put k a m := by
  induction m with
  | nil => simp [put]
  | cons p m ih =>
    obtain ⟨i, c⟩ := p
    by_cases h : i = k <;> simp [put, h, ih]

theorem put_provide (k : κ) (a b : α) (m : List (κ × α)) :
    put k a (provide k b m) = put k a m := by
  unfold provide
  split
  · rfl
  · exact put_put k a b m

theorem get?_provide (k : κ) (a : α) (m : List (κ × α)) :
    get? k (provide k a m) = some ((get? k m).getD a) := by
  unfold provide
  cases h : get? k m with
  | none => simp [get?_put]
  | some b => simpa using h

theorem erase_put (k : κ) (a : α) (m : List (κ × α)) : erase k (put k a m) = erase k m := by
  induction m with
  | nil => simp [put, erase]
  | cons p m ih =>
    obtain ⟨i, c⟩ := p
    by_cases h : i = k <;> simp [put, erase, h, ih]

end Assoc

namespace Backlog

variable {ε : Type} {normalize : Normalizer ε} {b : Backlog}

/-! ## What makes an operation fail -/

/-- What makes an operation fail, and with which fault. A look-up for a checker that has no row does
not come to the file. -/
inductive Refused (normalize : Normalizer ε) (b : Backlog) : Op → FilingFault ε → Prop where
  | noTrace {d : Defect} (bare : d.trace = []) : Refused normalize b (.insert d) .noTrace
  | insert {d : Defect} {key : Event} {rest : List Event} {fault : ε}
      (trace : d.trace = key :: rest) (failed : normalize key.file = .error fault) :
      Refused normalize b (.insert d) (.path fault)
  | lookup {checker file : String} {fault : ε} (there : checker ∈ Assoc.keys b.rows)
      (failed : normalize file = .error fault) :
      Refused normalize b (.lookup checker file) (.path fault)

theorem fileKey_eq_error_iff (b : Backlog) (d : Defect) (fault : FilingFault ε) :
    fileKey normalize d = .error fault ↔ Refused normalize b (.insert d) fault := by
  constructor
  · intro key
    unfold fileKey at key
    split at key
    · next bare =>
      obtain rfl := Except.error.inj key
      exact .noTrace bare
    · next event rest trace =>
      split at key
      · cases key
      · next cause failed =>
        obtain rfl := Except.error.inj key
        exact .insert trace failed
  · rintro (bare | ⟨trace, failed⟩)
    · rw [fileKey, bare]
    · rw [fileKey, trace]
      simp only [failed]

theorem lookup_eq_error_iff (checker file : String) (fault : ε) :
    b.lookup normalize checker file = .error fault ↔
      checker ∈ Assoc.keys b.rows ∧ normalize file = .error fault := by
  rw [Assoc.mem_keys_iff]
  constructor
  · intro failed
    have ends := looked normalize b checker file
    rw [failed] at ends
    cases ends with
    | refused inRows unanswered => exact ⟨⟨_, inRows⟩, unanswered⟩
  · rintro ⟨⟨row, inRows⟩, failed⟩
    rw [Backlog.lookup, inRows]
    simp only [failed]

theorem refused_iff (op : Op) (fault : FilingFault ε) :
    (perform normalize b op).answer = .error fault ↔ Refused normalize b op fault := by
  cases op with
  | insert d =>
    rw [← fileKey_eq_error_iff b, perform, Backlog.insert]
    cases fileKey normalize d <;> simp [Except.map]
  | lookup checker file =>
    constructor
    · intro failed
      rw [perform] at failed
      split at failed
      · cases failed
      · next cause refused =>
        obtain rfl := Except.error.inj failed
        obtain ⟨there, none⟩ := (lookup_eq_error_iff checker file cause).mp refused
        exact .lookup there none
    · intro refused
      cases refused with
      | lookup there failed =>
        rw [perform, (lookup_eq_error_iff checker file _).mpr ⟨there, failed⟩]
  | drain =>
    constructor
    · intro failed
      cases failed
    · intro refused
      cases refused

/-! ## Steps -/

/-- Why the steps of an operation end early. -/
inductive Breakdown (ε : Type) where
  | fault (fault : FilingFault ε)
  /-- There is nothing in a list that something is to be taken from. -/
  | emptyList

/-- Steps that change a backlog. What was changed before a step that fails stays changed. -/
abbrev Work (ε α : Type) := ExceptT (Breakdown ε) (StateM Backlog) α

namespace Work

def run {α : Type} (w : Work ε α) (b : Backlog) : Except (Breakdown ε) α × Backlog :=
  Id.run (StateT.run (ExceptT.run w) b)

def setRow (checker : String) (row : Row) : Work ε Unit :=
  modify fun b => ⟨Assoc.put checker row b.rows⟩

def keyEvent (d : Defect) : Work ε Event :=
  match d.trace with
  | [] => throw (.fault .noTrace)
  | key :: _ => return key

def normalized (normalize : Normalizer ε) (file : String) : Work ε String :=
  match normalize file with
  | .ok path => return path
  | .error fault => throw (.fault (.path fault))

/-- The row of a checker, which is begun if there is none. -/
def beginRow (checker : String) : Work ε Unit :=
  modify fun b => ⟨Assoc.provide checker [] b.rows⟩

/-- The list of a path, which is begun if there is none. -/
def beginList (checker path : String) : Work ε Unit := do
  setRow checker (Assoc.provide path [] ((← get).row checker))

def append (checker path : String) (d : Defect) : Work ε Unit := do
  let b ← get
  setRow checker (Assoc.put path (b.listAt checker path ++ [d]) (b.row checker))

def insertion (normalize : Normalizer ε) (d : Defect) : Work ε Unit := do
  let key ← keyEvent d
  let path ← normalized normalize key.file
  beginRow d.checker
  beginList d.checker path
  append d.checker path d

def takeFirst (checker path : String) : Work ε Defect := do
  let b ← get
  match b.listAt checker path with
  | [] => throw .emptyList
  | d :: rest =>
    setRow checker (Assoc.put path rest (b.row checker))
    return d

def dropList (checker path : String) : Work ε Unit := do
  setRow checker (Assoc.erase path ((← get).row checker))

def dropRow (checker : String) : Work ε Unit :=
  modify fun b => ⟨Assoc.erase checker b.rows⟩

/-- Drops a list in which nothing is left, and its row if that was the last list. -/
def tidy (checker path : String) : Work ε Unit := do
  if ((← get).listAt checker path).isEmpty then
    dropList checker path
    if ((← get).row checker).isEmpty then dropRow checker

/-- Takes the oldest defect of a path out of the row of a checker. -/
def takingFromRow (normalize : Normalizer ε) (checker file : String) :
    Work ε (Option Defect) := do
  let path ← normalized normalize file
  if (Assoc.get? path ((← get).row checker)).isNone then return none
  else
    let d ← takeFirst checker path
    tidy checker path
    return some d

def lookingUp (normalize : Normalizer ε) (checker file : String) : Work ε (Option Defect) := do
  if (Assoc.get? checker (← get).rows).isNone then return none
  else takingFromRow normalize checker file

/-- An operation, step by step. -/
def ofOp (normalize : Normalizer ε) : Op → Work ε Answer
  | .insert d => do
    insertion normalize d
    return .done
  | .lookup checker file => return .taken (← lookingUp normalize checker file)
  | .drain => do
    let b ← get
    set ({} : Backlog)
    return .drained b.toList

end Work

/-! ## What the steps come to -/

namespace Work

variable {α β : Type} {w : Work ε α} {f : α → Work ε β} {b' : Backlog}

theorem run_bind_ok {a : α} (h : w.run b = (.ok a, b')) : (w >>= f).run b = (f a).run b' := by
  unfold run ExceptT.run StateT.run Id.run at *
  simp only [bind, ExceptT.bind, ExceptT.mk, StateT.bind, h, ExceptT.bindCont]

theorem run_bind_error {e : Breakdown ε} (h : w.run b = (.error e, b')) :
    (w >>= f).run b = (.error e, b') := by
  unfold run ExceptT.run StateT.run Id.run at *
  simp only [bind, ExceptT.bind, ExceptT.mk, StateT.bind, h, ExceptT.bindCont]
  rfl

theorem run_normalized_ok {file path : String} (answer : normalize file = .ok path) :
    (normalized normalize file).run b = (.ok path, b) := by
  rw [normalized, answer]
  rfl

theorem run_normalized_error {file : String} {fault : ε} (failed : normalize file = .error fault) :
    (normalized normalize file).run b = (.error (.fault (.path fault)), b) := by
  rw [normalized, failed]
  rfl

end Work

open Work

theorem row_put (checker : String) (row : Row) (rows : List (String × Row)) :
    Backlog.row ⟨Assoc.put checker row rows⟩ checker = row := by
  simp [Backlog.row, Assoc.get?_put]

theorem run_keyEvent {d : Defect} {key : Event} {rest : List Event}
    (trace : d.trace = key :: rest) : (keyEvent d : Work ε Event).run b = (.ok key, b) := by
  rw [keyEvent, trace]
  rfl

/-- Both levels are begun, and then the defect is put into its list. -/
theorem run_insertion_ok {d : Defect} {path : String} (key : fileKey normalize d = .ok path) :
    (insertion normalize d).run b = (.ok (), b.push path d) := by
  obtain ⟨event, rest, trace, answer⟩ := (fileKey_eq_ok_iff d path).mp key
  let begun : Backlog := ⟨Assoc.provide d.checker [] b.rows⟩
  have row : begun.row d.checker = b.row d.checker := by
    rw [Backlog.row, Assoc.get?_provide]
    rfl
  let listed : Backlog :=
    ⟨Assoc.put d.checker (Assoc.provide path [] (begun.row d.checker)) begun.rows⟩
  have list : listed.listAt d.checker path = b.listAt d.checker path := by
    rw [listAt, row_put, Assoc.get?_provide, row]
    rfl
  have done : (⟨Assoc.put d.checker (Assoc.put path (listed.listAt d.checker path ++ [d])
      (listed.row d.checker)) listed.rows⟩ : Backlog) = b.push path d := by
    rw [list, row_put, Assoc.put_provide, row, Assoc.put_put, Assoc.put_provide]
    rfl
  rw [insertion, run_bind_ok (run_keyEvent trace), run_bind_ok (run_normalized_ok answer), ← done]
  rfl

theorem run_insertion_error {d : Defect} {fault : FilingFault ε}
    (key : fileKey normalize d = .error fault) :
    (insertion normalize d).run b = (.error (.fault fault), b) := by
  cases (fileKey_eq_error_iff b d fault).mp key with
  | noTrace bare =>
    have first : (keyEvent d : Work ε Event).run b = (.error (.fault .noTrace), b) := by
      rw [keyEvent, bare]
      rfl
    rw [insertion, run_bind_error first]
  | insert trace failed =>
    rw [insertion, run_bind_ok (run_keyEvent trace), run_bind_error (run_normalized_error failed)]

theorem run_get : (get : Work ε Backlog).run b = (.ok b, b) := rfl

theorem listAt_put (checker path : String) (row : Row) (rest : List Defect)
    (rows : List (String × Row)) :
    Backlog.listAt ⟨Assoc.put checker (Assoc.put path rest row) rows⟩ checker path = rest := by
  rw [listAt, row_put, Assoc.get?_put, if_pos rfl]
  rfl

theorem run_dropList (checker path : String) (row : Row) (rest : List Defect) :
    (dropList checker path : Work ε Unit).run
        ⟨Assoc.put checker (Assoc.put path rest row) b.rows⟩ =
      (.ok (), ⟨Assoc.put checker (Assoc.erase path row) b.rows⟩) := by
  have dropped : (⟨Assoc.put checker
      (Assoc.erase path (Backlog.row ⟨Assoc.put checker (Assoc.put path rest row) b.rows⟩ checker))
      (Assoc.put checker (Assoc.put path rest row) b.rows)⟩ : Backlog) =
      ⟨Assoc.put checker (Assoc.erase path row) b.rows⟩ := by
    rw [row_put, Assoc.erase_put, Assoc.put_put]
  rw [← dropped]
  rfl

/-- What is left behind the first defect of a list stays in its place, or the list is dropped. -/
theorem run_tidy (checker path : String) (row : Row) (rest : List Defect) :
    (tidy checker path : Work ε Unit).run
        ⟨Assoc.put checker (Assoc.put path rest row) b.rows⟩ =
      (.ok (), ⟨Assoc.store checker (Assoc.store path rest row) b.rows⟩) := by
  rw [tidy, run_bind_ok run_get, listAt_put]
  cases rest with
  | nil =>
    rw [List.isEmpty_nil, if_pos rfl, run_bind_ok (run_dropList checker path row []),
      run_bind_ok run_get, row_put, Assoc.store, Assoc.store, List.isEmpty_nil, if_pos rfl]
    cases (Assoc.erase path row).isEmpty with
    | false => rfl
    | true =>
      rw [if_pos rfl, if_pos rfl, ← Assoc.erase_put checker (Assoc.erase path row) b.rows]
      rfl
  | cons d rest =>
    rw [Assoc.store, Assoc.store, List.isEmpty_cons, if_neg Bool.false_ne_true,
      if_neg Bool.false_ne_true, Assoc.isEmpty_put, if_neg Bool.false_ne_true]
    rfl

theorem run_takeFirst {checker path : String} {row : Row} {d : Defect} {rest : List Defect}
    (inRows : Assoc.get? checker b.rows = some row)
    (inRow : Assoc.get? path row = some (d :: rest)) :
    (takeFirst checker path : Work ε Defect).run b =
      (.ok d, ⟨Assoc.put checker (Assoc.put path rest row) b.rows⟩) := by
  have list : b.listAt checker path = d :: rest := stock_of_get? inRows inRow
  rw [takeFirst, run_bind_ok run_get, list, row_of_get? inRows]
  rfl

theorem run_lookingUp_of_row {checker : String} {row : Row}
    (inRows : Assoc.get? checker b.rows = some row) (file : String) :
    (lookingUp normalize checker file).run b = (takingFromRow normalize checker file).run b := by
  rw [lookingUp, run_bind_ok run_get, inRows, Option.isNone_some, if_neg Bool.false_ne_true]

theorem run_takingFromRow {checker file path : String} {row : Row}
    (inRows : Assoc.get? checker b.rows = some row) (answer : normalize file = .ok path) :
    (takingFromRow normalize checker file).run b =
      (if (Assoc.get? path row).isNone then return none
        else do
          let d ← takeFirst checker path
          tidy checker path
          return some d : Work ε (Option Defect)).run b := by
  rw [takingFromRow, run_bind_ok (run_normalized_ok answer), run_bind_ok run_get,
    row_of_get? inRows]

theorem run_lookingUp_ok (hb : b.WellFormed) {checker file : String} {taken : Taken}
    (found : b.lookup normalize checker file = .ok taken) :
    (lookingUp normalize checker file).run b = (.ok taken.defect, taken.backlog) := by
  have ends := looked normalize b checker file
  rw [found] at ends
  cases ends with
  | rowless none =>
    rw [lookingUp, run_bind_ok run_get, none]
    rfl
  | listless inRows answer none =>
    rw [run_lookingUp_of_row inRows, run_takingFromRow inRows answer, none]
    rfl
  | @listed row path list inRows answer inRow =>
    obtain ⟨d, rest, rfl⟩ := hb.exists_cons inRows inRow
    obtain ⟨given, left⟩ := b.takeFrom_cons checker path row d rest
    rw [run_lookingUp_of_row inRows, run_takingFromRow inRows answer, inRow, Option.isNone_some,
      if_neg Bool.false_ne_true, run_bind_ok (run_takeFirst inRows inRow),
      run_bind_ok (run_tidy checker path row rest), given, left]
    rfl

theorem run_lookingUp_error {checker file : String} {fault : ε}
    (failed : b.lookup normalize checker file = .error fault) :
    (lookingUp normalize checker file).run b = (.error (.fault (.path fault)), b) := by
  obtain ⟨there, refused⟩ := (lookup_eq_error_iff checker file fault).mp failed
  obtain ⟨row, inRows⟩ := (Assoc.mem_keys_iff checker b.rows).mp there
  rw [run_lookingUp_of_row inRows, takingFromRow, run_bind_error (run_normalized_error refused)]

theorem run_ofOp (hb : b.WellFormed) (op : Op) :
    (ofOp normalize op).run b =
      ((perform normalize b op).answer.mapError .fault, (perform normalize b op).backlog) := by
  cases op with
  | insert d =>
    rw [ofOp, perform, insert]
    cases key : fileKey normalize d with
    | ok path =>
      rw [run_bind_ok (run_insertion_ok key)]
      rfl
    | error fault =>
      rw [run_bind_error (run_insertion_error key)]
      rfl
  | lookup checker file =>
    rw [ofOp, perform]
    cases found : b.lookup normalize checker file with
    | ok taken =>
      rw [run_bind_ok (run_lookingUp_ok hb found)]
      rfl
    | error fault =>
      rw [run_bind_error (run_lookingUp_error found)]
      rfl
  | drain => rfl

/-! ## Operations that come to nothing -/

theorem backlog_of_lookup_none {checker file : String} {taken : Taken}
    (found : b.lookup normalize checker file = .ok taken) (none : taken.defect = none) :
    taken.backlog = b := by
  have ends := looked normalize b checker file
  rw [found] at ends
  cases ends with
  | rowless | listless => rfl
  | @listed row path list _ _ _ =>
    cases list with
    | nil => rfl
    | cons d rest => cases (b.takeFrom_cons checker path row d rest).1.symm.trans none

/-- An operation that failed, or a look-up that found nothing. -/
inductive Idle : Except (FilingFault ε) Answer → Prop where
  | failed (fault : FilingFault ε) : Idle (.error fault)
  | notFound : Idle (.ok (.taken none))

/-- **One operation.** Where it comes to nothing, the backlog stays what it was. -/
theorem backlog_of_idle {op : Op} (idle : Idle (perform normalize b op).answer) :
    (perform normalize b op).backlog = b := by
  cases op with
  | insert d =>
    cases inserted : b.insert normalize d with
    | ok next =>
      rw [perform, inserted] at idle
      cases idle
    | error fault => rw [perform, inserted]
  | lookup checker file =>
    cases found : b.lookup normalize checker file with
    | ok taken =>
      rw [perform, found] at idle ⊢
      dsimp only at idle ⊢
      generalize given : taken.defect = defect at idle
      cases idle
      exact backlog_of_lookup_none found given
    | error fault => rw [perform, found]
  | drain => cases idle

/-! ## Histories -/

/-- Operations with what was answered. -/
abbrev Trail (ε : Type) := List (Op × Except (FilingFault ε) Answer)

/-- What a backlog answers to some operations. -/
def trail (normalize : Normalizer ε) : Backlog → List Op → Trail ε
  | _, [] => []
  | b, op :: ops =>
    (op, (perform normalize b op).answer) :: trail normalize (perform normalize b op).backlog ops

/-- Some of the operations that came to nothing are left out. -/
inductive Without : Trail ε → Trail ε → Prop where
  | nil : Without [] []
  | keep (op : Op) (answer : Except (FilingFault ε) Answer) {all kept : Trail ε}
      (rest : Without all kept) : Without ((op, answer) :: all) ((op, answer) :: kept)
  | skip {op : Op} {answer : Except (FilingFault ε) Answer} {all kept : Trail ε}
      (idle : Idle answer) (rest : Without all kept) : Without ((op, answer) :: all) kept

theorem trail_of_without {ops : List Op} {kept : Trail ε}
    (without : Without (trail normalize b ops) kept) :
    trail normalize b (kept.map Prod.fst) = kept ∧
      (kept.map Prod.fst).foldl (fun b op => (perform normalize b op).backlog) b =
        ops.foldl (fun b op => (perform normalize b op).backlog) b := by
  induction ops generalizing b kept with
  | nil =>
    cases without
    exact ⟨rfl, rfl⟩
  | cons op ops ih =>
    cases without with
    | keep _ _ rest =>
      obtain ⟨same, behind⟩ := ih rest
      exact ⟨by rw [List.map_cons, trail, same], behind⟩
    | skip idle rest =>
      rw [List.foldl_cons, backlog_of_idle idle] at *
      exact ih rest

theorem run_ofOp_error_iff (hb : b.WellFormed) (op : Op) (fault : FilingFault ε) (left : Backlog) :
    (ofOp normalize op).run b = (.error (.fault fault), left) ↔
      Refused normalize b op fault ∧ left = b := by
  rw [run_ofOp hb, ← refused_iff]
  constructor
  · intro same
    obtain ⟨answer, rfl⟩ := Prod.mk.inj same
    cases failed : (perform normalize b op).answer with
    | ok answer' => simp [failed, Except.mapError] at answer
    | error cause =>
      obtain rfl : cause = fault := by simpa [failed, Except.mapError] using answer
      exact ⟨rfl, backlog_of_idle (failed ▸ .failed cause)⟩
  · rintro ⟨failed, rfl⟩
    rw [failed, backlog_of_idle (failed ▸ .failed fault)]
    rfl

/-- **Operations that come to nothing.** Behind every history, the steps of an operation come to
what the operation does as a whole, and none of them finds an empty list. An insertion fails just if
the defect has no events or the file of the first cannot be normalized, a look-up just if the
checker has a row and the file cannot be normalized. Whatever fails or finds nothing leaves the
backlog exactly as it was, so that a history without some of these operations gives the same answers
to all the others, and ends with the same backlog. -/
theorem failures_idle (normalize : Normalizer ε) (ops : List Op) :
    let b := after normalize ops
    (∀ op, (ofOp normalize op).run b =
      ((perform normalize b op).answer.mapError .fault, (perform normalize b op).backlog)) ∧
    (∀ op fault left, (ofOp normalize op).run b = (.error (.fault fault), left) ↔
      Refused normalize b op fault ∧ left = b) ∧
    (∀ op, Idle (perform normalize b op).answer → (perform normalize b op).backlog = b) ∧
    ∀ kept, Without (trail normalize {} ops) kept →
      trail normalize {} (kept.map Prod.fst) = kept ∧
        after normalize (kept.map Prod.fst) = b := by
  intro b
  have wellFormed : b.WellFormed := (sound_after normalize ops).wellFormed
  exact ⟨run_ofOp wellFormed, run_ofOp_error_iff wellFormed, fun _ => backlog_of_idle,
    fun _ => trail_of_without⟩

/-- A history without its first insertion, which failed, and without a look-up that failed and one
that found nothing. The other insertion that failed is still there. -/
theorem failures_idle_troubled :
    let older : Defect := { checker := "A", trace := [{ file := "./x.c" }], cwe := 3 }
    let kept : Trail Unit :=
      [(.insert { checker := "A", cwe := 2 }, .error .noTrace), (.insert older, .ok .done),
        (.insert { checker := "A", trace := [{ file := "x.c" }], cwe := 4 }, .ok .done),
        (.lookup "A" "x.c", .ok (.taken (some older)))]
    Without (trail lossy {} troubled) kept ∧ trail lossy {} (kept.map Prod.fst) = kept ∧
      after lossy (kept.map Prod.fst) = after lossy troubled := by
  intro older kept
  have answers : trail lossy {} troubled =
      [(.insert { checker := "A", trace := [{ file := "lost.c" }], cwe := 1 }, .error (.path ())),
        kept[0], kept[1], kept[2], (.lookup "A" "lost.c", .error (.path ())),
        (.lookup "B" "lost.c", .ok (.taken none)), kept[3]] := by decide
  have without : Without (trail lossy {} troubled) kept := by
    rw [answers]
    exact .skip (.failed _) (.keep _ _ (.keep _ _ (.keep _ _
      (.skip (.failed _) (.skip .notFound (.keep _ _ .nil))))))
  exact ⟨without, (failures_idle lossy troubled).2.2.2 kept without⟩

end Backlog

end Findings
