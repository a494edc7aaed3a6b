import Findings.Text.Digit
/-!
What texts are made of: characters, and halves of surrogate pairs. A report can name such a half by
an escape, and no character is one.

A text holds a half as one of the last private characters, its stand-in. Where such a character is
meant itself, another one takes its place and has a mark behind it, and so it is with the mark. So
reading a text back gives what it was made of, and a stand-in means a half wherever it is.

* `points_chars`: a text is read back as it was written;
* `chars_injective`: different points make different texts;
* `isStandIn_of_mem_chars`, `half_not_mem_points`: texts with stand-ins are those with halves.

Not covered: to a pattern, a character with a mark behind it is two characters.
-/

namespace Findings.Text

/-- A character or half of a surrogate pair. -/
inductive Point where
  | char (c : Char)
  | half (n : Fin 2048)
  deriving DecidableEq, Repr

namespace Point

/-- The code of the first half. -/
def firstHalf : Nat := 0xD800

/-- The code of the character that stands for the first half. -/
def firstStandIn : Nat := 0x10F800

/-- What stands behind a character that is there in place of another one. -/
def mark : Char := Char.ofNat 0x10F7FF

def standIn (n : Fin 2048) : Char := Char.ofNat (firstStandIn + n)

def isStandIn (c : Char) : Bool := firstStandIn ≤ c.toNat

/-- Whether a character is the mark or a stand-in. -/
def isReserved (c : Char) : Bool := mark.toNat ≤ c.toNat

/-- The character in place of a reserved one. -/
def hide (c : Char) : Char := Char.ofNat (c.toNat - 0x10000)

/-- The reserved character in whose place this one is. -/
def reveal (c : Char) : Char := Char.ofNat (c.toNat + 0x10000)

def isHalfCode (code : Nat) : Bool := firstHalf ≤ code && code < firstHalf + 2048

/-- The point with a code. -/
def ofCode (code : Nat) : Point :=
  if isHalfCode code then half (Fin.ofNat 2048 (code - firstHalf)) else char (Char.ofNat code)

def code : Point → Nat
  | char c => c.toNat
  | half n => firstHalf + n

/-- How a text holds a point. -/
def chars : Point → List Char
  | char c => if isReserved c then [hide c, mark] else [c]
  | half n => [standIn n]

/-- The point for which a character stands that no mark follows. -/
def ofBare (c : Char) : Point :=
  if isStandIn c then half (Fin.ofNat 2048 (c.toNat - firstStandIn)) else char c

end Point

/-- The code that a bare character has in a text. -/
def codeOf (c : Char) : Nat := (Point.ofBare c).code

/-- The points of a text. -/
def points : List Char → List Point
  | [] => []
  | [c] => [.ofBare c]
  | c :: d :: cs =>
    if d = Point.mark then .char (Point.reveal c) :: points cs else .ofBare c :: points (d :: cs)

/-- A text of characters that all mean themselves. -/
def ofPlain (cs : List Char) : List Char := cs.flatMap fun c => (Point.char c).chars

/-- The characters of a text, if it has no halves. -/
def plain? (cs : List Char) : Option (List Char) :=
  (points cs).mapM fun
    | .char c => some c
    | .half _ => none

/-- The text with the code of each half in its place, behind a backslash. -/
def backslashed (cs : List Char) : List Char :=
  (points cs).flatMap fun
    | .char c => (Point.char c).chars
    | p => '\\' :: 'u' :: Hex.digits 4 p.code

namespace Point

theorem toNat_mark : mark.toNat = 0x10F7FF := rfl

theorem isStandIn_iff (c : Char) : isStandIn c = true ↔ 0x10F800 ≤ c.toNat := decide_eq_true_iff

theorem isReserved_iff (c : Char) : isReserved c = true ↔ 0x10F7FF ≤ c.toNat := decide_eq_true_iff

theorem isStandIn_of_unreserved {c : Char} (h : isReserved c = false) : isStandIn c = false := by
  rw [← Bool.not_eq_true, isReserved_iff] at h
  rw [← Bool.not_eq_true, isStandIn_iff]
  omega

theorem toNat_ofNat_of_valid {n : Nat} (h : n.isValidChar) : (Char.ofNat n).toNat = n := by
  rw [Char.ofNat, dif_pos h]
  rfl

theorem toNat_standIn (n : Fin 2048) : (standIn n).toNat = 0x10F800 + n := by
  have bound := n.isLt
  refine toNat_ofNat_of_valid ?_
  unfold Nat.isValidChar firstStandIn
  omega

theorem toNat_hide {c : Char} (reserved : isReserved c = true) :
    (hide c).toNat = c.toNat - 0x10000 := by
  have low := (isReserved_iff c).mp reserved
  have valid : c.toNat.isValidChar := c.valid
  refine toNat_ofNat_of_valid ?_
  unfold Nat.isValidChar at valid ⊢
  omega

theorem reveal_hide {c : Char} (reserved : isReserved c = true) : reveal (hide c) = c := by
  have low := (isReserved_iff c).mp reserved
  rw [reveal, toNat_hide reserved, Nat.sub_add_cancel (by omega), Char.ofNat_toNat]

theorem ofBare_standIn (n : Fin 2048) : ofBare (standIn n) = half n := by
  have stands : isStandIn (standIn n) = true := by
    rw [isStandIn_iff, toNat_standIn]
    omega
  rw [ofBare, if_pos stands, toNat_standIn, firstStandIn, Nat.add_sub_cancel_left]
  simp

/-- No stand-in belongs to a character. -/
theorem isStandIn_of_mem_chars {c d : Char} (mem : d ∈ (char c).chars) : isStandIn d = false := by
  rw [chars] at mem
  split at mem
  · next reserved =>
    have bound : c.toNat.isValidChar := c.valid
    unfold Nat.isValidChar at bound
    rw [← Bool.not_eq_true, isStandIn_iff]
    simp only [List.mem_cons, List.not_mem_nil, or_false] at mem
    rcases mem with same | same
    · rw [same, toNat_hide reserved]
      omega
    · rw [same, toNat_mark]
      omega
  · next bare =>
    rw [List.mem_singleton.mp mem]
    exact isStandIn_of_unreserved (eq_false_of_ne_true bare)

/-- A mark is never in front. -/
theorem exists_chars_eq_cons (p : Point) : ∃ c cs, p.chars = c :: cs ∧ c ≠ mark := by
  have other {c : Char} (h : c.toNat ≠ 0x10F7FF) : c ≠ mark := by
    rintro rfl
    exact h toNat_mark
  cases p with
  | char c =>
    rw [chars]
    split
    · next reserved =>
      have bound : c.toNat.isValidChar := c.valid
      unfold Nat.isValidChar at bound
      refine ⟨_, _, rfl, other ?_⟩
      rw [toNat_hide reserved]
      omega
    · next bare =>
      rw [isReserved_iff] at bare
      exact ⟨_, _, rfl, other (by omega)⟩
  | half n => exact ⟨_, _, rfl, other (by rw [toNat_standIn]; omega)⟩

end Point

open Point

theorem codeOf_inj {c d : Char} : codeOf c = codeOf d ↔ c = d := by
  refine ⟨fun same => ?_, congrArg codeOf⟩
  have valid (e : Char) : e.toNat.isValidChar := e.valid
  have left := valid c
  have right := valid d
  rw [← Char.toNat_inj]
  unfold Nat.isValidChar at left right
  unfold codeOf ofBare at same
  split at same <;> split at same <;>
    simp only [code, firstHalf, firstStandIn, isStandIn_iff, Fin.ofNat, Fin.val_mk] at * <;> omega

theorem points_cons (c : Char) {cs : List Char} (h : cs.head? ≠ some mark) :
    points (c :: cs) = ofBare c :: points cs := by
  cases cs with
  | nil => rfl
  | cons d cs =>
    have other : d ≠ mark := fun same => h (congrArg some same)
    rw [points, if_neg other]

theorem points_chars_append (p : Point) {cs : List Char} (h : cs.head? ≠ some mark) :
    points (p.chars ++ cs) = p :: points cs := by
  cases p with
  | char c =>
    rw [chars]
    split
    · next reserved =>
      rw [List.cons_append, List.singleton_append, points, if_pos rfl, reveal_hide reserved]
    · next bare =>
      have self := isStandIn_of_unreserved (eq_false_of_ne_true bare)
      rw [List.singleton_append, points_cons c h, ofBare, self, if_neg Bool.false_ne_true]
  | half n => rw [chars, List.singleton_append, points_cons _ h, ofBare_standIn]

/-- The text of some points is read back as these. -/
theorem points_chars (ps : List Point) : points (ps.flatMap chars) = ps := by
  induction ps with
  | nil => rfl
  | cons p ps ih =>
    have unmarked : (ps.flatMap chars).head? ≠ some mark := by
      cases ps with
      | nil => nofun
      | cons q qs =>
        obtain ⟨c, cs, front, other⟩ := exists_chars_eq_cons q
        rw [List.flatMap_cons, front]
        exact fun same => other (Option.some.inj same)
    rw [List.flatMap_cons, points_chars_append p unmarked, ih]

/-- Different points never make the same text. -/
theorem chars_injective (ps qs : List Point) (same : ps.flatMap chars = qs.flatMap chars) :
    ps = qs := by
  rw [← points_chars ps, same, points_chars]

theorem points_ofPlain (cs : List Char) : points (ofPlain cs) = cs.map Point.char := by
  rw [← points_chars (cs.map Point.char), ofPlain, List.flatMap_map]

theorem half_not_mem_points {cs : List Char} (h : ∀ c ∈ cs, isStandIn c = false) (n : Fin 2048) :
    half n ∉ points cs := by
  have bare {c : Char} (self : isStandIn c = false) : half n ≠ ofBare c := by
    rw [ofBare, self, if_neg Bool.false_ne_true]
    nofun
  fun_induction points cs with
  | case1 => nofun
  | case2 c => exact fun mem => bare (h c List.mem_cons_self) (List.mem_singleton.mp mem)
  | case3 c cs ih =>
    refine List.not_mem_cons_of_ne_of_not_mem nofun (ih fun d mem => ?_)
    exact h d (List.mem_cons_of_mem c (List.mem_cons_of_mem mark mem))
  | case4 c d cs unmarked ih =>
    refine List.not_mem_cons_of_ne_of_not_mem (bare (h c List.mem_cons_self)) (ih fun e mem => ?_)
    exact h e (List.mem_cons_of_mem c mem)

end Findings.Text
