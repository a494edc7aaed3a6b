/-!
Sets of characters given as ranges of code points, and the first of them: white space of Unicode 14,
with the four separators 28 to 31 that count as blank in text. Blanks are removed at both ends of a
text; around a number those four do not count as blank.

* `Ranges.mem_iff`: a character is in the set exactly when some range covers its code point.

Not covered: the narrower set of blanks between the tokens of a JSON text.
-/

namespace Findings.Text

/-- Closed ranges of code points. -/
abbrev Ranges := List (Nat × Nat)

namespace Ranges

def covers (code : Nat) : Ranges → Bool
  | [] => false
  | (lo, hi) :: rest => (lo ≤ code && code ≤ hi) || covers code rest

def mem (rs : Ranges) (c : Char) : Bool := covers c.toNat rs

theorem covers_iff (code : Nat) (rs : Ranges) :
    covers code rs = true ↔ ∃ r ∈ rs, r.1 ≤ code ∧ code ≤ r.2 := by
  induction rs with
  | nil => simp [covers]
  | cons r rs ih => simp [covers, ih]

theorem mem_iff (rs : Ranges) (c : Char) :
    mem rs c = true ↔ ∃ r ∈ rs, r.1 ≤ c.toNat ∧ c.toNat ≤ r.2 :=
  covers_iff c.toNat rs

end Ranges

/-! ## Blanks -/

def blankRanges : Ranges :=
  [(9, 13), (28, 32), (133, 133), (160, 160), (5760, 5760), (8192, 8202), (8232, 8233), (8239,
    8239), (8287, 8287), (12288, 12288)]

def isBlank (c : Char) : Bool := blankRanges.mem c

/-- A blank that may stand beside a number. -/
def isMargin (c : Char) : Bool := isBlank c && !(28 ≤ c.toNat && c.toNat ≤ 31)

/-- The text without the margins at its two ends. -/
def trimMargins (cs : List Char) : List Char :=
  ((cs.dropWhile isMargin).reverse.dropWhile isMargin).reverse

/-- The text without the blanks at its two ends. -/
def trimBlanks (cs : List Char) : List Char :=
  ((cs.dropWhile isBlank).reverse.dropWhile isBlank).reverse

end Findings.Text
