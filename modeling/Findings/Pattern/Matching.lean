import Findings.Pattern.Spot
/-!
Matching a tree against a text, from a given place on. Choices are tried in order of preference, and
what follows decides whether a choice stands: `run node k` gives the first way to match `node` after
which the goal `k` succeeds.

An attempt leaves a memory behind, also where it fails, and failures are not without trace. Marks
set in vain are taken back by the choice that tries something else, and not by the failure itself.
The place noted last is where the last choice was made; a possessive repetition goes on from the
place that its last round has left, and after a round that failed this may lie behind the beginning
of the round.

A repetition that has matched nothing since it began its last round does not begin another one.

* `run_seq`: a sequence is matched part by part.
-/

namespace Findings.Pattern

/-- What is remembered after a match, or after a failure. -/
abbrev Attempt := Except Memory Memory

/-- What has to follow. -/
abbrev Goal := Spot → Memory → Attempt

namespace Matching

/-- Nothing has to follow. -/
def finish : Goal := fun s m => .ok (m.note s)

/-- A way, or else, with the marks taken back, another one. -/
@[inline] def orElse (nested : Bool) (m : Memory) (first second : Memory → Attempt) : Attempt :=
  match first m with
  | .ok r => .ok r
  | .error m' => second (m'.restored nested m.marks)

/-- Notes a place after a failure. -/
@[inline] def settle (s : Spot) : Attempt → Attempt
  | .ok m => .ok m
  | .error m => .error (m.note s)

def eat (p : Char → Bool) (k : Goal) : Goal := fun s m =>
  match s.next? p with
  | some t => k t m
  | none => .error m

/-- Eats the given characters, equal up to `same`. -/
def eatAll (same : Char → Char → Bool) (k : Goal) : List Char → Goal
  | [] => k
  | c :: cs => eat (same c) (eatAll same k cs)

def same (ignoreCase ascii : Bool) (a b : Char) : Bool :=
  if ignoreCase then foldCode ascii a.toNat = foldCode ascii b.toNat else a = b

def less (hi : Option Nat) : Option Nat := hi.map (· - 1)

/-! ## Repetitions of one character -/

/-- Whether the character ahead is the one that has to come next, if that is known. -/
def mayFollow (next : Option CharClass) (s : Spot) : Bool :=
  match next.bind CharClass.literal? with
  | none => true
  | some code => Spot.headIs (fun c => Text.codeOf c = code) s.after

/-- Goes on from the first of these places from which it is possible. -/
def goOn (nested : Bool) (next : Option CharClass) (k : Goal) : List Spot → Memory → Attempt
  | [], m => .error m
  | s :: rest, m =>
    if mayFollow next s then
      orElse nested m (fun m => k s (m.note s)) fun m => goOn nested next k rest m
    else goOn nested next k rest m

/-- Goes on as soon as possible, over up to `hi` of the characters ahead. -/
def goOnSoon (c : CharClass) (nested : Bool) (k : Goal) :
    List Char → Option Nat → Spot → Memory → Attempt
  | [], _, s, m => orElse nested m (fun m => k s (m.note s)) fun m => .error (m.note s)
  | a :: rest, hi, s, m =>
    orElse nested m (fun m => k s (m.note s)) fun m =>
      if c.accepts a then
        let t : Spot := ⟨a :: s.before, rest, s.index + 1⟩
        let m := m.note (if c.isCounted then t else s)
        if hi = some 0 then .error m else goOnSoon c nested k rest (less hi) t m
      else .error (m.note s)

/-- Counts before going on: at least `lo` characters are eaten. -/
def series (greed : Greed) (c : CharClass) (lo : Nat) (hi : Option Nat) (nested : Bool)
    (next : Option CharClass) (k : Goal) : Goal := fun s m =>
  if s.hasAhead lo then
    let most := if greed = .lazy then some lo else hi
    let reached := s.reach c.accepts s.after most []
    let last := reached.headD s
    let m := m.note (if c.isCounted then last else s)
    if lo < reached.length then
      match greed with
      | .greedy => goOn nested next k (reached.take (reached.length - lo)) m
      | .lazy => goOnSoon c nested k last.after (hi.map (· - lo)) last m
      | .possessive => k last (m.note last)
    else .error m
  else .error m

/-! ## Other repetitions

`round` matches the body once and goes on with a goal; `last` is where the last free round began. -/

/-- Whether there may be one more round. -/
def mayGoOn (hi : Option Nat) (last : Option Nat) (s : Spot) : Bool :=
  hi != some 0 && last != some s.index

def greedy (round : Goal → Goal) (k : Goal) :
    Nat → (lo : Nat) → (hi : Option Nat) → (last : Option Nat) → Goal
  | 0, _, _, _, s, m => k s m
  | fuel + 1, lo, hi, last, s, m =>
    let m := m.note s
    match lo with
    | lo + 1 => settle s (round (greedy round k fuel lo (less hi) last) s m)
    | 0 =>
      if mayGoOn hi last s then
        orElse true m (round (greedy round k fuel 0 (less hi) (some s.index)) s) fun m =>
          settle s (k s (m.note s))
      else settle s (k s m)

def lazily (round : Goal → Goal) (nested : Bool) (k : Goal) :
    Nat → (lo : Nat) → (hi : Option Nat) → (last : Option Nat) → Goal
  | 0, _, _, _, s, m => k s m
  | fuel + 1, lo, hi, last, s, m =>
    let m := m.note s
    match lo with
    | lo + 1 => settle s (round (lazily round nested k fuel lo (less hi) last) s m)
    | 0 =>
      orElse nested m (k s) fun m =>
        let m := m.note s
        if mayGoOn hi last s then
          settle s (round (lazily round nested k fuel 0 (less hi) (some s.index)) s m)
        else .error m

/-- Rounds that are not taken back, each from the place noted last. A round beyond the least number
that fails ends the repetition; it leaves the noted place as it is. -/
def possessively (round : Goal) :
    Nat → (lo : Nat) → (hi : Option Nat) → (last : Option Nat) → Memory → Attempt
  | 0, _, _, _, m => .ok m
  | fuel + 1, lo, hi, last, m =>
    match lo with
    | lo + 1 =>
      match round m.noted m with
      | .ok m' => possessively round fuel lo (less hi) last m'
      | .error m' => .error m'
    | 0 =>
      if mayGoOn hi last m.noted then
        match round m.noted m with
        | .ok m' => possessively round fuel 0 (less hi) (some m.noted.index) m'
        | .error m' => .ok (m'.restored true m.marks)
      else .ok m

/-- Every free round but the last eats a character, so there are no more rounds than this. -/
def rounds (lo : Nat) (s : Spot) : Nat := lo + s.after.length + 2

/-! ## Bodies that are matched for themselves -/

/-- Once the body has matched, other ways to match it are not tried. -/
def closed (body : Memory → Attempt) (k : Goal) : Goal := fun s m =>
  match body (m.note s) with
  | .ok m' => k m'.noted m'
  | .error m' => .error (m'.note s)

/-- A look so many characters back: whether the body matches from there. A look that goes back too
far sees nothing. -/
def look (positive nested : Bool) (width : Nat) (body : Goal) (k : Goal) : Goal := fun s m =>
  match s.back? width with
  | none => if positive then .error m else k s m
  | some t =>
    match body t (m.note t), positive with
    | .ok m', true => k s m'
    | .ok m', false => .error m'
    | .error m', true => .error m'
    | .error m', false => k s (m'.restored nested m.marks)

/-! ## Trees -/

/-- Whether a look at the next character rules the alternative out. -/
def isRuledOut (node : Node) (s : Spot) : Bool :=
  match node.head? none with
  | some c => c.isPlain && !Spot.headIs c.accepts s.after
  | none => false

/-- Matches a tree. `nested` tells whether it is in a repetition, `next` which character the tree
behind it begins with. -/
def run : Node → (nested : Bool) → (next : Option CharClass) → Goal → Goal
  | .empty, _, _, k, s, m => k s m
  | .fail, _, _, _, _, m => .error m
  | .one c, _, _, k, s, m => eat c.accepts k s m
  | .anchor a, _, _, k, s, m => if a.holds s then k s m else .error m
  | .seq a b, nested, next, k, s, m => run a nested (b.head? next) (run b nested next k) s m
  | .alt a b, nested, _, k, s, m =>
    if isRuledOut a s then run b nested none k s m
    else orElse nested m (fun m => run a nested none k s (m.note s)) (run b nested none k s)
  | .series lo hi greed c, nested, next, k, s, m => series greed c lo hi nested next k s m
  | .loop lo hi greed body, nested, _, k, s, m =>
    match greed with
    | .greedy => greedy (run body true none) k (rounds lo s) lo hi none s m
    | .lazy => lazily (run body true none) nested k (rounds lo s) lo hi none s m
    | .possessive =>
      closed (possessively (run body nested none finish) (rounds lo s) lo hi none) k s m
  | .group index body, nested, _, k, s, m =>
    run body nested none (fun t m => k t (m.closed index t)) s (m.opened index s)
  | .flagged body, nested, next, k, s, m => run body nested next k s m
  | .backref index ignoreCase ascii, _, _, k, s, m =>
    match m.text? index with
    | some cs => eatAll (same ignoreCase ascii) k cs s m
    | none => .error m
  | .ahead positive body, nested, _, k, s, m =>
    look positive nested 0 (run body nested none finish) k s m
  | .behind positive width body, nested, _, k, s, m =>
    look positive nested width.lo (run body nested none finish) k s m
  | .atomic body, nested, _, k, s, m => closed (run body nested none finish s) k s m
  | .ifGroup index yes no, nested, next, k, s, m =>
    if (m.text? index).isSome then
      run yes nested (if no = .empty then next else none) k s m
    else run no nested next k s m

theorem run_seq (a b : Node) (nested : Bool) (next : Option CharClass) (k : Goal) :
    run (.seq a b) nested next k = run a nested (b.head? next) (run b nested next k) := by
  rfl

end Matching

/-- What is remembered after the preferred match at this place, which may have to go on. -/
def Compiled.match? (p : Compiled) (goesOn : Bool) (s : Spot) : Option Memory :=
  let goal : Goal := fun t m =>
    if goesOn && t.index = s.index then .error m else Matching.finish t m
  if s.hasAhead p.least then (Matching.run p.node false none goal s { noted := s }).toOption
  else none

end Findings.Pattern
