import Findings.Text.Point
/-!
Characters from bytes, one byte at a time. A first byte settles how many bytes follow it and in
which range the second one lies; overlong forms and surrogates have no bytes of their own that way.
So a text with half of a surrogate pair cannot be written.
-/

namespace Findings.Text.Utf8

inductive Cause where
  /-- No character begins with this byte. -/
  | badStart
  /-- The character breaks off before a byte that does not continue it. -/
  | badContinuation
  /-- The bytes end within a character. -/
  | truncated
  deriving DecidableEq, Repr

def Cause.message : Cause → String
  | badStart => "invalid start byte"
  | badContinuation => "invalid continuation byte"
  | truncated => "unexpected end of data"

/-- The bytes at fault, where they begin, and the text in front of them. -/
structure Fault where
  cause : Cause
  start : Nat
  bytes : List UInt8
  before : List Char
  deriving DecidableEq, Repr

def Fault.message (f : Fault) : String :=
  let place := match f.bytes with
    | [b] =>
      "byte 0x" ++ String.ofList (Hex.digits 2 b.toNat) ++ " in position " ++ toString f.start
    | bs => "bytes in position " ++ toString f.start ++ "-" ++ toString (f.start + bs.length - 1)
  "\x27utf-8\x27 codec can\x27t decode " ++ place ++ ": " ++ f.cause.message

/-- A character that has begun: its bytes so far, last one first, how many are still missing, the
range of the next one, and the bits collected. -/
structure Begun where
  bytes : List UInt8
  missing : Nat
  lo : UInt8 := 0x80
  hi : UInt8 := 0xBF
  bits : Nat

/-- What a first byte beyond ASCII begins. -/
def begin? (b : UInt8) : Option Begun :=
  let n := b.toNat
  if b < 0xC2 then none
  else if b < 0xE0 then some { bytes := [b], missing := 1, bits := n - 0xC0 }
  else if b < 0xF0 then
    some { bytes := [b], missing := 2, bits := n - 0xE0
           lo := if b = 0xE0 then 0xA0 else 0x80
           hi := if b = 0xED then 0x9F else 0xBF }
  else if b < 0xF5 then
    some { bytes := [b], missing := 3, bits := n - 0xF0
           lo := if b = 0xF0 then 0x90 else 0x80
           hi := if b = 0xF4 then 0x8F else 0xBF }
  else none

def Begun.extend (p : Begun) (b : UInt8) : Begun :=
  { bytes := b :: p.bytes, missing := p.missing - 1, bits := p.bits * 64 + (b.toNat - 0x80) }

/-- Reads on at a position, the characters read so far in reverse. -/
def scan (position : Nat) (read : List Char) : Option Begun → List UInt8 → Except Fault (List Char)
  | none, [] => .ok read.reverse
  | some p, [] =>
    .error ⟨.truncated, position - p.bytes.length, p.bytes.reverse, read.reverse⟩
  | none, b :: rest =>
    if b < 0x80 then scan (position + 1) (Char.ofNat b.toNat :: read) none rest
    else match begin? b with
      | none => .error ⟨.badStart, position, [b], read.reverse⟩
      | some p => scan (position + 1) read (some p) rest
  | some p, b :: rest =>
    if p.lo ≤ b ∧ b ≤ p.hi then
      let p := p.extend b
      if p.missing = 0 then scan (position + 1) (Char.ofNat p.bits :: read) none rest
      else scan (position + 1) read (some p) rest
    else .error ⟨.badContinuation, position - p.bytes.length, p.bytes.reverse, read.reverse⟩

/-- The text of the bytes. A mark of byte order at the front is a character like any other. -/
def decode (bytes : List UInt8) : Except Fault (List Char) := scan 0 [] none bytes

/-! ## Writing -/

/-- The first halves of surrogate pairs that stand together in a text: the code of the first one,
its position, and how many they are. -/
structure Unwritable where
  code : Nat
  start : Nat
  count : Nat
  deriving DecidableEq, Repr

def Unwritable.message (f : Unwritable) : String :=
  let place :=
    if f.count = 1 then
      "character \x27\\u" ++ String.ofList (Hex.digits 4 f.code) ++ "\x27 in position " ++
        toString f.start
    else "characters in position " ++ toString f.start ++ "-" ++ toString (f.start + f.count - 1)
  "\x27utf-8\x27 codec can\x27t encode " ++ place ++ ": surrogates not allowed"

/-- What keeps some points from being written, from a position on. -/
def unwritableFrom? (position : Nat) : List Point → Option Unwritable
  | [] => none
  | .char _ :: ps => unwritableFrom? (position + 1) ps
  | .half n :: ps =>
    let together := ps.takeWhile fun p => Point.isHalfCode p.code
    some { code := (Point.half n).code, start := position, count := together.length + 1 }

/-- What keeps a text from being written. -/
def unwritable? (s : String) : Option Unwritable := unwritableFrom? 0 (points s.toList)

end Findings.Text.Utf8
