/-!
Bytes in base 64. Characters outside the alphabet are passed over; padding ends the text once it
completes a group of four.
-/

namespace Findings.Text.Base64

/-- The six bits of a character. -/
def value? (c : Char) : Option Nat :=
  if 'A' ≤ c ∧ c ≤ 'Z' then some (c.toNat - 65)
  else if 'a' ≤ c ∧ c ≤ 'z' then some (c.toNat - 71)
  else if '0' ≤ c ∧ c ≤ '9' then some (c.toNat + 4)
  else if c = '+' then some 62
  else if c = '/' then some 63
  else none

/-- The bytes that are whole among some groups of six bits, fewer than four. -/
def bytesOf : List Nat → List UInt8
  | [a, b] => [(a * 4 + b / 16).toUInt8]
  | [a, b, c] => [(a * 4 + b / 16).toUInt8, (b * 16 + c / 4).toUInt8]
  | [a, b, c, d] =>
    [(a * 4 + b / 16).toUInt8, (b * 16 + c / 4).toUInt8, (c * 64 + d).toUInt8]
  | _ => []

/-- The bytes of a text behind the groups of six bits that begin a four, and behind so much padding
in a row. A four that is neither full nor padded is a fault. -/
def decodeAfter (begun : List Nat) (padding : Nat) : List Char → Option (List UInt8)
  | [] => if begun.isEmpty then some [] else none
  | c :: cs =>
    if c = '=' then
      if begun.length < 2 then decodeAfter begun padding cs
      else if begun.length + padding < 3 then decodeAfter begun (padding + 1) cs
      else some (bytesOf begun)
    else
      match value? c with
      | none => decodeAfter begun padding cs
      | some v =>
        if begun.length = 3 then
          (decodeAfter [] 0 cs).map (bytesOf (begun ++ [v]) ++ ·)
        else decodeAfter (begun ++ [v]) 0 cs

def decode? (cs : List Char) : Option (List UInt8) := decodeAfter [] 0 cs

example : decode? ['T', 'W', 'F', 'u'] = some [77, 97, 110] := by decide

end Findings.Text.Base64
