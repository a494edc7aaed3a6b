import Findings.Text.Point
import Findings.Text.Printable
/-!
Texts as messages show them: in single quotes, or in double quotes when the text has single quotes
only, with a backslash before the quote and the backslash, and escapes for what is not printable.
Bytes show like the characters of ASCII, with a letter in front; others are escaped.
-/

namespace Findings.Text

namespace Quoted

def single : Char := '\x27'

/-- A single quote is kept bare by choosing double quotes, unless both kinds occur. -/
def delimiter (cs : List Char) : Char :=
  if cs.contains single && !cs.contains '"' then '"' else single

def escapeChar (quote c : Char) : List Char :=
  if c = quote ∨ c = '\\' then ['\\', c]
  else if c = '\t' then ['\\', 't']
  else if c = '\n' then ['\\', 'n']
  else if c = '\r' then ['\\', 'r']
  else if isPrintable c then [c]
  else if c.toNat < 0x100 then '\\' :: 'x' :: Hex.digits 2 c.toNat
  else if c.toNat < 0x10000 then '\\' :: 'u' :: Hex.digits 4 c.toNat
  else '\\' :: 'U' :: Hex.digits 8 c.toNat

/-- A half of a surrogate pair is never printable. -/
def escape (quote : Char) : Point → List Char
  | .char c => escapeChar quote c
  | p => '\\' :: 'u' :: Hex.digits 4 p.code

def ofChars (cs : List Char) : List Char :=
  let quote := delimiter cs
  quote :: (points cs).flatMap (escape quote) ++ [quote]

end Quoted

/-- The text in quotes. -/
def quoted (s : String) : String := String.ofList (Quoted.ofChars s.toList)

namespace Quoted

def escapeByte (quote : Char) (b : UInt8) : List Char :=
  if b < 127 then escapeChar quote (Char.ofNat b.toNat) else '\\' :: 'x' :: Hex.digits 2 b.toNat

def ofBytes (bs : List UInt8) : List Char :=
  let quote := delimiter (bs.map fun b => Char.ofNat b.toNat)
  'b' :: quote :: bs.flatMap (escapeByte quote) ++ [quote]

end Quoted

/-- Bytes in quotes. -/
def quotedBytes (bs : List UInt8) : String := String.ofList (Quoted.ofBytes bs)

end Findings.Text
