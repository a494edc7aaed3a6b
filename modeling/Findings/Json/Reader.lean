import Findings.Decimal.Integer
import Findings.Json.Value
import Findings.Text.Point
/-!
Reading a JSON text. Each reader takes the characters ahead and gives a value and the characters
left; a fault keeps the characters left at the place it speaks of, which tells its position.

Besides the standard's grammar, `NaN` and the two infinities are numbers. Containers may nest as
deep as the stack allows, which is a parameter, and whole numbers have `Decimal.maxDigits` digits at
most.
-/

namespace Findings.Json

/-- Why a text is not JSON. -/
inductive Cause where
  | byteOrderMark
  | value
  | key
  | colon
  | comma
  | extra
  | unterminated
  | control
  | escape
  | unicodeEscape
  | nesting
  | oversize (o : Decimal.Oversize)
  deriving DecidableEq, Repr

def Cause.message : Cause → String
  | byteOrderMark => "Unexpected UTF-8 BOM (decode using utf-8-sig)"
  | value => "Expecting value"
  | key => "Expecting property name enclosed in double quotes"
  | colon => "Expecting \x27:\x27 delimiter"
  | comma => "Expecting \x27,\x27 delimiter"
  | extra => "Extra data"
  | unterminated => "Unterminated string starting at"
  | control => "Invalid control character at"
  | escape => "Invalid \\escape"
  | unicodeEscape => "Invalid \\uXXXX escape"
  | nesting => "JSON document is nested too deeply"
  | oversize o => o.message

namespace Reader

/-- Where a fault is: at the beginning of `rest`. -/
structure Fault where
  cause : Cause
  rest : List Char

def isSpace (c : Char) : Bool := c = ' ' || c = '\t' || c = '\n' || c = '\r'

def skipSpace (cs : List Char) : List Char := cs.dropWhile isSpace

/-! ## Strings -/

/-- Four hexadecimal digits, with at least one more character behind them. -/
def hex4 : List Char → Option (Nat × List Char)
  | a :: b :: c :: d :: e :: rest => (Text.Hex.number? [a, b, c, d]).map (·, e :: rest)
  | _ => none

def joined (high low : Nat) : Char :=
  Char.ofNat (0x10000 + (high - 0xD800) * 0x400 + (low - 0xDC00))

/-- The point of an escape from its letter `u` on, and how many characters behind the letter belong
to it. Two escapes may form one character; the second half is looked at only if something follows
it. A half without the other one stays what it is. -/
def unicodeEscape (fromU : List Char) : Except Fault (Text.Point × Nat) :=
  match hex4 (fromU.drop 1) with
  | none => .error ⟨.unicodeEscape, fromU⟩
  | some (high, rest) =>
    if 0xD800 ≤ high ∧ high < 0xDC00 then
      match rest with
      | '\\' :: 'u' :: _ :: _ :: _ :: _ :: _ :: _ =>
        match hex4 (rest.drop 2) with
        | none => .error ⟨.unicodeEscape, rest.drop 1⟩
        | some (low, _) =>
          if 0xDC00 ≤ low ∧ low < 0xE000 then .ok (.char (joined high low), 10)
          else .ok (.ofCode high, 4)
      | _ => .ok (.ofCode high, 4)
    else .ok (.ofCode high, 4)

/-- What a backslash and this letter stand for. -/
def shortEscape : Char → Option Char
  | '"' => some '"'
  | '\\' => some '\\'
  | '/' => some '/'
  | 'b' => some '\x08'
  | 'f' => some '\x0c'
  | 'n' => some '\n'
  | 'r' => some '\r'
  | 't' => some '\t'
  | _ => none

/-- The inside of a string up to and with its closing quote; `fromQuote` begins at the opening one,
`acc` holds the characters read so far, the last one first, and so many of those ahead are spent. -/
def inside (fromQuote : List Char) :
    Nat → List Char → List Char → Except Fault (String × List Char)
  | _, _, [] => .error ⟨.unterminated, fromQuote⟩
  | spent + 1, acc, _ :: rest => inside fromQuote spent acc rest
  | 0, acc, '"' :: rest => .ok (String.ofList acc.reverse, rest)
  | 0, _, ['\\'] => .error ⟨.unterminated, fromQuote⟩
  | 0, acc, '\\' :: c :: rest =>
    if c = 'u' then
      match unicodeEscape (c :: rest) with
      | .ok (p, length) => inside fromQuote length (p.chars.reverse ++ acc) rest
      | .error e => .error e
    else
      match shortEscape c with
      | some d => inside fromQuote 0 (d :: acc) rest
      | none => .error ⟨.escape, '\\' :: c :: rest⟩
  | 0, acc, c :: rest =>
    if c.toNat < 0x20 then .error ⟨.control, c :: rest⟩ else inside fromQuote 0 (c :: acc) rest

/-- A string from its opening quote on. -/
def string (fromQuote : List Char) : Except Fault (String × List Char) :=
  inside fromQuote 0 [] (fromQuote.drop 1)

/-! ## Numbers -/

/-- The digits of a fraction; a point without digits belongs to what follows the number. -/
def fraction : List Char → Option (List Char × List Char)
  | '.' :: rest =>
    let ds := rest.takeWhile Char.isDigit
    if ds.isEmpty then none else some (ds, rest.dropWhile Char.isDigit)
  | _ => none

/-- The value of an exponent; without digits it belongs to what follows the number. -/
def exponent : List Char → Option (Int × List Char)
  | c :: rest =>
    if c = 'e' ∨ c = 'E' then
      let (negative, ds) := match rest with
        | '-' :: ds => (true, ds)
        | '+' :: ds => (false, ds)
        | ds => (false, ds)
      let digits := ds.takeWhile Char.isDigit
      if digits.isEmpty then none
      else
        let n : Int := Nat.ofDigitChars 10 digits 0
        some (if negative then -n else n, ds.dropWhile Char.isDigit)
    else none
  | [] => none

/-- The digits before the point: a single zero, or no leading zero. -/
def whole : List Char → Option (List Char × List Char)
  | '0' :: rest => some (['0'], rest)
  | cs =>
    let ds := cs.takeWhile Char.isDigit
    if ds.isEmpty then none else some (ds, cs.dropWhile Char.isDigit)

/-- A number without its sign; `start` begins with the sign, if there is one. -/
def number (start : List Char) (negative : Bool) (cs : List Char) :
    Except Fault (Value × List Char) :=
  match whole cs with
  | none => .error ⟨.value, start⟩
  | some (ds, rest) =>
    let fracPart := fraction rest
    let (fs, rest₁) := fracPart.getD ([], rest)
    let expPart := exponent rest₁
    let (e, rest₂) := expPart.getD (0, rest₁)
    if fracPart.isNone && expPart.isNone then
      match Decimal.natural ds with
      | .ok n => .ok (.int (if negative then -(n : Int) else n), rest₂)
      | .error o => .error ⟨.oversize o, start⟩
    else
      .ok (.real (Decimal.Binary64.ofDecimal negative (Nat.ofDigitChars 10 (ds ++ fs) 0)
        (e - fs.length)), rest₂)

/-! ## Values -/

/-- What is left behind the word, if the text begins with it. -/
def after? : List Char → List Char → Option (List Char)
  | [], cs => some cs
  | _ :: _, [] => none
  | w :: ws, c :: cs => if w = c then after? ws cs else none

/-- Words that are values by themselves. -/
def words : List (String × Value) :=
  [("null", .null), ("true", .bool true), ("false", .bool false), ("NaN", .real .nan),
   ("Infinity", .real (.infinite false)), ("-Infinity", .real (.infinite true))]

def word (cs : List Char) : Option (Value × List Char) :=
  words.findSome? fun (w, v) => (after? w.toList cs).map (v, ·)

/-- Strings, numbers and words. -/
def scalar (cs : List Char) : Except Fault (Value × List Char) :=
  match cs with
  | '"' :: _ => (string cs).map fun (s, rest) => (.text s, rest)
  | _ =>
    match word cs with
    | some r => .ok r
    | none =>
      match cs with
      | '-' :: rest => number cs true rest
      | _ => number cs false cs

/-- A reader of one value. -/
abbrev ValueReader := List Char → Except Fault (Value × List Char)

/-- The items of an array from the first one on, up to and with the closing bracket. -/
def items (read : ValueReader) : Nat → List Value → ValueReader
  | 0, _, cs => .error ⟨.value, cs⟩
  | fuel + 1, acc, cs =>
    match read cs with
    | .error e => .error e
    | .ok (v, rest) =>
      match skipSpace rest with
      | ']' :: rest' => .ok (.array (v :: acc).reverse, rest')
      | ',' :: rest' => items read fuel (v :: acc) (skipSpace rest')
      | other => .error ⟨.comma, other⟩

/-- The fields of an object from the first name on, up to and with the closing brace. A repeated
name keeps its place and takes the later value. -/
def fields (read : ValueReader) : Nat → List (String × Value) → ValueReader
  | 0, _, cs => .error ⟨.key, cs⟩
  | fuel + 1, acc, cs =>
    match cs with
    | '"' :: _ =>
      match string cs with
      | .error e => .error e
      | .ok (key, rest) =>
        match skipSpace rest with
        | ':' :: rest₁ =>
          match read (skipSpace rest₁) with
          | .error e => .error e
          | .ok (v, rest₂) =>
            match skipSpace rest₂ with
            | '\x7d' :: rest₃ => .ok (.object (Assoc.put key v acc), rest₃)
            | ',' :: rest₃ => fields read fuel (Assoc.put key v acc) (skipSpace rest₃)
            | other => .error ⟨.comma, other⟩
        | other => .error ⟨.colon, other⟩
    | _ => .error ⟨.key, cs⟩

/-- A value whose containers nest at most `depth` deep, in a text of `size` characters. -/
def value (size : Nat) : Nat → ValueReader
  | 0, cs =>
    match cs with
    | '[' :: _ | '\x7b' :: _ => .error ⟨.nesting, cs⟩
    | _ => scalar cs
  | depth + 1, cs =>
    match cs with
    | '[' :: rest =>
      match skipSpace rest with
      | ']' :: rest' => .ok (.array [], rest')
      | first => items (value size depth) size [] first
    | '\x7b' :: rest =>
      match skipSpace rest with
      | '\x7d' :: rest' => .ok (.object [], rest')
      | first => fields (value size depth) size [] first
    | _ => scalar cs

/-- A whole text whose containers nest at most `depth` deep. -/
def text (depth : Nat) (cs : List Char) : Except Fault Value :=
  match cs with
  | '\uFEFF' :: _ => .error ⟨.byteOrderMark, cs⟩
  | _ =>
    match value cs.length depth (skipSpace cs) with
    | .error e => .error e
    | .ok (v, rest) =>
      match skipSpace rest with
      | [] => .ok v
      | more => .error ⟨.extra, more⟩

end Reader

/-- Where a text stopped being JSON, in characters from its start. -/
structure ReadError where
  cause : Cause
  position : Nat
  deriving DecidableEq, Repr

/-- Reads a whole text whose containers nest at most `depth` deep. -/
def read (depth : Nat) (s : String) : Except ReadError Value :=
  let cs := s.toList
  match Reader.text depth cs with
  | .ok v => .ok v
  | .error e => .error ⟨e.cause, cs.length - e.rest.length⟩

namespace ReadError

def before (s : String) (e : ReadError) : List Char := s.toList.take e.position

/-- Lines are counted from one. -/
def line (s : String) (e : ReadError) : Nat := (e.before s).count '\n' + 1

def column (s : String) (e : ReadError) : Nat :=
  ((e.before s).reverse.takeWhile (· ≠ '\n')).length + 1

/-- The message with the place it speaks of. -/
def located (s : String) (e : ReadError) : String :=
  e.cause.message ++ ": line " ++ toString (e.line s) ++ " column " ++ toString (e.column s) ++
    " (char " ++ toString e.position ++ ")"

end ReadError

end Findings.Json
