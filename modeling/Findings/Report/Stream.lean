import Findings.Document
import Findings.Json.Reader
import Findings.Report.Cursor
/-!
The defects of one document, read one at a time. Opening a document parses it whole, settles its
format and reads what it says about the scan; each later step decodes as many records as it takes to
reach a defect. Malformed records mark the document and are passed over.
-/

namespace Findings.Report

/-- Why a document yields no defect at all. -/
inductive Fatal where
  | notJson (cause : Json.Cause) (line : Nat)
  | noFormat (fault : FormatFault)
  deriving DecidableEq, Repr

namespace Fatal

def message : Fatal → String
  | notJson cause _ => cause.message
  | noFormat fault => fault.message

/-- The line to report, zero for none: too deep a nesting has no place in the text. -/
def line : Fatal → Int
  | notJson .nesting _ => 0
  | notJson _ line => line
  | noFormat _ => 0

end Fatal

structure Stream where
  document : Document
  rules : List Cleanup.Rule
  kind : Option Kind := none
  /-- No cursor means that no defect will come. -/
  cursor : Option (Kind × Cursor) := none
  scanProps : List (String × String) := []
  fatal : Option Fatal := none
  /-- How many defects were given so far. -/
  count : Nat := 0

namespace Stream

/-- The stream of a document that yields nothing. -/
def broken (d : Document) (rules : List Cleanup.Rule) (fatal : Fatal) : Stream × List Notice :=
  let (document, notices) := d.fail fatal.message fatal.line
  ({ document, rules, fatal := some fatal }, notices)

/-- The stream of a document whose format is known, with what it says about the scan. -/
def live (d : Document) (rules : List Cleanup.Rule) (kind : Kind) (cursor : Cursor)
    (scan : Except RecordFault (List (String × String))) : Stream × List Notice :=
  let stream : Stream := { document := d, rules, kind := some kind, cursor := some (kind, cursor) }
  match scan with
  | .ok scanProps => ({ stream with scanProps }, [])
  | .error fault =>
    let (document, notices) := d.failPart ("failed to read scan properties: " ++ fault.message)
    ({ stream with document }, notices)

/-- The stream of a parsed document, in which values may nest `depth` deep if they are written. -/
def ofRoot (depth : Nat) (d : Document) (rules : List Cleanup.Rule) (root : Json.Value) :
    Except Json.WriteFault (Stream × List Notice) :=
  if root.isEmpty then
    .ok ({ document := d, rules }, [⟨.debug, d.name ++ ": empty document"⟩])
  else
    match Kind.detect root with
    | .error fault => .ok (broken d rules (.noFormat fault))
    | .ok kind =>
      match Cursor.start kind root with
      | .error fault => .ok (broken d rules (.noFormat fault))
      | .ok cursor => (kind.scanProps depth root).map (live d rules kind cursor)

/-- What escapes from the opening of a document; it is nobody's to handle. -/
inductive Escape where
  /-- A whole number is too long to be read. -/
  | oversize (o : Decimal.Oversize)
  /-- What is said about the scan cannot be written. -/
  | unwritten (fault : Json.WriteFault)
  deriving DecidableEq, Repr

def Escape.message : Escape → String
  | oversize o => o.message
  | unwritten fault => fault.message

/-- Opens a document. -/
def ofDocument (depths : Json.Depths) (d : Document) (rules : List Cleanup.Rule) :
    Except Escape (Stream × List Notice) :=
  match Json.read depths.read d.text with
  | .ok root => (ofRoot depths.written d rules root).mapError .unwritten
  | .error e =>
    match e.cause with
    | .oversize o => .error (.oversize o)
    | cause => .ok (broken d rules (.notJson cause (e.line d.text)))

/-- A defect, none at the end, with the stream behind it. -/
structure Step where
  defect : Except Decimal.Oversize (Option Defect)
  stream : Stream
  notices : List Notice := []

def complain (s : Stream) (o : Outcome) (fault : RecordFault) : Stream × List Notice :=
  let (document, notices) :=
    s.document.failPart ("failed to read defect #" ++ toString o.index ++ ": " ++ fault.message)
  ({ s with document }, notices)

/-- Goes on from the cursor to the next defect. -/
def advance (s : Stream) (kind : Kind) (c : Cursor) : Step :=
  let read := c.read kind s.rules
  let s := { s with cursor := some (kind, read.cursor) }
  match _h : read.outcome with
  | .error o => { defect := .error o, stream := s, notices := read.notices }
  | .ok none => { defect := .ok none, stream := s, notices := read.notices }
  | .ok (some outcome) =>
    match outcome.status with
    | .decoded d =>
      { defect := .ok (some d), stream := { s with count := s.count + 1 }, notices := read.notices }
    | .rejected =>
      let step := advance s kind read.cursor
      { step with notices := read.notices ++ step.notices }
    | .failed fault =>
      let (s, complaint) := s.complain outcome fault
      let step := advance s kind read.cursor
      { step with notices := read.notices ++ complaint ++ step.notices }
  termination_by c.remaining
  decreasing_by all_goals exact Cursor.remaining_read kind _ c outcome _h

/-- The next defect of the document. -/
def next (s : Stream) : Step :=
  match s.cursor with
  | none => { defect := .ok none, stream := s }
  | some (kind, c) => s.advance kind c

/-! ## How much is left -/

/-- How many records can still come, at most. -/
def remaining (s : Stream) : Nat :=
  match s.cursor with
  | some (_, c) => c.remaining
  | none => 0

theorem remaining_advance (s : Stream) (kind : Kind) (c : Cursor) (d : Defect)
    (h : (s.advance kind c).defect = .ok (some d)) :
    (s.advance kind c).stream.remaining < c.remaining := by
  fun_induction advance s kind c with
  | case1 => simp at h
  | case2 => simp at h
  | case3 s c read s' outcome ho => exact c.remaining_read kind s.rules outcome ho
  | case4 s c read s' outcome ho _ _ ih =>
    exact Nat.lt_trans (ih h) (c.remaining_read kind s.rules outcome ho)
  | case5 s c read s' outcome ho _ _ _ _ _ _ ih =>
    exact Nat.lt_trans (ih h) (c.remaining_read kind s.rules outcome ho)

theorem remaining_next (s : Stream) (d : Defect) (h : s.next.defect = .ok (some d)) :
    s.next.stream.remaining < s.remaining := by
  unfold next at h ⊢
  split at h
  · simp at h
  · next kind c hc =>
    simpa [hc, remaining] using s.remaining_advance kind c d h

end Stream

/-! ## All at once -/

/-- Defects in the order in which they came, with the stream behind them. -/
structure Gathering where
  defects : Except Decimal.Oversize (List Defect)
  stream : Stream
  notices : List Notice := []

/-- Reads on to the end; a number too long to be read loses the defects before it, too. -/
def Stream.gather (s : Stream) : Gathering :=
  let step := s.next
  match _h : step.defect with
  | .error o => { defects := .error o, stream := step.stream, notices := step.notices }
  | .ok none => { defects := .ok [], stream := step.stream, notices := step.notices }
  | .ok (some d) =>
    let rest := gather step.stream
    { rest with defects := rest.defects.map (d :: ·), notices := step.notices ++ rest.notices }
  termination_by s.remaining
  decreasing_by exact s.remaining_next d _h

end Findings.Report
