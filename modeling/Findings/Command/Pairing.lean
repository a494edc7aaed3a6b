import Findings.Command.Runtime
/-!
The text of a linking: defects with the identifiers they got, then queries that got no defect, then
defects that no query claimed. Addresses and checkers are escaped each on its own, but an address
and what is behind it can make up a tag; so a heading may have a fault.
-/

namespace Findings.Command

open Console (Writer styled)

namespace Pairing

section Printing

variable (w : Writer)

def heading (a : Addresses) (checker : String) (id : Int) : Print :=
  .output w ("Error: " ++ styled "bold" (w.escape checker) ++ " (id " ++ toString id ++ ")" ++
    (if a.defect.isEmpty then "" else " " ++ w.escape a.defect ++ toString id) ++
    (if a.checker.isEmpty then "" else " " ++ w.escape a.checker ++ w.escape checker))

def blankLine : Print := .output w ""

def trace (d : Defect) : List Print :=
  d.trace.map (fun e => .output w (w.escape e.listing)) ++ [blankLine w]

def matched (a : Addresses) (p : Query × Defect) : List Print :=
  heading w a p.2.checker p.1.id :: trace w p.2

def unmatched (a : Addresses) (q : Query) : List Print :=
  heading w a q.checker q.id ::
    (if q.file.isEmpty then []
      else [.output w (w.escape q.file ++ ": " ++ styled "italic" "no more details available")]) ++
    [blankLine w]

def unclaimed (d : Defect) : List Print :=
  .output w ("Error: " ++ styled "bold" (w.escape d.checker)) :: trace w d

/-- A section shows only if there is something in it. -/
def titled {α : Type} (title : String) (spell : α → List Print) : List α → List Print
  | [] => []
  | items => ⟨.output, w.rule title⟩ :: items.flatMap spell

def summary (matched unmatched unclaimed : Nat) : String :=
  "Linked " ++ toString matched ++ " defect(s), " ++ toString unmatched ++ " unmatched ID(s), " ++
    toString unclaimed ++ " unclaimed defect(s)"

/-- The linking, and how many there are of each kind. -/
def prints (a : Addresses) (l : Linking) : List Print :=
  l.matched.flatMap (matched w a) ++
    titled w "Defects available only by ID" (unmatched w a) l.unmatched ++
    titled w "Defects without an ID" (unclaimed w) l.unclaimed ++
    [.message w (summary l.matched.length l.unmatched.length l.unclaimed.length)]

end Printing

/-- Only a clean linking is a success. -/
def exitCode (l : Linking) : Nat := if l.isClean then 0 else 1

end Pairing

/-- The lines that can be read before the bytes stop being text. Bytes that are missing at the end
cost their own line only; a wrong byte costs all of them. -/
def linesBefore (fault : Text.Utf8.Fault) : List String :=
  match fault.cause with
  | .truncated =>
    let cs := match fault.before.reverse with
      | '\r' :: cs => cs.reverse
      | _ => fault.before
    (Query.splitLines (textOfChars cs)).filter (·.endsWith "\n")
  | _ => []

/-- The fault of bytes that are read as they come: at the end only the begun character is left. -/
def atEnd (fault : Text.Utf8.Fault) : Text.Utf8.Fault :=
  match fault.cause with
  | .truncated => { fault with start := 0 }
  | _ => fault

/-- The run of a linking whose queries stop being text. -/
def breakOff (normalize : Normalizer Pattern.Fault) (s : Report.Stream) (source : QuerySource)
    (fault : Text.Utf8.Fault) : Escape × List Notice :=
  let filed := Linking.file normalize {} s
  match filed.backlog with
  | .error fault => (.linking fault, filed.notices)
  | .ok b =>
    let claimed := Linking.claim normalize s.document.name b source
    let notices := filed.notices ++ claimed.notices
    match claimed.claims with
    | .error fault => (.linking fault, notices)
    | .ok _ => (.text (atEnd fault), notices)

/-- Links what a stream gives with the queries in some bytes, after the notices of its opening. -/
def link (w : Writer) (normalize : Normalizer Pattern.Fault) (a : Addresses) (name : String)
    (queries : List UInt8) (s : Report.Stream) (opening : List Notice) : Outcome :=
  .behind opening <|
    match textOf queries with
    | .error fault =>
      let source := QuerySource.stream { lines := linesBefore fault, name }
      let (escape, notices) := breakOff normalize s source fault
      { Outcome.ofEscape escape with notices }
    | .ok text =>
      let run := Linking.run normalize s (.stream { lines := Query.splitLines text, name })
      .behind run.notices <|
        match run.linking with
        | .error fault => .ofEscape (.linking fault)
        | .ok l => .printing w.advice { exitCode := Pairing.exitCode l } (Pairing.prints w a l)

end Findings.Command
