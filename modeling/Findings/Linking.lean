import Findings.Backlog
import Findings.Query
import Findings.Report.Stream
/-!
Linking: every defect of a document waits in a backlog, then each query claims the oldest defect
with its key. What came together, and what was left on either side, is the result.

The defects are all filed before the first query is read. Opening the document has happened before;
defects given out once do not come again.
-/

namespace Findings

/-- Queries, either at hand or read from lines. -/
inductive QuerySource where
  | list (queries : List Query)
  | stream (s : Query.Stream)

namespace QuerySource

structure Step where
  query : Except Decimal.Oversize (Option Query)
  source : QuerySource
  notices : List Notice := []

def next : QuerySource → Step
  | .list [] => { query := .ok none, source := .list [] }
  | .list (q :: rest) => { query := .ok (some q), source := .list rest }
  | .stream s =>
    let step := s.next
    { query := step.query, source := .stream step.stream, notices := step.notices }

def hasError : QuerySource → Bool
  | .list _ => false
  | .stream s => s.hasError

/-- How many queries can still come, at most. -/
def size : QuerySource → Nat
  | .list queries => queries.length
  | .stream s => s.lines.length

theorem size_next (s : QuerySource) (q : Query) (h : s.next.query = .ok (some q)) :
    s.next.source.size < s.size := by
  match s with
  | .list [] => simp [next] at h
  | .list (_ :: rest) => simp [next, size]
  | .stream s => exact Query.Stream.lines_nextIn s.name s.lineno s.hasError s.lines q h

end QuerySource

/-- The outcome of one run. -/
structure Linking where
  document : String
  matched : List (Query × Defect) := []
  unmatched : List Query := []
  unclaimed : List Defect := []
  scanProps : List (String × String) := []
  parseError : Bool := false
  queryError : Bool := false
  deriving DecidableEq, Repr

namespace Linking

/-- Nothing was wrong and nothing was left over. -/
def isClean (l : Linking) : Bool :=
  !(l.parseError || l.queryError || !l.unmatched.isEmpty || !l.unclaimed.isEmpty)

/-- Why a run has no outcome. -/
inductive Fault (ε : Type) where
  /-- The document yields nothing. -/
  | document (name : String) (fatal : Report.Fatal)
  | oversize (o : Decimal.Oversize)
  | filing (fault : FilingFault ε)
  | path (fault : ε)

variable {ε : Type}

def Fault.message (pathMessage : ε → String) : Fault ε → String
  | document name fatal => name ++ ": " ++ fatal.message
  | oversize o => o.message
  | filing fault => fault.message pathMessage
  | path fault => pathMessage fault

/-! ## Filing -/

/-- The backlog of all defects that a stream still gives, with the stream behind them. -/
structure Filed (ε : Type) where
  backlog : Except (Fault ε) Backlog
  stream : Report.Stream
  notices : List Notice := []

/-- Files the defects that come; a defect that cannot be filed is lost. -/
def file (normalize : Normalizer ε) (b : Backlog) (s : Report.Stream) : Filed ε :=
  let step := s.next
  match _h : step.defect with
  | .error o => { backlog := .error (.oversize o), stream := step.stream, notices := step.notices }
  | .ok none => { backlog := .ok b, stream := step.stream, notices := step.notices }
  | .ok (some d) =>
    match b.insert normalize d with
    | .error fault =>
      { backlog := .error (.filing fault), stream := step.stream, notices := step.notices }
    | .ok b =>
      let filed := file normalize b step.stream
      { filed with notices := step.notices ++ filed.notices }
  termination_by s.remaining
  decreasing_by exact s.remaining_next d _h

/-! ## Claiming -/

/-- Where the queries have come to. -/
structure Claims where
  matched : List (Query × Defect) := []
  unmatched : List Query := []
  backlog : Backlog
  queryError : Bool := false

structure Claimed (ε : Type) where
  claims : Except (Fault ε) Claims
  notices : List Notice := []

def unclaimable (document : String) (q : Query) : Notice :=
  ⟨.warning, document ++ ": warning: defect lookup failed, id = " ++ toString q.id⟩

/-- Lets each query claim a defect. -/
def claim (normalize : Normalizer ε) (document : String) (b : Backlog) (source : QuerySource) :
    Claimed ε :=
  let step := source.next
  match _h : step.query with
  | .error o => { claims := .error (.oversize o), notices := step.notices }
  | .ok none =>
    { claims := .ok { backlog := b, queryError := step.source.hasError }, notices := step.notices }
  | .ok (some q) =>
    match b.lookup normalize q.checker q.file with
    | .error fault => { claims := .error (.path fault), notices := step.notices }
    | .ok taken =>
      let rest := claim normalize document taken.backlog step.source
      match taken.defect with
      | some d =>
        { claims := rest.claims.map fun c => { c with matched := (q, d) :: c.matched }
          notices := step.notices ++ taken.notices ++ rest.notices }
      | none =>
        { claims := rest.claims.map fun c => { c with unmatched := q :: c.unmatched }
          notices := step.notices ++ taken.notices ++ unclaimable document q :: rest.notices }
  termination_by source.size
  decreasing_by exact source.size_next q _h

/-! ## A run -/

structure Run (ε : Type) where
  linking : Except (Fault ε) Linking
  stream : Report.Stream
  notices : List Notice := []

/-- Queries and defects do not add up. -/
def offset (document : String) (unclaimed : List Defect) : List Notice :=
  if unclaimed.isEmpty then []
  else [⟨.warning, document ++ ": error: offset detected (" ++ toString unclaimed.length ++
    " unclaimed defects)"⟩]

/-- Links the defects that the stream still has with the queries. -/
def run (normalize : Normalizer ε) (s : Report.Stream) (source : QuerySource) : Run ε :=
  let name := s.document.name
  match s.fatal with
  | some fatal => { linking := .error (.document name fatal), stream := s }
  | none =>
    let filed := file normalize {} s
    match filed.backlog with
    | .error fault => { linking := .error fault, stream := filed.stream, notices := filed.notices }
    | .ok b =>
      let claimed := claim normalize name b source
      match claimed.claims with
      | .error fault =>
        { linking := .error fault, stream := filed.stream
          notices := filed.notices ++ claimed.notices }
      | .ok c =>
        let unclaimed := c.backlog.drain.1
        { linking := .ok
            { document := name
              matched := c.matched
              unmatched := c.unmatched
              unclaimed
              scanProps := s.scanProps
              parseError := filed.stream.document.hasError
              queryError := c.queryError }
          stream := filed.stream
          notices := filed.notices ++ claimed.notices ++ offset name unclaimed }

end Linking

end Findings
