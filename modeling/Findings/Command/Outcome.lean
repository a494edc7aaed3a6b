import Findings.Console.Writer
import Findings.Linking
import Findings.RuleFile
import Findings.Settings
/-!
What a run of the program leaves behind: an exit code, what it wrote, its notices, and the fault
that ended it, if no command handles that one.

A command prints one thing after another, some on standard output and the rest beside it. The first
that cannot be shown or written ends the run; what was printed before stays.
-/

namespace Findings.Command

/-- A fault that no command handles. -/
inductive Escape where
  | settings (fault : Settings.Fault)
  | embeddedNul
  | ruleFile (fault : RuleFile.Fault)
  | report (fault : Report.Stream.Escape)
  | linking (fault : Linking.Fault Pattern.Fault)
  | text (fault : Text.Utf8.Fault)
  | console (fault : Console.Fault)
  /-- Standard output does not take the text; the console has some advice. -/
  | unwritable (fault : Text.Utf8.Unwritable) (advice : String)

def Escape.message : Escape → String
  | settings fault => fault.message
  | embeddedNul => OpenFault.message .embeddedNul
  | ruleFile fault => fault.message
  | report fault => fault.message
  | linking fault => fault.message Pattern.Fault.message
  | text fault => fault.message
  | console fault => fault.message
  | unwritable fault advice => fault.message ++ advice

inductive Channel where
  | output
  | messages
  deriving DecidableEq, Repr

/-- What is to be printed, if the console can show it. -/
structure Print where
  channel : Channel
  shown : Except Console.Fault String

namespace Print

open Console (Writer)

def message (w : Writer) (markup : String) : Print := ⟨.messages, w.print markup⟩

def output (w : Writer) (markup : String) : Print := ⟨.output, w.print markup⟩

/-- What is written. Standard output has no bytes for halves of surrogate pairs, messages show their
codes. -/
def written (advice : String) (p : Print) : Except Escape String :=
  match p.shown with
  | .error fault => .error (.console fault)
  | .ok text =>
    match p.channel with
    | .messages => .ok (String.ofList (Text.backslashed text.toList))
    | .output =>
      match Text.Utf8.unwritable? text with
      | some fault => .error (.unwritable fault advice)
      | none => .ok text

end Print

structure Outcome where
  exitCode : Nat := 0
  stdout : String := ""
  stderr : String := ""
  notices : List Notice := []
  escape : Option Escape := none

namespace Outcome

def ofEscape (e : Escape) : Outcome := { exitCode := 1, escape := some e }

/-- The outcome with a text before all others on a channel. -/
def prepend (o : Outcome) (channel : Channel) (text : String) : Outcome :=
  match channel with
  | .output => { o with stdout := text ++ o.stdout }
  | .messages => { o with stderr := text ++ o.stderr }

/-- Prints one thing after another and goes on to the outcome `o`, unless one cannot be printed. -/
def printing (advice : String) (o : Outcome) : List Print → Outcome
  | [] => o
  | p :: ps =>
    match p.written advice with
    | .error escape => .ofEscape escape
    | .ok text => (printing advice o ps).prepend p.channel text

/-- The outcome behind some notices. -/
def behind (notices : List Notice) (o : Outcome) : Outcome :=
  { o with notices := notices ++ o.notices }

end Outcome

end Findings.Command
