import Warden.Report.Figures
import Warden.Text.Printable
import Warden.Text.Utf8

/-!
Failure reports: what failed, the flags in use, the figures of the host and the latest output of the
main program. A report is cleaned of what cannot be printed and capped in size.
-/

namespace Warden

structure FailureReport where
  cause : String
  flags : List String
  pid : Option Int
  figures : Figures
  output : String
  errors : String

namespace FailureReport

def orUnknown (words : Option String) : String :=
  words.getD "unknown"

def orMark (amount : Option Int) : String :=
  (amount.map toString).getD "?"

/-- The line that names the main program, which a process number of zero does not. -/
def pidLine : Option Int → String
  | none => ""
  | some pid => if pid = 0 then "" else s!"Main program PID: {pid}\n"

def text (report : FailureReport) : String :=
  let figures := report.figures
  "Failure: " ++ report.cause ++ "\n" ++
  "CLI flags: " ++ " ".intercalate report.flags ++ "\n" ++
  pidLine report.pid ++ "\n" ++
  "Clock: " ++ figures.clock ++ "\n" ++
  "Sys/prog uptime: " ++ orUnknown figures.systemUptime ++ " / " ++
    orUnknown figures.processUptime ++ "\n" ++
  "Total/used/prog mem: " ++ orMark figures.totalMemory ++ " / " ++ orMark figures.usedMemory ++
    " / " ++ orMark figures.processMemory ++ " MB\n" ++
  "Sys load: " ++ orUnknown figures.load ++ "\n" ++
  "Num CPU/threads: " ++ (figures.processors.map toString).getD "None" ++ " / " ++
    toString figures.threads ++ "\n\n" ++
  "Latest stdout: " ++ report.output ++ "\n\n" ++
  "Latest stderr: " ++ report.errors ++ "\n"

def cleanCharacter (character : Char) : Char :=
  if Text.isPrintable character || character == '\n' || character == '\t' then character else ' '

def clean (text : String) : String :=
  String.ofList (text.toList.map cleanCharacter)

/-- How many of `count` bytes a limit keeps: a negative one leaves that many off at the end. -/
def keptBytes (limit : Int) (count : Nat) : Nat :=
  if limit < 0 then (count + limit).toNat else limit.toNat

def lint (text : String) (limit : Int) : String :=
  let cleaned := clean text
  let bytes := Text.Utf8.encode cleaned
  if (bytes.length : Int) ≤ limit then cleaned
  else Text.Utf8.decodeSkipping (bytes.take (keptBytes limit bytes.length))

end FailureReport

end Warden
