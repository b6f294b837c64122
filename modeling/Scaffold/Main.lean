import Scaffold.Command

/-!
# The program

Answers the requests of a run from the file system and the terminal. Commands are not launched
from here; a script that wants one is told so.
-/

namespace Scaffold

/-- The fault behind an error of the file system; other errors count as a missing file. -/
def Disk.Fault.ofError : IO.Error → Disk.Fault
  | .alreadyExists _ _ _ => .taken
  | .inappropriateType _ code _ => if code == 21 || code == 0 - 21 then .isFolder else .notFolder
  | _ => .missing

namespace Terminal

/-- How an action on the file system goes. -/
def tried {α : Type} (action : IO α) : IO (Except Disk.Fault α) := do
  try
    return .ok (← action)
  catch e => return .error (.ofError e)

def readFile (p : Path) : IO (Except Disk.Fault Bytes) :=
  tried do return (← IO.FS.readBinFile p.toString).toList

def entry (p : Path) : IO (Option Disk.Entry) := do
  match ← readFile p with
  | .ok contents => return some (.file contents)
  | .error .isFolder => return some .folder
  | .error _ => return none

def question (prompt : String) : IO (Option String) := do
  let output ← IO.getStdout
  output.putStr prompt
  output.flush
  let line ← (← IO.getStdin).getLine
  if line.isEmpty then return none
  return some (String.ofList (line.toList.takeWhile (· != '\n')))

/-- Answers a request; `least` is the lowest level of records that are shown. -/
def answer (least : Option Log.Level) : (r : Request) → IO r.Reply
  | .workingFolder => return Path.ofString (← IO.currentDir).toString
  | .entry p => entry p
  | .read p => readFile p
  | .makeFolder p => tried (IO.FS.createDir p.toString)
  | .write p contents => tried (IO.FS.writeBinFile p.toString ⟨contents.toArray⟩)
  | .question prompt => question prompt
  | .variable name => IO.getEnv name
  | .launch _ => return .error "commands cannot be launched here"
  | .print text => IO.print text
  | .complain text => IO.eprint text
  | .record r => do if r.isKept least then IO.eprintln s!"{r.level.name} - {r.message}"
  | .keepFrom _ => return ()

/-- Runs a script to its end. -/
def run {α : Type} (least : Option Log.Level) : Script α → IO (Except Failure α)
  | .done a => return .ok a
  | .fail e => return .error e
  | .ask (.keepFrom level) next => run (some level) (next ())
  | .ask r next => do run least (next (← answer least r))

end Terminal

end Scaffold

open Scaffold in
def main (arguments : List String) : IO UInt32 := do
  match ← Terminal.run none (Command.run arguments) with
  | .ok .returned => return 0
  | .ok (.stopped status) => return status.toUInt32
  | .error e =>
    IO.eprintln (e.message?.getD "the configuration keys have no common order")
    return 1
