import Scaffold.Script

/-!
# Worlds in which scripts run

A world holds all that a script can ask for and all that it can leave behind. It answers every
request, so a script run in a world gives an outcome and the world after it.

* `World.answer` is the answer to one request.
* `Script.run` runs a script to its end.
* `Script.run_bind` says that a script in two parts runs the second part in the world that the first
  one leaves.
-/

namespace Scaffold

structure World where
  disk : Disk := {}
  workingFolder : Path := ⟨.single, []⟩
  environment : List (String × String) := []
  /-- What is still to be read from the user. -/
  input : List Char := []
  output : String := ""
  complaints : String := ""
  records : List Log.Record := []
  /-- The lowest level of records that are kept, once it has been set. -/
  least : Option Log.Level := none
  /-- The commands launched so far, each as its words. -/
  launches : List (List String) := []
  /-- Why no command can be launched, if none can. -/
  launchFault : Option String := none
deriving Repr, Inhabited

namespace World

/-- The first line of a text without its end, and the rest; none when there is no text. -/
def firstLine (cs : List Char) : Option String × List Char :=
  if cs.isEmpty then (none, [])
  else (some (String.ofList (cs.takeWhile (· != '\n'))), (cs.dropWhile (· != '\n')).drop 1)

/-- The world with the disk that an operation gives, and how the operation went. -/
def changing (w : World) : Except Disk.Fault Disk → Except Disk.Fault Unit × World
  | .ok d => (.ok (), { w with disk := d })
  | .error f => (.error f, w)

def answer (w : World) : (r : Request) → r.Reply × World
  | .workingFolder => (w.workingFolder, w)
  | .entry p => (w.disk.entry? w.workingFolder p, w)
  | .read p => (w.disk.read w.workingFolder p, w)
  | .makeFolder p => w.changing (w.disk.makeFolder w.workingFolder p)
  | .write p contents => w.changing (w.disk.write w.workingFolder p contents)
  | .question prompt =>
    let (line, rest) := firstLine w.input
    (line, { w with input := rest, output := w.output ++ prompt })
  | .variable name => (w.environment.lookup name, w)
  | .launch words =>
    (match w.launchFault with
      | some text => .error text
      | none => .ok (),
      { w with launches := w.launches ++ [words] })
  | .print text => ((), { w with output := w.output ++ text })
  | .complain text => ((), { w with complaints := w.complaints ++ text })
  | .record r => ((), if r.isKept w.least then { w with records := w.records ++ [r] } else w)
  | .keepFrom level => ((), { w with least := some level })

end World

namespace Script

variable {α β : Type}

/-- The outcome of a script and the world it leaves. -/
def run : Script α → World → Except Failure α × World
  | .done a, w => (.ok a, w)
  | .fail e, w => (.error e, w)
  | .ask r next, w => run (next (w.answer r).1) (w.answer r).2

theorem run_bind (s : Script α) (f : α → Script β) (w : World) :
    (s.bind f).run w =
      match s.run w with
      | (.ok a, v) => (f a).run v
      | (.error e, v) => (.error e, v) := by
  induction s generalizing w with
  | done a => rfl
  | fail e => rfl
  | ask r next ih => simp only [bind, run, ih]

end Script

end Scaffold
