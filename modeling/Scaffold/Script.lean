import Scaffold.Failure
import Scaffold.Log

/-!
# Scripts

A script is a run written down before it happens: it asks its surroundings for one thing after
another and ends with a result or a failure. What the surroundings do is left open here; the
module on worlds answers every request by a function.

* `Script.bind_assoc` and its companions say that scripts can be put one after another.
-/

namespace Scaffold

/-- What a script may ask of its surroundings. -/
inductive Request where
  | workingFolder
  | entry (p : Path)
  | read (p : Path)
  | makeFolder (p : Path)
  | write (p : Path) (contents : Bytes)
  /-- Shows the prompt and reads a line. -/
  | question (prompt : String)
  | variable (name : String)
  | launch (words : List String)
  | print (text : String)
  | complain (text : String)
  | record (r : Log.Record)
  /-- From now on records below a level are dropped. -/
  | keepFrom (level : Log.Level)
deriving Repr, DecidableEq, Inhabited

/-- The type of the answer to a request. -/
abbrev Request.Reply : Request → Type
  | .workingFolder => Path
  | .entry _ => Option Disk.Entry
  | .read _ => Except Disk.Fault Bytes
  | .makeFolder _ => Except Disk.Fault Unit
  | .write _ _ => Except Disk.Fault Unit
  | .question _ => Option String
  | .variable _ => Option String
  | .launch _ => Except String Unit
  | .print _ => Unit
  | .complain _ => Unit
  | .record _ => Unit
  | .keepFrom _ => Unit

inductive Script (α : Type) where
  | done (a : α)
  | fail (e : Failure)
  | ask (r : Request) (next : r.Reply → Script α)

namespace Script

variable {α β γ : Type}

def bind : Script α → (α → Script β) → Script β
  | .done a, f => f a
  | .fail e, _ => .fail e
  | .ask r next, f => .ask r fun reply => (next reply).bind f

instance : Monad Script where
  pure := .done
  bind := bind

/-- Runs another script in place of a failure. -/
def rescue : Script α → (Failure → Script α) → Script α
  | .done a, _ => .done a
  | .fail e, handler => handler e
  | .ask r next, handler => .ask r fun reply => (next reply).rescue handler

/-- One request and its answer. -/
def request (r : Request) : Script r.Reply :=
  .ask r .done

/-- A result that is there already, or a failure. -/
def ofExcept {ε : Type} (wrap : ε → Failure) : Except ε α → Script α
  | .ok a => .done a
  | .error e => .fail (wrap e)

@[simp]
theorem bind_done (s : Script α) : s.bind .done = s := by
  induction s with
  | done a => rfl
  | fail e => rfl
  | ask r next ih => simp [bind, ih]

theorem bind_assoc (s : Script α) (f : α → Script β) (g : β → Script γ) :
    (s.bind f).bind g = s.bind fun a => (f a).bind g := by
  induction s with
  | done a => rfl
  | fail e => rfl
  | ask r next ih => simp [bind, ih]

/-! ### Requests by name -/

def log (level : Log.Level) (topic : Log.Topic) (message : String) : Script Unit :=
  request (.record ⟨level, topic, message⟩)

/-- No file can have a name with the character that ends names. -/
def isUsable (p : Path) : Bool :=
  p.names.all fun name => !name.toList.contains '\x00'

/-- What a path leads to, if anything. -/
def entry? (p : Path) : Script (Option Disk.Entry) :=
  if isUsable p then request (.entry p) else return none

def present (p : Path) : Script Bool :=
  return (← entry? p).isSome

def isFolder (p : Path) : Script Bool :=
  return (← entry? p) == some .folder

def isFile (p : Path) : Script Bool := do
  match ← entry? p with
  | some (.file _) => return true
  | _ => return false

def read (p : Path) : Script (Except Disk.Fault Bytes) :=
  if isUsable p then request (.read p) else fail .badName

def makeFolder (p : Path) : Script (Except Disk.Fault Unit) :=
  if isUsable p then request (.makeFolder p) else fail .badName

def write (p : Path) (contents : Bytes) : Script (Except Disk.Fault Unit) :=
  if isUsable p then request (.write p contents) else fail .badName

end Script

end Scaffold
