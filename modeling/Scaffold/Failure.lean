import Scaffold.Disk
import Scaffold.Json
import Scaffold.ShellWords
import Scaffold.Yaml.Fault

/-!
# What can stop a run

A step of the generation that cannot be carried out is an obstacle, with a code that says which
step it was. Everything else that stops a run lies in its input: a file of another language, a
setting of the wrong type, a text that cannot be read.
-/

namespace Scaffold

namespace Obstacle

inductive Code where
  | unknown
  /-- The folder for tests cannot be made. -/
  | folder
  /-- There is a test file already, which is to be kept. -/
  | fileExists
deriving Repr, DecidableEq, Inhabited

/-- What an obstacle goes back to. -/
inductive Cause where
  | disk (f : Disk.Fault)
  /-- The configuration is no document. The message ends where it would be said why. -/
  | malformedConfiguration
  | launch
deriving Repr, DecidableEq, Inhabited

end Obstacle

structure Obstacle where
  code : Obstacle.Code
  message : String
  cause : Option Obstacle.Cause := none
deriving Repr, DecidableEq, Inhabited

/-- An obstacle that is no error: the user has already been asked about it. -/
def Obstacle.isExpected (o : Obstacle) : Bool :=
  o.code == .fileExists

inductive Failure where
  | obstacle (o : Obstacle)
  | unsupported (language : String)
  | undecodable (f : Text.Utf8.Fault)
  /-- A path with a name that no file can have, or a command with a word that no program can be
  given. -/
  | badName
  | notAPath (e : NotAPath)
  /-- A value of this type where a command is needed. -/
  | notACommand (typeName : String)
  | command (f : ShellWords.Fault)
  | configuration (f : Yaml.Fault)
  | unorderable (e : Value.Unorderable)
  | json (f : Json.Fault)
deriving Repr, DecidableEq, Inhabited

namespace Failure

/-- What is said of a failure; of keys without an order nothing more is said. -/
def message? : Failure → Option String
  | .obstacle o => some o.message
  | .unsupported language => some (Language.rejection language)
  | .undecodable f => some f.message
  | .badName => some "embedded null byte"
  | .notAPath e => some e.message
  | .notACommand typeName => some s!"'{typeName}' object has no attribute 'read'"
  | .command f => some f.message
  | .configuration f => some f.message
  | .unorderable .types => none
  | .unorderable .dateAndTime => some "can't compare datetime.datetime to datetime.date"
  | .unorderable .timeZones => some "can't compare offset-naive and offset-aware datetimes"
  | .json f => some f.message

end Failure

end Scaffold
