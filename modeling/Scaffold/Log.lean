/-!
# Records of what a run does

A record has a level, a topic and a message. A reader of records sets the lowest level to be kept.
-/

namespace Scaffold.Log

inductive Level where
  | debug
  | info
  | warning
  | error
deriving Repr, DecidableEq, Inhabited

namespace Level

def name : Level → String
  | .debug => "DEBUG"
  | .info => "INFO"
  | .warning => "WARNING"
  | .error => "ERROR"

def rank : Level → Nat
  | .debug => 0
  | .info => 1
  | .warning => 2
  | .error => 3

end Level

/-- The part of a run that a record is about. -/
inductive Topic where
  | command
  | configuration
  | generation
  | files
  | source
  | exports
deriving Repr, DecidableEq, Inhabited

structure Record where
  level : Level
  topic : Topic
  message : String
deriving Repr, DecidableEq, Inhabited

/-- The record is kept when only records from `least` on are; without a least level all are. -/
def Record.isKept (r : Record) (least : Option Level) : Bool :=
  match least with
  | none => true
  | some l => l.rank ≤ r.level.rank

end Scaffold.Log
