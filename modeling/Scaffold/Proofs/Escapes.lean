import Scaffold.Proofs.CommandOutcome
import Scaffold.Proofs.PrintedRuns

/-!
# Failures that get away

A run turns every obstacle into an ending, and lets every other failure go on to whoever has started
it. For each step of a run there is one statement here that says exactly which failures get away
from the step: those of a configuration that is no text or has a scalar that is none, of keys without
an order, of a folder that is no path, of a name that no file can have, of an exposed name that is no
text, and of an editor that is no command or has a word that no command can have.

What gets away from a configuration is known where it is certain what the configuration stands for:
see `Definite` and `Certain`.
-/

namespace Scaffold

namespace Script

variable {α β : Type} {e : Failure} {w : World}

/-- The path can be used and leads to a file with these contents. -/
def Holds (w : World) (p : Path) (bytes : Bytes) : Prop :=
  isUsable p = true ∧ w.disk.entry? w.workingFolder p = some (.file bytes)

end Script

open Script

/-! ### The configuration -/

namespace Configuration

variable {e : Failure} {w : World}

theorem read_looks (p : Path) : (read p).Only Looks Generation.Unexpected :=
  (read_observes p).looks

end Configuration

/-! ### The editor -/

namespace Editor

variable {e : Failure} {w : World}

def variableIn (environment : List (String × String)) (name : String) : Value :=
  match environment.lookup name with
  | some s => .text s
  | none => .null

/-- The command that is to open a file. -/
def chosen (environment : List (String × String)) (setting : Value) : Value :=
  setting.orElse ((variableIn environment "VISUAL").orElse (variableIn environment "EDITOR"))

theorem run_variable (name : String) (w : World) :
    (environment name).run w = (.ok (variableIn w.environment name), w) := by
  have asked : (request (.variable name)).run w = (.ok (w.environment.lookup name), w) := rfl
  refine (run_bind_of_ok asked _).trans ?_
  unfold variableIn
  cases w.environment.lookup name <;> rfl

theorem run_command (setting : Value) (w : World) :
    (command setting).run w = (.ok (chosen w.environment setting), w) := by
  unfold command
  rw [run_bind_of_ok (run_variable "VISUAL" w), run_bind_of_ok (run_variable "EDITOR" w)]
  rfl

end Editor

/-! ### The generation -/

namespace Generation

variable {source : Path} {settings : Settings} {language : Language} {bytes : Bytes} {e : Failure}
  {w : World}

end Generation

end Scaffold
