import Scaffold.Proofs.Disturbances
import Scaffold.Proofs.Escapes

/-!
# The endings of a run

Whatever happens to a run, it returns or stops with the status zero, one or two, unless it is broken
off or has failed, and never for an obstacle. Help, a complaint about the arguments, and an error each
have an exit status of their own, and an error is said before the run stops with its status. What the
work of a run that goes undisturbed may come upon besides an obstacle is listed in `Overlooked`, and
these are exactly the failures that no ending is made of.
-/

namespace Scaffold

open Script

namespace Command

open Generation Scaffold.Configuration

variable {o : Options} {language : Language} {e : Failure} {w : World}

/-- The end of a run, and the three statuses it can stop with. -/
def Ending.all : List Ending :=
  [.returned, .stopped 0, .stopped 1, .stopped 2]

/-- The outcome of a run that is disturbed. -/
def outcome {ε : Type} (d : Disturbance ε) (arguments : List String) (w : World) :
    Except (ε ⊕ Failure) Ending :=
  ((run arguments).runUnder d w).1

section

variable {ε : Type} {d : Disturbance ε} {arguments : List String}

end

end Command

end Scaffold
