/-!
# What a module exposes

The names come in source order and may repeat.
-/

namespace Scaffold.Export

structure Surface where
  names : List String := []
  hasDefault : Bool := false
deriving Repr, DecidableEq, Inhabited

namespace Surface

def isEmpty (s : Surface) : Bool :=
  s.names.isEmpty && !s.hasDefault

end Surface

end Scaffold.Export
