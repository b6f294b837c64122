import Scaffold.Yaml.Fault

/-!
# Tokens of a configuration text
-/

namespace Scaffold.Yaml

inductive Directive where
  | version (major : Nat)
  | handle (handle lead : String)
  | other
deriving Repr, DecidableEq, Inhabited

inductive Token where
  | directive (d : Directive)
  | documentStart
  | documentEnd
  | streamEnd
  | blockSequenceStart
  | blockMappingStart
  | blockEnd
  | flowSequenceStart
  | flowSequenceEnd
  | flowMappingStart
  | flowMappingEnd
  | blockEntry
  | flowEntry
  | key
  | value
  | reference (name : String)
  | anchor (name : String)
  | tag (handle : Option String) (suffix : String)
  | scalar (text : String) (plain : Bool)
  /-- Nothing more can be read. -/
  | fault (f : Fault)
deriving Repr, DecidableEq, Inhabited

end Scaffold.Yaml
