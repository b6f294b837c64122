import Scaffold.Export.Surface

/-!
# The import line of a test file

One declaration imports everything a module exposes: the default export under a binding name, the
named exports in braces. A module that exposes nothing is imported for its effects.
-/

namespace Scaffold.ImportLine

/-- The named exports in braces. -/
def braced (names : List String) : String :=
  "\x7b " ++ ", ".intercalate names ++ " \x7d"

/-- What stands between `import` and `from`. -/
def clause (s : Export.Surface) (binding : String) : String :=
  match s.hasDefault, s.names with
  | true, [] => binding
  | true, names => binding ++ ", " ++ braced names
  | false, [] => ""
  | false, names => braced names

def render (s : Export.Surface) (binding specifier : String) : String :=
  if s.isEmpty then "import '" ++ specifier ++ "';"
  else "import " ++ clause s binding ++ " from '" ++ specifier ++ "';"

end Scaffold.ImportLine
