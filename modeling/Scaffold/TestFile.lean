import Scaffold.ImportLine

/-!
# The contents of a test file
-/

namespace Scaffold.TestFile

/-- An empty suite. -/
def describeBlock (suite : String) : String :=
  "describe('" ++ suite ++ "', () => \x7b\x7d);"

/-- The import line, an empty line and an empty suite. -/
def render (s : Export.Surface) (binding specifier : String) : String :=
  ImportLine.render s binding specifier ++ "\n\n" ++ describeBlock binding ++ "\n"

end Scaffold.TestFile
