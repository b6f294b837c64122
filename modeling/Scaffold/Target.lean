import Scaffold.Identifier
import Scaffold.Settings

/-!
# Where a test goes

The test for `src/foo.ts` goes to `src/__tests__/foo.spec.ts` and imports `../foo`, unless the
settings say otherwise.
-/

namespace Scaffold

structure Target where
  /-- The name the default export is bound to, and the name of the suite. -/
  binding : String
  /-- How the test refers to the module. -/
  specifier : String
  folder : Path
  file : Path
deriving Repr, DecidableEq, Inhabited

/-- A value of this type cannot be part of a path. -/
structure NotAPath where
  typeName : String
deriving Repr, DecidableEq, Inhabited

namespace NotAPath

def message (e : NotAPath) : String :=
  s!"unsupported operand type(s) for /: 'PosixPath' and '{e.typeName}'"

end NotAPath

namespace Target

/-- The directory of the test for `source`. -/
def folderFor (source : Path) : Value → Except NotAPath Path
  | .text s => .ok (source.parent.join (Path.ofString s))
  | v => .error ⟨v.typeName⟩

/-- The name of the test file, which may lead to other directories. -/
def fileName (source : Path) (suffix : Value) : String :=
  source.stem ++ "." ++ suffix.format ++ source.extension

/-- The target for `source`, seen from the working directory `cwd`. -/
def ofSource (cwd source : Path) (settings : Settings) : Except NotAPath Target := do
  let folder ← folderFor source settings.folder
  let module := source.parent.join (Path.ofString source.stem)
  return {
    binding := Identifier.ofName source.stem
    specifier := Path.specifier cwd module folder
    folder
    file := folder.join (Path.ofString (fileName source settings.suffix)) }

end Target

end Scaffold
