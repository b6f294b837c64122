import Scaffold.Editor
import Scaffold.Export.Survey
import Scaffold.Source.Parse
import Scaffold.TestFile
import Scaffold.Text.Blank

/-!
# Generating a test file

The steps come in this order, and the first one that fails ends the run: find out the language,
work out the target, make its folder, ask before a file is replaced, read the source and render
the test, write it, open it.
-/

namespace Scaffold.Generation

open Script

/-! ### Folders and files -/

/-- Makes one folder; a folder that is there already will do. -/
def makeFolder (p : Path) : Script (Except Disk.Fault Unit) := do
  match ← Script.makeFolder p with
  | .ok () => return .ok ()
  | .error .missing => return .error .missing
  | .error f => return if ← isFolder p then .ok () else .error f

/-- Makes a folder and those above it that are missing. The names are given from the last to the
first. A fault comes with the path that it stands at. -/
def makeFolders (root : Path.Root) : List String → Script (Except (Disk.Fault × Path) Unit)
  | [] => do
    let top : Path := ⟨root, []⟩
    return (← makeFolder top).mapError fun f => (f, top)
  | name :: above => do
    let p : Path := ⟨root, (name :: above).reverse⟩
    match ← makeFolder p with
    | .error .missing =>
      match ← makeFolders root above with
      | .ok () => return (← makeFolder p).mapError fun f => (f, p)
      | .error e => return .error e
    | result => return result.mapError fun f => (f, p)

def ensureFolder (p : Path) : Script Unit := do
  match ← makeFolders p.root p.names.reverse with
  | .ok () => return
  | .error (f, place) =>
    let reason := f.message place
    fail (.obstacle ⟨.folder, s!"Unable to create test directory {p}: {reason}", some (.disk f)⟩)

/-- Asks the user whether a file may be replaced. No answer counts as a refusal. -/
def confirm (p : Path) : Script Bool := do
  match ← request (.question s!"{p} already exists. Overwrite? [y/N] ") with
  | none => return false
  | some line => return ["y", "yes"].contains (Text.lower (Text.strip line))

/-- Stops where there is something at the path already that may not be replaced. -/
def protect (p : Path) (confirm : Path → Script Bool) : Script Unit := do
  if ← present p then
    if ← confirm p then log .info .files s!"Overwriting {p}"
    else fail (.obstacle ⟨.fileExists, s!"Unit test file {p} already exists.", none⟩)

def save (p : Path) (text : String) : Script Unit := do
  match ← write p (Text.Utf8.encode text) with
  | .ok () => log .info .files s!"Wrote {p}"
  | .error f => fail (.obstacle ⟨.unknown, f.message p, some (.disk f)⟩)

/-! ### The source -/

def readSource (p : Path) : Script Bytes := do
  match ← Script.read p with
  | .ok contents => return contents
  | .error f =>
    let reason := f.message p
    log .error .source s!"Failed to read {p}: {reason}"
    fail (.obstacle ⟨.unknown, reason, some (.disk f)⟩)

/-- What the module at a path exposes, read in a dialect. -/
def exportsOf (p : Path) (dialect : Source.Dialect) : Script Export.Surface := do
  let contents ← readSource p
  let module := Source.Module.parse dialect contents
  if module.faulty then
    log .warning .source s!"{p} contains syntax errors; exports may be incomplete."
  let (remarks, result) := Export.survey module.root
  remarks.forM fun r => log .debug .exports r.message
  let surface ← ofExcept .undecodable result
  let hasDefault := (Value.bool surface.hasDefault).display
  let names := (Value.list (surface.names.map .text)).display
  log .debug .source s!"{p}: default export={hasDefault}, named exports={names}"
  return surface

/-- The text of a test for a source of a language. -/
def contentsIn (language : Language) (source : Path) (binding specifier : String) :
    Script String := do
  return TestFile.render (← exportsOf source (language.dialect source)) binding specifier

def languageOf (source : Path) : Script Language :=
  ofExcept .unsupported (Language.ofPath source)

/-- The text of the test for a source, without touching the disk. -/
def contents (source : Path) (target : Target) : Script String := do
  contentsIn (← languageOf source) source target.binding target.specifier

def targetOf (source : Path) (settings : Settings) : Script Target := do
  ofExcept .notAPath (Target.ofSource (← request .workingFolder) source settings)

/-! ### All steps -/

/-- Writes the test for a source. `opens` says whether to open it, where that is not left to the
settings; `confirm` is asked before a file is replaced, unless that is forced. -/
def generate (source : Path) (settings : Settings) (force : Bool) (opens : Option Bool)
    (confirm : Path → Script Bool) : Script Target := do
  let _ ← languageOf source
  let target ← targetOf source settings
  log .debug .generation s!"Test file target: {target.file}"
  ensureFolder target.folder
  if !force then protect target.file confirm
  save target.file (← contents source target)
  if opens.getD settings.opens.isTruthy then Editor.display target.file settings.editor
  return target

end Scaffold.Generation
