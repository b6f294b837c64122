import Scaffold.Script
import Scaffold.Yaml.Load

/-!
# Finding and reading the configuration

The configuration stands in `config.yaml`, in the working folder or else at the root of the
project that the source belongs to. The root is the nearest folder above the source that holds
one of the files which mark a project. A file that is not there, and one that holds nothing, count
as an empty configuration.
-/

namespace Scaffold.Configuration

open Script

def fileName : Path :=
  ⟨.none, ["config.yaml"]⟩

/-- The files that mark the root of a project. -/
def markers : List Path :=
  [⟨.none, ["package.json"]⟩, ⟨.none, ["tsconfig.json"]⟩]

/-- The first of the folders that holds one of the markers. -/
def firstMarked : List Path → Script (Option Path)
  | [] => return none
  | folder :: folders => do
    if ← anyPresent (markers.map folder.join) then return some folder
    firstMarked folders
where
  anyPresent : List Path → Script Bool
    | [] => return false
    | p :: ps => do
      if ← present p then return true
      anyPresent ps

/-- The root of the project that a path belongs to, among the folders the path names. -/
def projectRoot (p : Path) : Script (Option Path) :=
  firstMarked p.parents

/-- The value a configuration text stands for; one that counts as not given is an empty map. -/
def valueOf (p : Path) (contents : Bytes) : Script Value := do
  let text ← ofExcept .undecodable (Text.Utf8.decodeStream contents)
  match Yaml.load text with
  | .ok v => return v.orElse (.map [])
  | .error .malformed =>
    fail (.obstacle
      ⟨.unknown, s!"Failed to read configuration {p}: ", some .malformedConfiguration⟩)
  | .error f => fail (.configuration f)

/-- The value in a configuration file. -/
def read (p : Path) : Script Value := do
  if ← present p then
    match ← Script.read p with
    | .ok contents => valueOf p contents
    | .error f =>
      let reason := f.message p
      fail (.obstacle ⟨.unknown, s!"Failed to read configuration {p}: {reason}", some (.disk f)⟩)
  else return .map []

/-- A path from the top of the file system, without double dots. -/
def resolved (p : Path) : Script Path := do
  if isUsable p then return ⟨.single, (← request .workingFolder).resolve p⟩
  fail .badName

/-- The configuration for a source. -/
def find (source : Path) : Script Value := do
  let here ← read fileName
  if here.isTruthy then return here
  match ← projectRoot (← resolved source) with
  | some root => read (root.join fileName)
  | none => return here

/-- The settings for a source, from the given file or from the one that is found. -/
def load (source : Path) (language : Language) (file : Option Path) : Script Settings := do
  let raw ← match file with
    | some p => read p
    | none => find source
  let (notices, settings) := Settings.interpret raw language
  notices.forM fun n =>
    log (if n.isWarning then .warning else .debug) .configuration n.message
  ofExcept .unorderable settings

end Scaffold.Configuration
