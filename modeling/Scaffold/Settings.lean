import Scaffold.Language
import Scaffold.Value

/-!
# Settings

Four settings steer a run. They are taken from a configuration value: a section named after the
language comes first, then the top level, then the default. Nothing checks the values here, since
a setting may never be used.

* `Settings.interpret` reads the settings out of any configuration value, with the notices to be
  given on the way. It fails only when unknown keys are to be listed and have no common order.
-/

namespace Scaffold

structure Settings where
  /-- The directory for tests, seen from the directory of the source. -/
  folder : Value := .text "__tests__"
  /-- What stands between the name of the source and its extension. -/
  suffix : Value := .text "spec"
  /-- Whether to open the written file. -/
  opens : Value := .bool false
  /-- The command that opens it. -/
  editor : Value := .null
deriving Repr, BEq, Inhabited

inductive Setting where
  | folder
  | suffix
  | opens
  | editor
deriving Repr, DecidableEq, Inhabited

namespace Setting

def all : List Setting :=
  [.folder, .suffix, .opens, .editor]

/-- The key a setting has in a configuration. -/
def key : Setting → String
  | .folder => "test_directory"
  | .suffix => "suffix"
  | .opens => "open_in_editor"
  | .editor => "editor"

def ofKey? (key : Value) : Option Setting :=
  all.find? fun s => key.sameKey (.text s.key)

end Setting

namespace Settings

def get (s : Settings) : Setting → Value
  | .folder => s.folder
  | .suffix => s.suffix
  | .opens => s.opens
  | .editor => s.editor

def set (s : Settings) (k : Setting) (v : Value) : Settings :=
  match k with
  | .folder => { s with folder := v }
  | .suffix => { s with suffix := v }
  | .opens => { s with opens := v }
  | .editor => { s with editor := v }

/-- The settings with those that `entries` hold put over them. -/
def overlay (s : Settings) (entries : List (Value × Value)) : Settings :=
  entries.foldl (fun acc e =>
    match Setting.ofKey? e.1 with
    | some k => acc.set k e.2
    | none => acc) s

/-- A name that no setting has. -/
structure Unknown where
  key : String
deriving Repr, DecidableEq, Inhabited

def Unknown.message (u : Unknown) : String :=
  s!"GeneratorConfig.__init__() got an unexpected keyword argument '{u.key}'"

/-- The settings given one by one; all others keep their defaults. -/
def ofFields (fields : List (String × Value)) : Except Unknown Settings :=
  fields.foldlM (fun acc f =>
    match Setting.ofKey? (.text f.1) with
    | some k => .ok (acc.set k f.2)
    | none => .error ⟨f.1⟩) {}

/-- What is said about a configuration that is not quite as expected. -/
inductive Notice where
  | malformed (raw : Value)
  | malformedSection (language : Language)
  | unknownKeys (keys : List Value)
deriving Repr, BEq, Inhabited

namespace Notice

/-- A notice about something that is left out of account altogether. -/
def isWarning : Notice → Bool
  | .unknownKeys _ => false
  | _ => true

def message : Notice → String
  | .malformed raw => s!"Ignoring malformed configuration: {raw.display}"
  | .malformedSection language => s!"Ignoring malformed {language.name} section"
  | .unknownKeys keys => s!"Ignoring unknown configuration keys: {(Value.list keys).display}"

end Notice

/-- The entries of a configuration; anything but a map has none. -/
def entriesOf (raw : Value) : List Notice × List (Value × Value) :=
  match raw with
  | .map entries => ([], entries)
  | raw => ([.malformed raw], [])

/-- The entries of the section for a language. -/
def sectionOf (entries : List (Value × Value)) (language : Language) :
    List Notice × List (Value × Value) :=
  match Value.lookup entries (.text language.name) with
  | none => ([], [])
  | some v =>
    if v.isTruthy then
      match v with
      | .map inner => ([], inner)
      | _ => ([.malformedSection language], [])
    else ([], [])

/-- Keys that are neither settings nor names of languages. -/
def unknownKeys (entries : List (Value × Value)) : List Value :=
  (entries.map (·.1)).filter fun k =>
    (Setting.ofKey? k).isNone && !(Language.all.any fun l => k.sameKey (.text l.name))

def interpret (raw : Value) (language : Language) :
    List Notice × Except Value.Unorderable Settings :=
  let (first, entries) := entriesOf raw
  let (second, inner) := sectionOf entries language
  let settings := (({} : Settings).overlay entries).overlay inner
  match unknownKeys entries with
  | [] => (first ++ second, .ok settings)
  | keys =>
    match Value.sort keys with
    | .ok sorted => (first ++ second ++ [.unknownKeys sorted], .ok settings)
    | .error e => (first ++ second, .error e)

end Settings

end Scaffold
