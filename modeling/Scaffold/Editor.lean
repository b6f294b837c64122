import Scaffold.Script

/-!
# Opening a file in an editor

The command comes from the settings, else from the variables `VISUAL` and `EDITOR`. The file is
handed to it as one last word.
-/

namespace Scaffold.Editor

open Script

/-- The value of a variable; one that is not set is null. -/
def environment (name : String) : Script Value := do
  match ← request (.variable name) with
  | some s => return .text s
  | none => return .null

/-- The first of the setting and the two variables that is given; the last one as it is. -/
def command (setting : Value) : Script Value := do
  return setting.orElse ((← environment "VISUAL").orElse (← environment "EDITOR"))

/-- No program can be given a word with the character that ends words. -/
def isArgument (word : String) : Bool :=
  !word.toList.contains '\x00'

/-- Gives a program its words and, as the last one, a file that has been written. -/
def start (words : List String) (p : Path) : Script (Except String Unit) :=
  if words.all isArgument then request (.launch (words ++ [p.toString])) else fail .badName

/-- Launches a command on a file. -/
def launch (command : String) (p : Path) : Script Unit := do
  let words ← ofExcept .command (ShellWords.ofString command)
  match ← start words p with
  | .ok () => return
  | .error text =>
    let shown := Text.Quoted.ofString command
    fail (.obstacle ⟨.unknown, s!"Failed to launch editor {shown}: {text}", some .launch⟩)

/-- Opens a file, or warns that there is nothing to open it with. -/
def display (p : Path) (setting : Value) : Script Unit := do
  match ← command setting with
  | .text s =>
    if s.isEmpty then warn else launch s p
  | v => if v.isTruthy then fail (.notACommand v.typeName) else warn
where
  warn : Script Unit :=
    log .warning .files s!"No editor configured; set $EDITOR to open {p}"

end Scaffold.Editor
