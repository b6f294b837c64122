import Scaffold.Configuration
import Scaffold.Generation
import Scaffold.Options

/-!
# The command

A run of the command reads its options and then writes a test, prints it, or prints what the module
exposes. An obstacle on the way is reported and gives the exit status one; a test file that is kept
because the user wants it so is no error.
-/

namespace Scaffold.Command

open Script

/-- How a run ends: by reaching its end, or by stopping with an exit status. -/
inductive Ending where
  | returned
  | stopped (status : Nat)
deriving Repr, DecidableEq, Inhabited

/-- Carries out what the options ask for. The result is the test that was written, if any. -/
def work (o : Options) (language : Language) : Script (Option Target) := do
  let settings ← Configuration.load o.source language o.config.join
  match o.mode with
  | .dumpExports =>
    let surface ← Generation.exportsOf o.source (.ofPath o.source)
    let text ← ofExcept .json (Json.write (some "  ") (Json.ofSurface surface))
    request (.print s!"{text}\n")
    return none
  | .dryRun =>
    let target ← Generation.targetOf o.source settings
    log .info .command s!"Would write {target.file}"
    request (.print (← Generation.contents o.source target))
    return none
  | .write =>
    let opens := if o.opens then some true else none
    some <$> Generation.generate o.source settings o.force opens Generation.confirm

/-- What becomes of a failure: an obstacle is reported, anything else goes on. -/
def report : Failure → Script Ending
  | .obstacle o =>
    if o.isExpected then do
      log .info .command s!"{o.message} Leaving it untouched."
      return .returned
    else do
      log .error .command o.message
      return .stopped 1
  | e => fail e

/-- The end of a run that has met no obstacle. -/
def conclude : Option Target → Script Ending
  | some target => do
    log .info .command s!"Generated unit test: {target.file}"
    return .returned
  | none => return .returned

/-- A run with options. -/
def execute (o : Options) : Script Ending := do
  request (.keepFrom (if o.verbose then .debug else .info))
  if !(← isFile o.source) then
    log .error .command s!"Input file '{o.source}' does not exist."
    return .stopped 1
  match Language.ofPath o.source with
  | .error name =>
    log .error .command (Language.rejection name)
    return .stopped 1
  | .ok language =>
    log .debug .command s!"Language: {language.name}"
    ((work o language).bind conclude).rescue report

/-- A run with the arguments of a command line. -/
def run (arguments : List String) : Script Ending := do
  match Options.parse arguments with
  | .ok o => execute o
  | .error .help =>
    request (.print Options.help)
    return .stopped 0
  | .error (.usage f) =>
    request (.complain (Options.complaint f))
    return .stopped 2

end Scaffold.Command
