import Scaffold.Path
import Scaffold.Text.Digit
import Scaffold.Text.Quoted

/-!
# The command line

The arguments name one source and any number of options. An option may be shortened as long as no
other one starts the same way, and a value may be attached to it by an equals sign. What follows a
double dash is no option.

* `Options.Token.ofArguments` finds the options among the arguments, before any of them is acted on.
* `Options.consume` goes through the tokens once, from left to right.
* `Options.parse` gives the options, or the reason to stop: a call for help, or a fault.
-/

namespace Scaffold

/-- What is done with the test. -/
inductive Mode where
  | write
  | dryRun
  | dumpExports
deriving Repr, DecidableEq, Inhabited

structure Options where
  source : Path
  /-- The configuration file, where the option is given; a double dash as its value names none. -/
  config : Option (Option Path) := none
  force : Bool := false
  /-- Open the file whatever the settings say. -/
  opens : Bool := false
  mode : Mode := .write
  verbose : Bool := false
deriving Repr, DecidableEq, Inhabited

namespace Options

/-- The options there are. -/
inductive Switch where
  | help
  | config
  | force
  | opens
  | dryRun
  | dumpExports
  | verbose
deriving Repr, DecidableEq, Inhabited

namespace Switch

/-- Every option under each of its names. -/
def spellings : List (String × Switch) :=
  [("-h", .help), ("--help", .help), ("--config", .config), ("--force", .force),
    ("--open", .opens), ("--dry-run", .dryRun), ("--dump-exports", .dumpExports),
    ("--verbose", .verbose)]

/-- How faults name an option. -/
def label : Switch → String
  | .help => "-h/--help"
  | .config => "--config"
  | .force => "--force"
  | .opens => "--open"
  | .dryRun => "--dry-run"
  | .dumpExports => "--dump-exports"
  | .verbose => "--verbose"

end Switch

inductive Fault where
  | ambiguous (text : String) (candidates : List String)
  | ignoredValue (s : Switch) (value : String)
  | expectedValue (s : Switch)
  | conflict (s other : Switch)
  | missingSource
  | unrecognized (texts : List String)
deriving Repr, DecidableEq, Inhabited

namespace Fault

def message : Fault → String
  | .ambiguous text candidates =>
    s!"ambiguous option: {text} could match " ++ ", ".intercalate candidates
  | .ignoredValue s value =>
    s!"argument {s.label}: ignored explicit argument {Text.Quoted.ofString value}"
  | .expectedValue s => s!"argument {s.label}: expected one argument"
  | .conflict s other => s!"argument {s.label}: not allowed with argument {other.label}"
  | .missingSource => "the following arguments are required: source"
  | .unrecognized texts => "unrecognized arguments: " ++ " ".intercalate texts

end Fault

/-! ### Tokens -/

inductive Token where
  | argument (text : String)
  /-- The double dash after which there are no options. -/
  | separator
  /-- An option, with the value attached to it if there is one. -/
  | switch (s : Switch) (value : Option String)
  /-- What looks like an option and is none. -/
  | unknown (text : String)
deriving Repr, DecidableEq, Inhabited

namespace Token

/-- The text up to the first equals sign, and what follows the sign if there is one. -/
def splitValue (cs : List Char) : List Char × Option (List Char) :=
  match cs.span (· != '=') with
  | (name, _ :: value) => (name, some value)
  | (name, []) => (name, none)

/-- A number with a minus sign; a line end may follow it. -/
def isNegativeNumber (cs : List Char) : Bool :=
  match cs with
  | '-' :: body =>
    let body := if body.getLast? == some '\n' then body.dropLast else body
    match body.dropWhile Text.isDigit with
    | [] => !body.isEmpty
    | '.' :: fraction => !fraction.isEmpty && fraction.all Text.isDigit
    | _ => false
  | _ => false

/-- The letters attached to a short option are short options again, and the only one there is
may be repeated. What is left is a value, which no short option takes. -/
def short (letters : List Char) : Option String :=
  match letters.dropWhile (· == 'h') with
  | [] => if letters.isEmpty then some "" else none
  | rest => some (String.ofList rest)

/-- An argument that starts with a dash and is not the name of an option as it stands. -/
def ofDashed (text : String) : Except Fault Token :=
  let (name, value) := splitValue text.toList
  let value := value.map String.ofList
  match text.toList with
  | '-' :: '-' :: _ =>
    match Switch.spellings.lookup (String.ofList name), value with
    | some s, some _ => .ok (.switch s value)
    | _, _ =>
      match Switch.spellings.filter fun e => name.isPrefixOf e.1.toList with
      | [(_, s)] => .ok (.switch s value)
      | [] => .ok (plain text)
      | several => .error (.ambiguous text (several.map (·.1)))
  | '-' :: 'h' :: '=' :: letters => .ok (.switch .help (short letters))
  | '-' :: 'h' :: letters => .ok (.switch .help (short letters))
  | _ => .ok (plain text)
where
  plain (text : String) : Token :=
    if isNegativeNumber text.toList || text.toList.contains ' ' then .argument text
    else .unknown text

def ofArgument (text : String) : Except Fault Token :=
  match Switch.spellings.lookup text with
  | some s => .ok (.switch s none)
  | none =>
    match text.toList with
    | ['-'] => .ok (.argument text)
    | '-' :: _ => ofDashed text
    | _ => .ok (.argument text)

def ofArguments : List String → Except Fault (List Token)
  | [] => .ok []
  | text :: texts =>
    if text == "--" then .ok (.separator :: texts.map .argument)
    else do return (← ofArgument text) :: (← ofArguments texts)

end Token

/-! ### From tokens to options -/

/-- Why there are no options to act on. -/
inductive Stop where
  | help
  | usage (f : Fault)
deriving Repr, DecidableEq, Inhabited

/-- What has been read of a command line. -/
structure Progress where
  source : Option Path := none
  config : Option (Option Path) := none
  force : Bool := false
  opens : Bool := false
  mode : Mode := .write
  verbose : Bool := false
  /-- What had no place, in the order it came. -/
  extras : List String := []
deriving Repr, DecidableEq, Inhabited

namespace Progress

def extra (p : Progress) (text : String) : Progress :=
  { p with extras := p.extras ++ [text] }

/-- Acts on an option that takes no value. -/
def turn (p : Progress) : Switch → Except Stop Progress
  | .help => .error .help
  | .config => .error (.usage (.expectedValue .config))
  | .force => .ok { p with force := true }
  | .opens => .ok { p with opens := true }
  | .dryRun =>
    if p.mode == .dumpExports then .error (.usage (.conflict .dryRun .dumpExports))
    else .ok { p with mode := .dryRun }
  | .dumpExports =>
    if p.mode == .dryRun then .error (.usage (.conflict .dumpExports .dryRun))
    else .ok { p with mode := .dumpExports }
  | .verbose => .ok { p with verbose := true }

/-- Sets the configuration file. -/
def configured (p : Progress) (value : String) : Progress :=
  { p with config := some (if value == "--" then none else some (Path.ofString value)) }

end Progress

/-- Goes through the tokens from left to right. The first argument is the source, and a double
dash next to it belongs to it. -/
def consume (p : Progress) : List Token → Except Stop Progress
  | [] => .ok p
  | .switch .config none :: .argument text :: rest => consume (p.configured text) rest
  | .switch .config (some value) :: rest => consume (p.configured value) rest
  | .switch s (some value) :: _ => .error (.usage (.ignoredValue s value))
  | .switch s none :: rest =>
    match p.turn s with
    | .ok q => consume q rest
    | .error stop => .error stop
  | .unknown text :: rest => consume (p.extra text) rest
  | .separator :: .argument text :: rest =>
    if p.source.isNone then consume { p with source := some (.ofString text) } rest
    else consume ((p.extra "--").extra text) rest
  | .separator :: rest => consume (p.extra "--") rest
  | .argument text :: .separator :: rest =>
    if p.source.isNone then consume { p with source := some (.ofString text) } rest
    else consume ((p.extra text).extra "--") rest
  | .argument text :: rest =>
    if p.source.isNone then consume { p with source := some (.ofString text) } rest
    else consume (p.extra text) rest

/-- The options, once all tokens have found their place. -/
def Progress.finish (p : Progress) : Except Stop Options :=
  match p.source with
  | none => .error (.usage .missingSource)
  | some source =>
    if p.extras.isEmpty then
      .ok {
        source
        config := p.config
        force := p.force
        opens := p.opens
        mode := p.mode
        verbose := p.verbose }
    else .error (.usage (.unrecognized p.extras))

def parse (arguments : List String) : Except Stop Options :=
  match Token.ofArguments arguments with
  | .error f => .error (.usage f)
  | .ok tokens => do (← consume {} tokens).finish

/-! ### What is printed -/

def program : String :=
  "unit-test-generator"

def usage : String :=
  "usage: " ++ program ++ " [-h] [--config CONFIG] [--force] [--open]\n" ++
  "                           [--dry-run | --dump-exports] [--verbose]\n" ++
  "                           source\n"

def help : String :=
  usage ++
  "\nGenerate a unit test file for a JavaScript or TypeScript module.\n" ++
  "\npositional arguments:\n" ++
  "  source           Source file to generate a unit test for.\n" ++
  "\noptions:\n" ++
  "  -h, --help       show this help message and exit\n" ++
  "  --config CONFIG  Path to a config.yaml (defaults to ./config.yaml, then the\n" ++
  "                   project root).\n" ++
  "  --force          Overwrite an existing test file without asking.\n" ++
  "  --open           Open the generated file in $VISUAL/$EDITOR.\n" ++
  "  --dry-run        Print the test file instead of writing it.\n" ++
  "  --dump-exports   Print the module's exports as JSON and exit.\n" ++
  "  --verbose        Enable debug logging.\n"

/-- What is printed about a fault in the arguments. -/
def complaint (f : Fault) : String :=
  s!"{usage}{program}: error: {f.message}\n"

end Options

end Scaffold
