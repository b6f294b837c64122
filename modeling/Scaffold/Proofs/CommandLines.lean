import Mathlib.Data.List.Basic
import Scaffold.Proofs.OptionNames

/-!
# Command lines in any order

What a command line asks for can be listed part by part: the source, the flags that are set, and the
configuration file in either of its forms. The parts may come in any order, and all of them but the
source may be repeated. Read from left to right they leave at each point what the parts so far come
to, so the order makes no difference, but that of two configuration files the last one counts.
-/

namespace Scaffold.Options

/-- The argument does not start with a dash. -/
def Bare (text : String) : Prop :=
  text.toList.head? ≠ some '-'

instance (text : String) : Decidable (Bare text) :=
  inferInstanceAs (Decidable (_ ≠ _))

theorem Bare.ne_separator {text : String} (h : Bare text) : text ≠ "--" := by
  rintro rfl
  exact absurd h (by decide)

/-- What a command line can ask for. -/
structure Invocation where
  source : String
  config : Option String := none
  force : Bool := false
  opens : Bool := false
  verbose : Bool := false
  dryRun : Bool := false
  dumpExports : Bool := false
  source_bare : Bare source
  config_bare : ∀ value ∈ config, Bare value
  exclusive : ¬(dryRun = true ∧ dumpExports = true)

/-- What the options say about opening the file: yes, or nothing at all. -/
def opening (o : Options) : Option Bool :=
  if o.opens then some true else none

/-- One of the things that a command line lists. -/
inductive Part where
  | source (text : String)
  | flag (s : Switch)
  | config (value : String)
  /-- The configuration file in one argument with the name of its option. -/
  | attached (value : String)
deriving DecidableEq

namespace Part

def arguments : Part → List String
  | .source text => [text]
  | .flag s => [s.label]
  | .config value => [Switch.label .config, value]
  | .attached value => [Switch.label .config ++ "=" ++ value]

def tokens : Part → List Token
  | .source text => [.argument text]
  | .flag s => [.switch s none]
  | .config value => [.switch .config none, .argument value]
  | .attached value => [.switch .config (some value)]

def source? : Part → Option String
  | .source text => some text
  | _ => none

def config? : Part → Option String
  | .config value => some value
  | .attached value => some value
  | _ => none

end Part

namespace Invocation

/-- Help and the configuration file are not among the flags. -/
def isSet (i : Invocation) : Switch → Bool
  | .help => false
  | .config => false
  | .force => i.force
  | .opens => i.opens
  | .dryRun => i.dryRun
  | .dumpExports => i.dumpExports
  | .verbose => i.verbose

def options (i : Invocation) : Options where
  source := .ofString i.source
  config := i.config.map fun value => some (.ofString value)
  force := i.force
  opens := i.opens
  mode := if i.dryRun then .dryRun else if i.dumpExports then .dumpExports else .write
  verbose := i.verbose

/-- The parts name the source once and each flag that is set at least once, but no other flag; the
last of them that names a configuration file names that of the invocation. -/
structure Lists (i : Invocation) (parts : List Part) : Prop where
  source : parts.filterMap Part.source? = [i.source]
  flags : ∀ s, .flag s ∈ parts ↔ i.isSet s = true
  config : (parts.filterMap Part.config?).getLast? = i.config
  bare : ∀ value, .config value ∈ parts → Bare value

end Invocation

variable {i : Invocation} {parts done rest : List Part} {part : Part}

/-! ### The tokens of the parts -/

namespace Token

theorem ofArgument_of_bare {text : String} (h : Bare text) :
    ofArgument text = .ok (.argument text) := by
  have dashed : ∀ e ∈ Switch.spellings, ¬Bare e.1 := by decide
  unfold ofArgument
  cases hl : Switch.spellings.lookup text with
  | some s => exact absurd h (dashed _ (Switch.mem_of_lookup hl))
  | none =>
    dsimp only
    split
    · rfl
    · rename_i front
      exact absurd (congrArg List.head? front) h
    · rfl

theorem ofArguments_of_bare {text : String} {texts : List String} {ts : List Token} (h : Bare text)
    (hr : ofArguments texts = .ok ts) : ofArguments (text :: texts) = .ok (.argument text :: ts) :=
  (ofArguments_cons_eq_ok_iff h.ne_separator).mpr ⟨_, ts, ofArgument_of_bare h, hr, rfl⟩

theorem ofArguments_of_writes {text : String} {s : Switch} {value : Option String}
    {texts : List String} {ts : List Token} (hs : s ≠ .help) (h : Writes text s value)
    (hr : ofArguments texts = .ok ts) :
    ofArguments (text :: texts) = .ok (.switch s value :: ts) :=
  (ofArguments_cons_eq_ok_iff h.ne_separator).mpr
    ⟨_, ts, (ofArgument_eq_switch_iff hs).mpr h, hr, rfl⟩

theorem writes_label {s : Switch} (hs : s ≠ .help) : Writes s.label s none := by
  cases s with
  | help => exact absurd rfl hs
  | _ => exact writes_of_lookup rfl

theorem writes_attached (value : String) :
    Writes (Switch.label .config ++ "=" ++ value) .config (some value) := by
  refine ⟨(Switch.label .config).toList, by decide, by decide, ?_⟩
  simp [attachment, String.toList_append]

end Token

/-- The part is told apart by its dashes, or by having none. -/
def Part.Legible : Part → Prop
  | .source text => Bare text
  | .flag s => s ≠ .help
  | .config value => Bare value
  | .attached _ => True

theorem ofArguments_part (h : part.Legible) {texts : List String} {ts : List Token}
    (hr : Token.ofArguments texts = .ok ts) :
    Token.ofArguments (part.arguments ++ texts) = .ok (part.tokens ++ ts) := by
  cases part with
  | source text => exact Token.ofArguments_of_bare h hr
  | flag s => exact Token.ofArguments_of_writes h (Token.writes_label h) hr
  | config value =>
    have named : Switch.config ≠ .help := by decide
    exact Token.ofArguments_of_writes named (Token.writes_label named)
      (Token.ofArguments_of_bare h hr)
  | attached value => exact Token.ofArguments_of_writes (by decide) (Token.writes_attached value) hr

theorem ofArguments_parts (h : ∀ part ∈ parts, part.Legible) :
    Token.ofArguments (parts.flatMap Part.arguments) = .ok (parts.flatMap Part.tokens) := by
  induction parts with
  | nil => rfl
  | cons part parts ih =>
    rw [List.flatMap_cons, List.flatMap_cons]
    exact ofArguments_part (h part List.mem_cons_self)
      (ih fun other ho => h other (List.mem_cons_of_mem part ho))

/-! ### From left to right -/

/-- What is known once the parts have been read. -/
def Progress.after (parts : List Part) : Progress where
  source := (parts.filterMap Part.source?).head?.map .ofString
  config := (parts.filterMap Part.config?).getLast?.map fun value =>
    if value == "--" then none else some (.ofString value)
  force := .flag .force ∈ parts
  opens := .flag .opens ∈ parts
  mode :=
    if .flag .dryRun ∈ parts then .dryRun
    else if .flag .dumpExports ∈ parts then .dumpExports
    else .write
  verbose := .flag .verbose ∈ parts

theorem consume_argument {p : Progress} {tokens : List Token} (text : String)
    (hp : p.source = none) (ht : .separator ∉ tokens) :
    consume p (.argument text :: tokens) =
      consume { p with source := some (.ofString text) } tokens := by
  cases tokens with
  | nil => simp [consume, hp]
  | cons t tokens =>
    cases t with
    | separator => exact absurd List.mem_cons_self ht
    | _ => simp [consume, hp]

theorem separator_not_mem_tokens (parts : List Part) :
    .separator ∉ parts.flatMap Part.tokens := by
  intro h
  obtain ⟨part, -, hp⟩ := List.mem_flatMap.mp h
  cases part <;> simp [Part.tokens] at hp

theorem consume_switch {p q : Progress} {s : Switch} (h : p.turn s = .ok q) (tokens : List Token) :
    consume p (.switch s none :: tokens) = consume q tokens := by
  cases s with
  | config => cases h
  | _ => simp only [consume, h]

theorem after_source (done : List Part) (text : String) (h : done.filterMap Part.source? = []) :
    Progress.after (done ++ [.source text]) =
      { Progress.after done with source := some (.ofString text) } := by
  simp [Progress.after, h, Part.source?, Part.config?]

theorem after_config (done : List Part) {value : String} (hp : part.source? = none)
    (hv : part.config? = some value) :
    Progress.after (done ++ [part]) = (Progress.after done).configured value := by
  cases part with
  | source text => cases hp
  | flag s => cases hv
  | config other =>
    cases hv
    simp [Progress.after, Progress.configured, Part.source?, Part.config?]
  | attached other =>
    cases hv
    simp [Progress.after, Progress.configured, Part.source?, Part.config?]

theorem Invocation.Lists.not_mem {s : Switch} (h : i.Lists (done ++ part :: rest))
    (hs : i.isSet s = false) : .flag s ∉ done := by
  intro hd
  have set := (h.flags s).mp (List.mem_append_left _ hd)
  cases hs.symm.trans set

/-- A flag that is set can be turned on, since none before it rules it out. -/
theorem turn_after {s : Switch} (h : i.Lists (done ++ .flag s :: rest)) :
    (Progress.after done).turn s = .ok (.after (done ++ [.flag s])) := by
  have set : i.isSet s = true := (h.flags s).mp (by simp)
  cases s with
  | help => cases set
  | config => cases set
  | force => simp [Progress.turn, Progress.after, Part.source?, Part.config?]
  | opens => simp [Progress.turn, Progress.after, Part.source?, Part.config?]
  | verbose => simp [Progress.turn, Progress.after, Part.source?, Part.config?]
  | dryRun =>
    have other : .flag .dumpExports ∉ done :=
      h.not_mem (Bool.eq_false_iff.mpr fun both => i.exclusive ⟨set, both⟩)
    have mode : (Progress.after done).mode ≠ .dumpExports := by
      simp only [Progress.after, if_neg other]
      split <;> simp
    rw [Progress.turn, if_neg (by simpa using mode)]
    simp [Progress.after, Part.source?, Part.config?]
  | dumpExports =>
    have other : .flag .dryRun ∉ done :=
      h.not_mem (Bool.eq_false_iff.mpr fun both => i.exclusive ⟨both, set⟩)
    have mode : (Progress.after done).mode ≠ .dryRun := by
      simp only [Progress.after, if_neg other]
      split <;> simp
    rw [Progress.turn, if_neg (by simpa using mode)]
    simp [Progress.after, Part.source?, Part.config?, other]

theorem consume_part (h : i.Lists (done ++ part :: rest)) :
    consume (.after done) (part.tokens ++ rest.flatMap Part.tokens) =
      consume (.after (done ++ [part])) (rest.flatMap Part.tokens) := by
  cases part with
  | source text =>
    have before : done.filterMap Part.source? = [] := by
      have once := congrArg List.length h.source
      simp only [List.filterMap_append, List.filterMap_cons, Part.source?, List.length_append,
        List.length_cons, List.length_nil] at once
      exact List.eq_nil_of_length_eq_zero (by omega)
    rw [after_source done text before]
    refine consume_argument text ?_ (separator_not_mem_tokens rest)
    simp [Progress.after, before]
  | flag s => exact consume_switch (turn_after h) _
  | config value =>
    rw [after_config done rfl rfl, Part.tokens, List.cons_append, List.cons_append, consume]
    rfl
  | attached value =>
    rw [after_config done rfl rfl, Part.tokens, List.cons_append, consume]
    rfl

/-- The parts that are left, read after those before them, give what all of them come to. -/
theorem consume_parts (h : i.Lists (done ++ rest)) :
    consume (.after done) (rest.flatMap Part.tokens) = .ok (.after (done ++ rest)) := by
  induction rest generalizing done with
  | nil => simp [consume]
  | cons part rest ih =>
    rw [List.flatMap_cons, consume_part h, ih (by simpa using h), List.append_assoc]
    rfl

namespace Invocation

theorem Lists.legible (h : i.Lists parts) : ∀ part ∈ parts, part.Legible := by
  intro part hp
  cases part with
  | source text =>
    have named : text ∈ parts.filterMap Part.source? := List.mem_filterMap.mpr ⟨_, hp, rfl⟩
    rw [h.source, List.mem_singleton] at named
    exact named ▸ i.source_bare
  | flag s =>
    rintro rfl
    cases (h.flags _).mp hp
  | config value => exact h.bare value hp
  | attached value => trivial

theorem Lists.config_eq (h : i.Lists parts) :
    (parts.filterMap Part.config?).getLast?.map (fun value =>
      if value == "--" then none else some (Path.ofString value)) = i.options.config := by
  rw [h.config, options]
  refine Option.map_congr fun value hv => ?_
  have named := (i.config_bare value hv).ne_separator
  rw [if_neg (by simpa using named)]

theorem Lists.finish (h : i.Lists parts) : (Progress.after parts).finish = .ok i.options := by
  have whole : Progress.after parts =
      { source := some i.options.source, config := i.options.config, force := i.force,
        opens := i.opens, mode := i.options.mode, verbose := i.verbose } := by
    simp only [Progress.after, h.source, h.config_eq, h.flags, isSet, options, Bool.decide_eq_true,
      List.head?_cons, Option.map_some]
  rw [whole]
  rfl

/-- The parts that list an invocation may change places, as long as the configuration files stay in
their order. -/
theorem Lists.perm {others : List Part} (h : i.Lists parts) (hp : others.Perm parts)
    (hc : others.filterMap Part.config? = parts.filterMap Part.config?) : i.Lists others where
  source := by
    have same := hp.filterMap Part.source?
    rwa [h.source, List.perm_singleton] at same
  flags s := hp.mem_iff.trans (h.flags s)
  config := hc ▸ h.config
  bare value hv := h.bare value (hp.mem_iff.mp hv)

theorem Lists.parse_eq (h : i.Lists parts) :
    parse (parts.flatMap Part.arguments) = .ok i.options := by
  have listed : i.Lists ([] ++ parts) := h
  have read : consume {} (parts.flatMap Part.tokens) = .ok (.after parts) := consume_parts listed
  unfold parse
  rw [ofArguments_parts h.legible]
  dsimp only
  rw [read]
  exact h.finish

/-- A command line that lists an invocation, in whatever order and with whatever repetitions, is
read as this invocation: opening is asked for where its flag stands, and else nothing is said about
it. The parts can change places without any effect as long as the configuration files, of which the
last one counts, stay in their order. -/
theorem listed_options_are_read_in_any_order (i : Invocation) (parts : List Part)
    (h : i.Lists parts) :
    parse (parts.flatMap Part.arguments) = .ok i.options ∧
    i.options.opening = (if .flag .opens ∈ parts then some true else none) ∧
    ∀ others : List Part, others.Perm parts →
      others.filterMap Part.config? = parts.filterMap Part.config? →
      parse (others.flatMap Part.arguments) = .ok i.options := by
  have wanted : .flag .opens ∈ parts ↔ i.options.opens = true := h.flags .opens
  exact ⟨h.parse_eq, if_congr wanted.symm rfl rfl, fun others hp hc => (h.perm hp hc).parse_eq⟩

/-- A dry run with some flags. -/
def cautious : Invocation where
  source := "src/a.ts"
  config := some "cfg=1.yaml"
  opens := true
  verbose := true
  dryRun := true
  source_bare := by decide
  config_bare := by decide
  exclusive := by decide

/-- All that it asks for, in no particular order and partly twice. -/
def scattered : List Part :=
  [.flag .dryRun, .config "old.yaml", .flag .verbose, .source "src/a.ts", .flag .opens,
    .flag .dryRun, .attached "cfg=1.yaml"]

theorem cautious_read_from_scattered :
    cautious.Lists scattered ∧
    parse ["--dry-run", "--config", "old.yaml", "--verbose", "src/a.ts", "--open", "--dry-run",
      "--config=cfg=1.yaml"] =
        .ok {
          source := .ofString "src/a.ts"
          config := some (some (.ofString "cfg=1.yaml"))
          opens := true
          mode := .dryRun
          verbose := true } ∧
    cautious.options.opening = some true := by
  have listed : cautious.Lists scattered := {
    source := by decide
    flags := by
      intro s
      cases s <;> decide
    config := by decide
    bare := by
      intro value hv
      have named : value = "old.yaml" := by simpa [scattered] using hv
      subst named
      decide }
  obtain ⟨read, wanted, -⟩ := listed_options_are_read_in_any_order cautious scattered listed
  exact ⟨listed, read, wanted⟩

end Invocation

end Scaffold.Options
