import Mathlib.Data.List.TakeDrop
import Mathlib.Data.List.TakeWhile
import Scaffold.Options

/-!
# How an option is written

An argument that stands for an option is a name and, if a value goes with it, an equals sign and
that value. The name may be cut short as long as it is still the beginning of one option's name
only. `Writes` says so without the functions that take an argument apart, and the arguments that
become the token of an option are those, a call for help apart, which has a short name as well.
-/

namespace Scaffold.Options

namespace Switch

/-- The text is the beginning of an option's name, and no other option has a name that begins so. -/
def Named (s : Switch) (name : List Char) : Prop :=
  (∃ e ∈ spellings, name <+: e.1.toList) ∧ ∀ e ∈ spellings, name <+: e.1.toList → e.2 = s

instance (s : Switch) (name : List Char) : Decidable (s.Named name) :=
  inferInstanceAs (Decidable (_ ∧ _))

variable {s t : Switch} {name : List Char}

theorem Named.unique (hs : s.Named name) (ht : t.Named name) : s = t := by
  obtain ⟨e, he, begins⟩ := hs.1
  rw [← hs.2 e he begins, ht.2 e he begins]

/-- Only the call for help has a name with a single dash. -/
theorem Named.dashes (h : s.Named name) (hs : s ≠ .help) : ∃ rest, name = '-' :: '-' :: rest := by
  have force : ("--force", .force) ∈ spellings := by decide
  have opens : ("--open", .opens) ∈ spellings := by decide
  -- what begins the names of two options is the name of neither
  have apart : ¬(name <+: "--force".toList ∧ name <+: "--open".toList) := by
    intro both
    cases (h.2 _ force both.1).trans (h.2 _ opens both.2).symm
  have dashed : ∀ e ∈ spellings, e.2 ≠ .help → ['-', '-'] <+: e.1.toList := by decide
  obtain ⟨e, he, begins⟩ := h.1
  obtain ⟨rest, hr⟩ := dashed e he (h.2 e he begins ▸ hs)
  rw [← hr] at begins
  match name with
  | [] => exact absurd ⟨List.nil_prefix, List.nil_prefix⟩ apart
  | [c] =>
    have hc : c = '-' := by simpa using begins
    subst hc
    exact absurd (by decide) apart
  | c :: d :: after =>
    have same : c = '-' ∧ d = '-' ∧ after <+: rest := by simpa using begins
    obtain ⟨rfl, rfl, -⟩ := same
    exact ⟨after, rfl⟩

theorem mem_of_lookup {text : String} (h : spellings.lookup text = some s) :
    (text, s) ∈ spellings := by
  obtain ⟨before, after, split, -⟩ := List.lookup_eq_some_iff.mp h
  rw [split]
  exact List.mem_append_right before List.mem_cons_self

theorem named_of_lookup (h : spellings.lookup (String.ofList name) = some s) : s.Named name := by
  have alone : ∀ e ∈ spellings, ∀ f ∈ spellings, e.1.toList <+: f.1.toList → f.2 = e.2 := by decide
  refine ⟨⟨_, mem_of_lookup h, ?_⟩, fun f hf begins => alone _ (mem_of_lookup h) f hf ?_⟩
  · simp
  · rwa [String.toList_ofList]

/-- The options that a text may mean. -/
abbrev meant (name : List Char) : List (String × Switch) :=
  spellings.filter fun e => name.isPrefixOf e.1.toList

theorem mem_meant_iff {e : String × Switch} :
    e ∈ meant name ↔ e ∈ spellings ∧ name <+: e.1.toList := by
  rw [List.mem_filter, List.isPrefixOf_iff_prefix]

theorem named_of_meant {k : String} (h : meant name = [(k, s)]) : s.Named name := by
  have only (e : String × Switch) : e ∈ spellings ∧ name <+: e.1.toList ↔ e = (k, s) := by
    rw [← mem_meant_iff, h, List.mem_singleton]
  obtain ⟨listed, begins⟩ := (only (k, s)).mpr rfl
  refine ⟨⟨_, listed, begins⟩, fun e he hb => ?_⟩
  rw [(only e).mp ⟨he, hb⟩]

theorem Named.meant_eq (h : s.Named name) (hs : s ≠ .help) : meant name = [(s.label, s)] := by
  have own : spellings.filter (·.2 == s) = [(s.label, s)] := by
    cases s with
    | help => exact absurd rfl hs
    | _ => rfl
  obtain ⟨e, he, begins⟩ := h.1
  have listed : e ∈ spellings.filter (·.2 == s) :=
    List.mem_filter.mpr ⟨he, by simp [h.2 e he begins]⟩
  rw [own, List.mem_singleton] at listed
  subst listed
  calc meant name
      = (spellings.filter (·.2 == s)).filter fun e => name.isPrefixOf e.1.toList := by
        rw [List.filter_filter]
        refine List.filter_congr fun f hf => ?_
        cases hb : name.isPrefixOf f.1.toList with
        | false => rfl
        | true => simp [h.2 f hf (List.isPrefixOf_iff_prefix.mp hb)]
    _ = [(s.label, s)] := by
        rw [own]
        exact List.filter_eq_self.mpr (by simpa using begins)

end Switch

namespace Token

/-- What follows the name of an option. -/
def attachment : Option String → List Char
  | none => []
  | some value => '=' :: value.toList

/-- The argument is a name of the option, with the value attached to it if there is one. -/
def Writes (text : String) (s : Switch) (value : Option String) : Prop :=
  ∃ name, s.Named name ∧ '=' ∉ name ∧ text.toList = name ++ attachment value

variable {s : Switch} {text : String} {value : Option String}

/-! ### Taking an argument apart -/

theorem splitValue_append {name : List Char} (h : '=' ∉ name) (value : Option String) :
    splitValue (name ++ attachment value) = (name, value.map String.toList) := by
  have inside : ∀ c ∈ name, (c != '=') = true := by
    intro c hc
    simpa using ne_of_mem_of_not_mem hc h
  unfold splitValue
  rw [List.span_eq_takeWhile_dropWhile, List.takeWhile_append_of_pos inside,
    List.dropWhile_append_of_pos inside]
  cases value with
  | none => simp [attachment]
  | some value => simp [attachment]

theorem splitValue_parts (cs : List Char) :
    '=' ∉ (splitValue cs).1 ∧
      cs = (splitValue cs).1 ++ attachment ((splitValue cs).2.map String.ofList) := by
  have outside : '=' ∉ cs.takeWhile (· != '=') := by
    intro inside
    simpa using List.mem_takeWhile_imp inside
  have whole : cs = cs.takeWhile (· != '=') ++ cs.dropWhile (· != '=') :=
    List.takeWhile_append_dropWhile.symm
  have stop := List.head?_dropWhile_not (· != '=') cs
  unfold splitValue
  rw [List.span_eq_takeWhile_dropWhile]
  cases hd : cs.dropWhile (· != '=') with
  | nil =>
    rw [hd] at whole
    exact ⟨outside, whole⟩
  | cons c rest =>
    rw [hd] at whole stop
    have hc : c = '=' := by simpa using stop
    subst hc
    exact ⟨outside, by simpa [attachment] using whole⟩

theorem Writes.parts (h : Writes text s value) :
    s.Named (splitValue text.toList).1 ∧ (splitValue text.toList).2.map String.ofList = value := by
  obtain ⟨name, named, outside, whole⟩ := h
  rw [whole, splitValue_append outside]
  refine ⟨named, ?_⟩
  cases value <;> simp

theorem Writes.unique {t : Switch} {other : Option String} (h : Writes text s value)
    (h' : Writes text t other) : s = t ∧ value = other :=
  ⟨h.parts.1.unique h'.parts.1, h.parts.2.symm.trans h'.parts.2⟩

theorem Writes.dashes (h : Writes text s value) (hs : s ≠ .help) :
    ∃ rest, text.toList = '-' :: '-' :: rest := by
  obtain ⟨name, named, -, whole⟩ := h
  obtain ⟨rest, rfl⟩ := named.dashes hs
  exact ⟨_, whole⟩

/-- A double dash begins the names of several options and is the name of none. -/
theorem Writes.ne_separator (h : Writes text s value) : text ≠ "--" := by
  have shared : ∀ t : Switch, ¬t.Named (splitValue "--".toList).1 := by
    intro t
    cases t <;> decide
  rintro rfl
  exact shared s h.parts.1

theorem writes_of_lookup (h : Switch.spellings.lookup text = some s) : Writes text s none := by
  have plain : ∀ e ∈ Switch.spellings, '=' ∉ e.1.toList := by decide
  refine ⟨text.toList, Switch.named_of_lookup ?_, plain _ (Switch.mem_of_lookup h), ?_⟩
  · rwa [String.ofList_toList]
  · rw [attachment, List.append_nil]

/-! ### Tokens of options -/

theorem not_plain (h : ofDashed.plain text = .switch s value) : False := by
  unfold ofDashed.plain at h
  split at h <;> cases h

theorem writes_of_ofDashed (hs : s ≠ .help) (h : ofDashed text = .ok (.switch s value)) :
    Writes text s value := by
  obtain ⟨outside, whole⟩ := splitValue_parts text.toList
  unfold ofDashed at h
  obtain ⟨⟨name, attached⟩, hv⟩ : ∃ parts, splitValue text.toList = parts := ⟨_, rfl⟩
  rw [hv] at outside whole
  simp only [hv] at h
  split at h
  -- two dashes: the name stands in the table, or begins one name of it only
  · split at h
    · cases h
      exact ⟨name, Switch.named_of_lookup ‹_›, outside, whole⟩
    · split at h
      · cases h
        exact ⟨name, Switch.named_of_meant ‹_›, outside, whole⟩
      · exact (not_plain (Except.ok.inj h)).elim
      · cases h
  · cases h
    exact absurd rfl hs
  · cases h
    exact absurd rfl hs
  · exact (not_plain (Except.ok.inj h)).elim

theorem ofDashed_of_writes (hs : s ≠ .help) (h : Writes text s value) :
    ofDashed text = .ok (.switch s value) := by
  obtain ⟨named, given⟩ := h.parts
  obtain ⟨rest, dashes⟩ := h.dashes hs
  obtain ⟨⟨name, attached⟩, hv⟩ : ∃ parts, splitValue text.toList = parts := ⟨_, rfl⟩
  rw [hv] at named given
  have alone : Switch.spellings.filter (fun e => name.isPrefixOf e.1.toList) = [(s.label, s)] :=
    named.meant_eq hs
  unfold ofDashed
  simp only [hv, given]
  simp only [dashes, alone]
  split
  · rename_i found
    cases (Switch.named_of_lookup found).unique named
    rfl
  · rfl

/-- The arguments that become the token of an option are those that are written so. -/
theorem ofArgument_eq_switch_iff (hs : s ≠ .help) :
    ofArgument text = .ok (.switch s value) ↔ Writes text s value := by
  unfold ofArgument
  cases hl : Switch.spellings.lookup text with
  | some t =>
    have full := writes_of_lookup hl
    constructor
    · intro h
      cases h
      exact full
    · intro h
      obtain ⟨rfl, rfl⟩ := h.unique full
      rfl
  | none =>
    dsimp only
    split
    · rename_i dash
      refine iff_of_false nofun fun h => ?_
      obtain ⟨rest, dashes⟩ := h.dashes hs
      cases dash.symm.trans dashes
    · exact ⟨writes_of_ofDashed hs, ofDashed_of_writes hs⟩
    · rename_i bare
      refine iff_of_false nofun fun h => ?_
      obtain ⟨rest, dashes⟩ := h.dashes hs
      exact bare _ dashes

theorem ofArguments_cons_eq_ok_iff {texts : List String} {tokens : List Token} (h : text ≠ "--") :
    ofArguments (text :: texts) = .ok tokens ↔
      ∃ t ts, ofArgument text = .ok t ∧ ofArguments texts = .ok ts ∧ tokens = t :: ts := by
  rw [ofArguments, if_neg (by simpa using h)]
  cases ofArgument text with
  | error f => simp [bind, Except.bind]
  | ok t =>
    cases ofArguments texts with
    | error f => simp [bind, Except.bind]
    | ok ts => simp [bind, Except.bind, pure, Except.pure, eq_comm]

end Token

end Scaffold.Options
