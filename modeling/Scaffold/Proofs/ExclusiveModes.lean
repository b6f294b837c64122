import Scaffold.Proofs.CommandStages
import Scaffold.Proofs.OptionNames
import Scaffold.Proofs.TargetPaths

/-!
# Options that exclude each other

A dry run and a dump of the exports are not asked for together: on the way through the tokens the
mode is that of the flag that has been met, and the other flag stops the reading. So a command line
that is read at all has the mode of the only such flag in it, and the one argument that the options
leave over is its source. A command line with both flags is never read, and the run for it only
prints why.
-/

namespace Scaffold

/-- The flag that asks for the mode. -/
def Mode.flag? : Mode → Option Options.Switch
  | .write => none
  | .dryRun => some .dryRun
  | .dumpExports => some .dumpExports

theorem Mode.flag?_inj {m n : Mode} {f : Options.Switch} (hm : m.flag? = some f)
    (hn : n.flag? = some f) : m = n := by
  cases m <;> cases hm <;> cases n <;> cases hn <;> rfl

namespace Options

/-- The tokens hold the option. -/
def Has (s : Switch) (tokens : List Token) : Prop :=
  ∃ value, .switch s value ∈ tokens

/-- One of the arguments before a double dash is written as the option, cut short or in full, with a
value or without. -/
def Recognized (s : Switch) (arguments : List String) : Prop :=
  ∃ text ∈ arguments.takeWhile (· != "--"), ∃ value, Token.Writes text s value

/-- The arguments that are no value of an option. -/
def free : List Token → List String
  | [] => []
  | .switch .config none :: .argument _ :: rest => free rest
  | .argument text :: rest => text :: free rest
  | _ :: rest => free rest

variable {s : Switch} {text : String} {tokens rest : List Token} {p q : Progress} {o : Options}

/-! ### The tokens of a command line -/

theorem has_cons {t : Token} :
    Has s (t :: tokens) ↔ (∃ value, t = .switch s value) ∨ Has s tokens := by
  unfold Has
  simp only [List.mem_cons, exists_or, eq_comm]

theorem recognized_cons {texts : List String} (h : text ≠ "--") :
    Recognized s (text :: texts) ↔ (∃ value, Token.Writes text s value) ∨ Recognized s texts := by
  unfold Recognized
  rw [List.takeWhile_cons_of_pos (by simpa using h)]
  simp only [List.mem_cons, or_and_right, exists_or, exists_eq_left]

theorem has_iff_recognized {arguments : List String} (hs : s ≠ .help)
    (h : Token.ofArguments arguments = .ok tokens) : Has s tokens ↔ Recognized s arguments := by
  induction arguments generalizing tokens with
  | nil =>
    cases h
    simp [Has, Recognized]
  | cons text texts ih =>
    by_cases separator : text = "--"
    · subst separator
      cases h
      simp [Has, Recognized]
    · obtain ⟨t, ts, ht, hts, rfl⟩ := (Token.ofArguments_cons_eq_ok_iff separator).mp h
      rw [has_cons, recognized_cons separator, ih hts]
      refine or_congr (exists_congr fun value => ?_) Iff.rfl
      rw [← Token.ofArgument_eq_switch_iff hs, ht, Except.ok.injEq]

/-! ### Going through the tokens -/

/-- All that a flag can do. -/
theorem turn_cases (h : p.turn s = .ok q) :
    (s = .force ∧ q = { p with force := true }) ∨ (s = .opens ∧ q = { p with opens := true }) ∨
      (s = .verbose ∧ q = { p with verbose := true }) ∨
      ∃ m, m.flag? = some s ∧ (p.mode = .write ∨ p.mode = m) ∧ q = { p with mode := m } := by
  cases s with
  | help => cases h
  | config => cases h
  | force => exact Or.inl ⟨rfl, (Except.ok.inj h).symm⟩
  | opens => exact Or.inr (Or.inl ⟨rfl, (Except.ok.inj h).symm⟩)
  | verbose => exact Or.inr (Or.inr (Or.inl ⟨rfl, (Except.ok.inj h).symm⟩))
  | dryRun =>
    rw [Progress.turn] at h
    split at h
    · cases h
    · rename_i clear
      refine Or.inr (Or.inr (Or.inr ⟨.dryRun, rfl, ?_, (Except.ok.inj h).symm⟩))
      cases hm : p.mode <;> simp [hm] at clear ⊢
  | dumpExports =>
    rw [Progress.turn] at h
    split at h
    · cases h
    · rename_i clear
      refine Or.inr (Or.inr (Or.inr ⟨.dumpExports, rfl, ?_, (Except.ok.inj h).symm⟩))
      cases hm : p.mode <;> simp [hm] at clear ⊢

theorem turn_extras (h : p.turn s = .ok q) : q.extras = p.extras := by
  obtain ⟨-, rfl⟩ | ⟨-, rfl⟩ | ⟨-, rfl⟩ | ⟨m, -, -, rfl⟩ := turn_cases h <;> rfl

theorem turn_mode {m : Mode} {f : Switch} (hf : m.flag? = some f) (h : p.turn s = .ok q) :
    q.mode = m ↔ p.mode = m ∨ s = f := by
  obtain ⟨rfl, rfl⟩ | ⟨rfl, rfl⟩ | ⟨rfl, rfl⟩ | ⟨n, hn, before, rfl⟩ := turn_cases h
  · cases m <;> cases hf <;> simp
  · cases m <;> cases hf <;> simp
  · cases m <;> cases hf <;> simp
  · constructor
    · rintro rfl
      exact Or.inr (Option.some.inj (hn.symm.trans hf))
    · rintro (rfl | rfl)
      · obtain rest | same := before
        · rw [rest] at hf
          cases hf
        · exact same.symm
      · exact Mode.flag?_inj hn hf

theorem extras_extra (p : Progress) (text : String) : (p.extra text).extras ≠ [] :=
  List.concat_ne_nil _ _

/-- The ways in which the source can stand among the tokens. -/
def places (text : String) : List (List Token) :=
  [[.argument text], [.argument text, .separator], [.separator, .argument text]]

/-- The tokens bring what has been read from one state to another, and each has its place. -/
inductive Reads : Progress → List Token → Progress → Prop where
  | done (p : Progress) : Reads p [] p
  | config {p q : Progress} {text : String} {rest : List Token}
      (h : Reads (p.configured text) rest q) :
      Reads p (.switch .config none :: .argument text :: rest) q
  | attached {p q : Progress} {value : String} {rest : List Token}
      (h : Reads (p.configured value) rest q) : Reads p (.switch .config (some value) :: rest) q
  | flag {p next q : Progress} {s : Switch} {rest : List Token} (ht : p.turn s = .ok next)
      (h : Reads next rest q) : Reads p (.switch s none :: rest) q
  | source {p q : Progress} {text : String} {rest : List Token} (place : List Token)
      (hp : place ∈ places text) (hn : p.source = none)
      (h : Reads { p with source := some (.ofString text) } rest q) : Reads p (place ++ rest) q

/-- Where nothing is left over at the end, everything has its place. -/
theorem reads_of_consume (h : consume p tokens = .ok q) (hq : q.extras = []) :
    p.extras = [] ∧ Reads p tokens q := by
  fun_induction consume p tokens with
  | case1 p =>
    cases h
    exact ⟨hq, .done _⟩
  | case2 p text rest ih =>
    obtain ⟨clean, reads⟩ := ih h
    exact ⟨clean, .config reads⟩
  | case3 p value rest ih =>
    obtain ⟨clean, reads⟩ := ih h
    exact ⟨clean, .attached reads⟩
  | case4 => cases h
  | case5 p s rest _ next ht ih =>
    obtain ⟨clean, reads⟩ := ih h
    exact ⟨turn_extras ht ▸ clean, .flag ht reads⟩
  | case6 => cases h
  | case8 p text rest hn ih =>
    obtain ⟨clean, reads⟩ := ih h
    exact ⟨clean, .source [.separator, .argument text] (by simp [places]) (by simpa using hn) reads⟩
  | case11 p text rest hn ih =>
    obtain ⟨clean, reads⟩ := ih h
    exact ⟨clean, .source [.argument text, .separator] (by simp [places]) (by simpa using hn) reads⟩
  | case13 p text rest _ hn ih =>
    obtain ⟨clean, reads⟩ := ih h
    exact ⟨clean, .source [.argument text] (by simp [places]) (by simpa using hn) reads⟩
  -- what has no place is kept for the end
  | _ =>
    rename_i ih
    exact absurd (ih h).1 (extras_extra _ _)

theorem has_append {place : List Token} (hp : place ∈ places text) :
    Has s (place ++ rest) ↔ Has s rest := by
  simp only [places, List.mem_cons, List.not_mem_nil, or_false] at hp
  obtain rfl | rfl | rfl := hp <;> simp [Has]

theorem free_append {place : List Token} (hp : place ∈ places text) :
    free (place ++ rest) = text :: free rest := by
  simp only [places, List.mem_cons, List.not_mem_nil, or_false] at hp
  obtain rfl | rfl | rfl := hp <;> simp [free]

theorem Reads.mode {m : Mode} {f : Switch} (hf : m.flag? = some f) (h : Reads p tokens q) :
    q.mode = m ↔ p.mode = m ∨ Has f tokens := by
  have named : Switch.config ≠ f := by
    rintro rfl
    cases m <;> cases hf
  induction h with
  | done p => simp [Has]
  | config h ih =>
    refine ih.trans ?_
    simp [Progress.configured, has_cons, named]
  | attached h ih =>
    refine ih.trans ?_
    simp [Progress.configured, has_cons, named]
  | flag ht h ih =>
    refine ih.trans ?_
    rw [turn_mode hf ht, has_cons, or_assoc]
    simp
  | source place hp hn h ih =>
    refine ih.trans ?_
    rw [has_append hp]

/-- The sources are the one that has been read before, if any, and then the arguments that are
free. -/
theorem Reads.sources (h : Reads p tokens q) :
    q.source.toList = p.source.toList ++ (free tokens).map .ofString := by
  induction h with
  | done p => simp [free]
  | config h ih => simpa [Progress.configured, free] using ih
  | attached h ih => simpa [Progress.configured, free] using ih
  | @flag p next q s rest ht h ih =>
    have passed : free (.switch s none :: rest) = free rest := by
      cases s with
      | config => cases ht
      | _ => simp [free]
    rw [ih, turn_source ht, passed]
  | source place hp hn h ih =>
    rw [ih, free_append hp, hn]
    rfl

theorem reads_of_parse {arguments : List String} (h : parse arguments = .ok o) :
    ∃ tokens p, Token.ofArguments arguments = .ok tokens ∧ Reads {} tokens p ∧
      p.source = some o.source ∧ p.mode = o.mode := by
  unfold parse at h
  cases ht : Token.ofArguments arguments with
  | error f =>
    rw [ht] at h
    cases h
  | ok tokens =>
    cases hc : consume {} tokens with
    | error stop =>
      rw [ht] at h
      simp [hc, bind, Except.bind] at h
    | ok p =>
      rw [ht] at h
      simp only [hc, bind, Except.bind, Progress.finish] at h
      split at h
      · cases h
      · rename_i source hs
        split at h
        · rename_i clean
          cases h
          exact ⟨tokens, p, rfl, (reads_of_consume hc (List.isEmpty_iff.mp clean)).2, hs, rfl⟩
        · cases h

theorem mode_of_parse {arguments : List String} {m : Mode} {f : Switch} (hf : m.flag? = some f)
    (h : parse arguments = .ok o) : o.mode = m ↔ Recognized f arguments := by
  obtain ⟨tokens, p, ht, reads, -, hm⟩ := reads_of_parse h
  have named : f ≠ .help := by
    rintro rfl
    cases m <;> cases hf
  have unset : ({} : Progress).mode ≠ m := by
    rintro rfl
    cases hf
  rw [← hm, reads.mode hf, ← has_iff_recognized named ht]
  simp [unset]

theorem source_of_parse {arguments : List String} (h : parse arguments = .ok o) :
    ∃ tokens text, Token.ofArguments arguments = .ok tokens ∧ free tokens = [text] ∧
      o.source = .ofString text := by
  obtain ⟨tokens, p, ht, reads, hs, -⟩ := reads_of_parse h
  have sources := reads.sources
  rw [hs] at sources
  have one : (free tokens).map Path.ofString = [o.source] := sources.symm
  obtain ⟨text, hf, hp⟩ := List.map_eq_singleton_iff.mp one
  exact ⟨tokens, text, ht, hf, hp.symm⟩

end Options

namespace Command

open Script Options

/-- The request only prints. -/
def Speaks : Request → Prop
  | .print _ => True
  | .complain _ => True
  | _ => False

/-- The exit status of a run that has no options to act on. -/
def status : Stop → Nat
  | .help => 0
  | .usage _ => 2

theorem run_speaks {arguments : List String} {stop : Stop} (h : parse arguments = .error stop) :
    (run arguments).Only Speaks fun _ => False := by
  unfold run
  rw [h]
  cases stop with
  | help => exact .bind (.request trivial) fun _ => .pure _
  | usage f => exact .bind (.request trivial) fun _ => .pure _

theorem run_stops {arguments : List String} {stop : Stop} (h : parse arguments = .error stop)
    (w : World) :
    ((run arguments).run w).1 = .ok (.stopped (status stop)) ∧
      ((run arguments).run w).2.disk = w.disk := by
  unfold run
  rw [h]
  cases stop with
  | help => exact ⟨rfl, rfl⟩
  | usage f => exact ⟨rfl, rfl⟩

/-- A command line that is read has the mode of the flag for it that it holds, so not both flags,
and exactly one argument that the options leave over, its source. With both flags, however they are
written and wherever they stand, a command line is not read: the run for it asks for no file, but
prints and stops. -/
theorem modes_exclude_each_other (arguments : List String) :
    (∀ o, parse arguments = .ok o →
      (o.mode = .dryRun ↔ Recognized .dryRun arguments) ∧
      (o.mode = .dumpExports ↔ Recognized .dumpExports arguments) ∧
      ¬(Recognized .dryRun arguments ∧ Recognized .dumpExports arguments) ∧
      ∃ tokens text, Token.ofArguments arguments = .ok tokens ∧ free tokens = [text] ∧
        o.source = .ofString text) ∧
    (Recognized .dryRun arguments → Recognized .dumpExports arguments →
      (run arguments).Only Speaks (fun _ => False) ∧
      ∃ stop, parse arguments = .error stop ∧ ∀ w,
        ((run arguments).run w).1 = .ok (.stopped (status stop)) ∧
          ((run arguments).run w).2.disk = w.disk) := by
  have exclusive : ∀ o, parse arguments = .ok o →
      ¬(Recognized .dryRun arguments ∧ Recognized .dumpExports arguments) := by
    rintro o h ⟨dry, dump⟩
    have first : o.mode = .dryRun := (mode_of_parse rfl h).mpr dry
    have second : o.mode = .dumpExports := (mode_of_parse rfl h).mpr dump
    cases first.symm.trans second
  constructor
  · intro o h
    exact ⟨mode_of_parse rfl h, mode_of_parse rfl h, exclusive o h, source_of_parse h⟩
  · intro dry dump
    cases h : parse arguments with
    | ok o => exact absurd ⟨dry, dump⟩ (exclusive o h)
    | error stop => exact ⟨run_speaks h, stop, rfl, run_stops h⟩

theorem recognized_of_name {s : Switch} {arguments : List String} (text : String)
    (ht : text ∈ arguments.takeWhile (· != "--")) (hn : s.Named text.toList)
    (he : '=' ∉ text.toList) : Recognized s arguments :=
  ⟨text, ht, none, text.toList, hn, he, (List.append_nil _).symm⟩

/-- After a double dash a flag is the name of a source; before it, both flags may be cut short. -/
theorem modes_apart_when_cut_short :
    (∃ o, parse ["--dry", "--", "--dump-exports"] = .ok o ∧
      Recognized .dryRun ["--dry", "--", "--dump-exports"] ∧
      ¬Recognized .dumpExports ["--dry", "--", "--dump-exports"] ∧
      ∃ tokens text, Token.ofArguments ["--dry", "--", "--dump-exports"] = .ok tokens ∧
        free tokens = [text] ∧ o.source = .ofString text) ∧
    Recognized .dryRun ["--du", "m.ts", "--dry-r"] ∧
    Recognized .dumpExports ["--du", "m.ts", "--dry-r"] ∧
    (run ["--du", "m.ts", "--dry-r"]).Only Speaks (fun _ => False) ∧
    ∃ stop, parse ["--du", "m.ts", "--dry-r"] = .error stop ∧
      ((run ["--du", "m.ts", "--dry-r"]).run {}).1 = .ok (.stopped (status stop)) := by
  have dry : Recognized .dryRun ["--du", "m.ts", "--dry-r"] :=
    recognized_of_name "--dry-r" (by decide) (by decide) (by decide)
  have dump : Recognized .dumpExports ["--du", "m.ts", "--dry-r"] :=
    recognized_of_name "--du" (by decide) (by decide) (by decide)
  obtain ⟨-, stopped⟩ := modes_exclude_each_other ["--du", "m.ts", "--dry-r"]
  obtain ⟨speaks, stop, unread, ends⟩ := stopped dry dump
  obtain ⟨read, -⟩ := modes_exclude_each_other ["--dry", "--", "--dump-exports"]
  have parsed : parse ["--dry", "--", "--dump-exports"] =
      .ok { source := .ofString "--dump-exports", mode := .dryRun } := rfl
  obtain ⟨asked, unasked, -, one⟩ := read _ parsed
  have absent : ¬Recognized .dumpExports ["--dry", "--", "--dump-exports"] := by
    intro h
    cases unasked.mpr h
  exact ⟨⟨_, parsed, asked.mp rfl, absent, one⟩, dry, dump, speaks, stop, unread, (ends {}).1⟩

end Command

end Scaffold
