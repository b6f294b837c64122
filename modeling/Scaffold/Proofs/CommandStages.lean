import Scaffold.Command
import Scaffold.Proofs.GenerationStages

/-!
# The stages of a run of the command

Before a run gets to work it only looks at files. In write mode it then loads the settings and
generates a test; what comes after that leaves records and decides how the run ends. The other
modes never touch the disk.
-/

namespace Scaffold

open Script

namespace Configuration

open Generation (Unexpected)

theorem read_observes (p : Path) : (read p).Only Observes Unexpected := by
  have value : ∀ contents, (valueOf p contents).Only Observes Unexpected := by
    intro contents
    refine (Only.ofExcept (fun _ => trivial) _).bind fun text => ?_
    split
    · exact .pure _
    · exact .fail rfl
    · exact .fail trivial
  refine (Only.present trivial).bind fun there => ?_
  split
  · refine (Only.read trivial trivial).bind fun result => ?_
    split
    · exact value _
    · exact .fail rfl
  · exact .pure _

theorem firstMarked_observes {possible : Failure → Prop} (folders : List Path) :
    (firstMarked folders).Only Observes possible := by
  have anyPresent : ∀ ps, (firstMarked.anyPresent ps).Only Observes possible := by
    intro ps
    induction ps with
    | nil => exact .pure _
    | cons p ps ih =>
      refine (Only.present trivial).bind fun there => ?_
      split
      · exact .pure _
      · exact ih
  induction folders with
  | nil => exact .pure _
  | cons folder folders ih =>
    refine (anyPresent _).bind fun found => ?_
    split
    · exact .pure _
    · exact ih

theorem find_observes (source : Path) : (find source).Only Observes Unexpected := by
  have resolved : (resolved source).Only Observes Unexpected := by
    unfold resolved
    split
    · exact (Only.request trivial).bind fun _ => .pure _
    · exact .fail trivial
  refine (read_observes _).bind fun here => ?_
  split
  · exact .pure _
  · refine resolved.bind fun p => (firstMarked_observes _).bind fun root => ?_
    split
    · exact read_observes _
    · exact .pure _

/-- The value of a configuration, from the given file or from the one that is found. -/
def value (source : Path) : Option Path → Script Value
  | some p => read p
  | none => find source

/-- The settings that a configuration comes to, with the notices about it. -/
def settle (language : Language) (raw : Value) : Script Settings := do
  let (notices, settings) := Settings.interpret raw language
  notices.forM fun n =>
    log (if n.isWarning then .warning else .debug) .configuration n.message
  ofExcept .unorderable settings

theorem load_eq (source : Path) (language : Language) (file : Option Path) :
    load source language file = value source file >>= settle language := by
  cases file <;> rfl

theorem value_observes (source : Path) (file : Option Path) :
    (value source file).Only Observes Unexpected := by
  cases file with
  | none => exact find_observes source
  | some p => exact read_observes p

theorem settle_observes (language : Language) (raw : Value) :
    (settle language raw).Only Observes Unexpected := by
  have notice (level message) : (log level .configuration message).Only Observes Unexpected :=
    .request (show Log.Topic.configuration ≠ .command by decide)
  exact (Only.forM _ fun _ => notice _ _).bind fun _ => .ofExcept (fun _ => trivial) _

theorem load_observes (source : Path) (language : Language) (file : Option Path) :
    (load source language file).Only Observes Unexpected := by
  rw [load_eq]
  exact (value_observes source file).bind (settle_observes language)

theorem load_looks (source : Path) (language : Language) (file : Option Path) :
    (load source language file).Only Looks Unexpected :=
  (load_observes source language file).looks

end Configuration

namespace Command

open Generation (Unexpected)

theorem report_looks (e : Failure) : (report e).Only Looks fun _ => True := by
  unfold report
  split
  · split
    · exact (looks_log _ _ _).bind fun _ => .pure _
    · exact (looks_log _ _ _).bind fun _ => .pure _
  · exact .fail trivial

theorem conclude_looks (target : Option Target) : (conclude target).Only Looks fun _ => True := by
  unfold conclude
  split
  · exact (looks_log _ _ _).bind fun _ => .pure _
  · exact .pure _

theorem work_discreet {o : Options} (h : o.mode ≠ .write) (language : Language) :
    (work o language).Only Discreet fun _ => True := by
  have discreet {α : Type} {possible : Failure → Prop} {s : Script α} (hs : s.Only Looks possible) :
      s.Only Discreet fun _ => True :=
    hs.mono discreet_of_looks fun _ _ => trivial
  have exports (dialect) : (Generation.exportsOf o.source dialect).Only Looks Unexpected :=
    (Generation.exportsOf_readsAt o.source dialect).mono (looks_of_readsAt _) fun _ he => he
  refine (discreet (Configuration.load_looks _ _ _)).bind fun settings => ?_
  split
  · refine (discreet (exports _)).bind fun surface => ?_
    refine (Only.ofExcept (fun _ => trivial) _).bind fun text => ?_
    exact (Only.request trivial).bind fun _ => .pure _
  · have target : (Generation.targetOf o.source settings).Only Looks Unexpected :=
      (Only.request trivial).bind fun _ => .ofExcept (fun _ => trivial) _
    refine (discreet target).bind fun target => (Only.request trivial).bind fun _ => ?_
    refine (discreet (Generation.contents_looks _ _)).bind fun text => ?_
    exact (Only.request trivial).bind fun _ => .pure _
  · exact absurd ‹_› h

theorem execute_discreet {o : Options} (h : o.mode ≠ .write) :
    (execute o).Only Discreet fun _ => True := by
  have stop (message) : (log .error .command message >>= fun _ => pure (Ending.stopped 1)).Only
      Discreet fun _ => True := (Only.request trivial).bind fun _ => .pure _
  refine (Only.request trivial).bind fun _ => ?_
  have found : (isFile o.source).Only Discreet fun _ => True :=
    (Only.entry trivial).bind fun found => by
      split <;> exact .pure _
  refine found.bind fun there => ?_
  split
  · exact stop _
  split
  · exact stop _
  · rename_i language _
    have attempt : (work o language >>= conclude).Only Discreet fun _ => True :=
      (work_discreet h language).bind fun result =>
        (conclude_looks result).mono discreet_of_looks fun _ he => he
    refine (Only.request trivial).bind fun _ => attempt.rescue fun e => ?_
    exact (report_looks e).mono discreet_of_looks fun _ he => he

theorem execute_disk {o : Options} (h : o.mode ≠ .write) (w : World) :
    ((execute o).run w).2.disk = w.disk := by
  obtain ⟨_, _, _, _, hr⟩ := (execute_discreet h).run_discreet w
  rw [hr]

theorem work_generate {o : Options} (h : o.mode = .write) (language : Language) :
    work o language = (do
      let settings ← Configuration.load o.source language o.config.join
      let target ← Generation.generate o.source settings o.force
        (if o.opens then some true else none) Generation.confirm
      return some target) := by
  simp [work, h]

theorem run_conclude (result : Option Target) (w : World) :
    ∃ records, (conclude result).run w = (.ok .returned, { w with records }) := by
  cases result with
  | none => exact ⟨w.records, rfl⟩
  | some target =>
    obtain ⟨records, hl⟩ := run_log .info .command s!"Generated unit test: {target.file}" w
    exact ⟨records, run_bind_of_ok hl _⟩

theorem run_attempt (s : Script (Option Target)) (w : World) :
    ((s.bind conclude).rescue report).run w =
      match s.run w with
      | (.ok result, v) => (conclude result).run v
      | (.error e, v) => (report e).run v := by
  change ((s >>= conclude).rescue report).run w = _
  cases hs : s.run w with
  | mk outcome v =>
    cases outcome with
    | error e => exact run_rescue_of_error (run_bind_of_error hs conclude) report
    | ok result =>
      obtain ⟨records, hc⟩ := run_conclude result v
      have hb := run_bind_of_ok hs conclude
      rw [hc] at hb
      exact (run_rescue_of_ok hb report).trans hc.symm

/-- The target of a run with these options, as the disk has it before the run. -/
def Aims (w : World) (o : Options) (target : Target) : Prop :=
  ∃ language settings, Language.ofPath o.source = .ok language ∧
    ((Configuration.load o.source language o.config.join).run w).1 = .ok settings ∧
    Target.ofSource w.workingFolder o.source settings = .ok target

theorem eq_ok_of_toOption {ε α : Type} {x : Except ε α} {a : α} (h : x.toOption = some a) :
    x = .ok a := by
  cases x with
  | error e => cases h
  | ok b =>
    cases h
    rfl

theorem run_eq_of_toOption {α : Type} {s : Script α} {w : World} {a : α}
    (h : (s.run w).1.toOption = some a) : s.run w = (.ok a, (s.run w).2) :=
  Prod.ext (eq_ok_of_toOption h) rfl

/-- Settings cannot be compared, but what they come to can. -/
theorem aims_of_toOption {o : Options} {target : Target} {w : World} (language : Language)
    (hl : Language.ofPath o.source = .ok language)
    (ht : (((Configuration.load o.source language o.config.join).run w).1.toOption.bind fun settings =>
      (Target.ofSource w.workingFolder o.source settings).toOption) = some target) :
    Aims w o target := by
  obtain ⟨settings, hs, ht⟩ := Option.bind_eq_some_iff.mp ht
  exact ⟨language, settings, hl, eq_ok_of_toOption hs, eq_ok_of_toOption ht⟩

/-- The path can be used and leads to a file. -/
def LeadsToFile (w : World) (p : Path) : Prop :=
  isUsable p = true ∧ ∃ contents, w.disk.entry? w.workingFolder p = some (.file contents)

theorem run_isFile_of_file {p : Path} {w : World} (h : LeadsToFile w p) :
    (isFile p).run w = (.ok true, w) := by
  obtain ⟨hu, contents, hc⟩ := h
  refine (run_entry_bind p _ w).trans ?_
  rw [if_pos hu, hc]
  rfl

theorem run_isFile_of_not_file {p : Path} {w : World} (h : ¬LeadsToFile w p) :
    (isFile p).run w = (.ok false, w) := by
  refine (run_entry_bind p _ w).trans ?_
  split
  · rename_i contents found
    split at found
    · rename_i hu
      exact absurd ⟨hu, contents, found⟩ h
    · cases found
  · rfl

/-- The worlds differ at most in their records and in which records they keep. -/
def Agree (w v : World) : Prop :=
  ∃ least records, v = { w with least, records }

theorem Agree.refl (w : World) : Agree w w :=
  ⟨w.least, w.records, rfl⟩

theorem Agree.disk {w v : World} (h : Agree w v) : v.disk = w.disk := by
  obtain ⟨least, records, rfl⟩ := h
  rfl

theorem Agree.workingFolder {w v : World} (h : Agree w v) : v.workingFolder = w.workingFolder := by
  obtain ⟨least, records, rfl⟩ := h
  rfl

theorem Agree.of_looks {α : Type} {possible : Failure → Prop} {s : Script α}
    (h : s.Only Looks possible) {w v : World} (hv : Agree w v) : Agree w (s.run v).2 := by
  obtain ⟨least, records, rfl⟩ := hv
  obtain ⟨records, hr⟩ := h.run_records { w with least, records }
  exact ⟨least, records, hr⟩

theorem Agree.answer {w v : World} (h : Agree w v) (r : Request) :
    (v.answer r).1 = (w.answer r).1 ∧ Agree (w.answer r).2 (v.answer r).2 := by
  obtain ⟨least, records, rfl⟩ := h
  cases r with
  | makeFolder p =>
    simp only [World.answer, World.changing]
    split
    · exact ⟨rfl, least, records, rfl⟩
    · exact ⟨rfl, least, records, rfl⟩
  | write p contents =>
    simp only [World.answer, World.changing]
    split
    · exact ⟨rfl, least, records, rfl⟩
    · exact ⟨rfl, least, records, rfl⟩
  | record r =>
    refine ⟨rfl, ?_⟩
    simp only [World.answer]
    split <;> split <;> exact ⟨_, _, rfl⟩
  | keepFrom level => exact ⟨rfl, some level, records, rfl⟩
  | _ => exact ⟨rfl, least, records, rfl⟩

/-- No answer depends on the records, so no script can tell apart worlds that agree. -/
theorem Agree.run {α : Type} (s : Script α) {w v : World} (h : Agree w v) :
    (s.run v).1 = (s.run w).1 ∧ Agree (s.run w).2 (s.run v).2 := by
  induction s generalizing w v with
  | done a => exact ⟨rfl, h⟩
  | fail e => exact ⟨rfl, h⟩
  | ask r next ih =>
    obtain ⟨same, after⟩ := h.answer r
    rw [Script.run, Script.run, same]
    exact ih _ after

/-- The lowest level of the records that a run keeps. -/
def level (o : Options) : Log.Level :=
  if o.verbose then .debug else .info

theorem isKept_of_not_debug {r : Log.Record} (h : r.level ≠ .debug) (o : Options) :
    r.isKept (some (level o)) = true := by
  obtain ⟨l, topic, message⟩ := r
  unfold level
  cases l with
  | debug => exact absurd rfl h
  | _ => cases o.verbose <;> rfl

/-- The world in which a run comes to its work. -/
def started (o : Options) (language : Language) (w : World) : World :=
  ((log .debug .command s!"Language: {language.name}").run { w with least := some (level o) }).2

theorem started_eq (o : Options) (language : Language) (w : World) :
    ∃ opening, started o language w =
        { w with least := some (level o), records := w.records ++ opening } ∧
      ∀ r ∈ opening, r.level = .debug := by
  unfold started log
  rw [run_request]
  simp only [World.answer]
  split
  · exact ⟨[_], rfl, List.forall_mem_singleton.mpr rfl⟩
  · exact ⟨[], by simp, by simp⟩

theorem agree_started (o : Options) (language : Language) (w : World) :
    Agree w (started o language w) := by
  obtain ⟨opening, hs, -⟩ := started_eq o language w
  exact ⟨_, _, hs⟩

theorem run_execute {o : Options} {language : Language} {w : World} (hf : LeadsToFile w o.source)
    (hl : Language.ofPath o.source = .ok language) :
    (execute o).run w =
      (((work o language).bind conclude).rescue report).run (started o language w) := by
  have hk : (request (.keepFrom (level o))).run w = (.ok (), { w with least := some (level o) }) :=
    rfl
  have there : LeadsToFile { w with least := some (level o) } o.source := hf
  refine (run_bind_of_ok hk _).trans ((run_bind_of_ok (run_isFile_of_file there) _).trans ?_)
  rw [hl]
  exact run_bind_of_ok rfl _

/-- The world after a complaint about the source, which ends a run before its work. -/
def dismissed (o : Options) (message : String) (w : World) : World :=
  { w with least := some (level o), records := w.records ++ [⟨.error, .command, message⟩] }

/-- An error is kept whatever records are. -/
theorem run_dismissal (message : String) (w : World) :
    (log .error .command message >>= fun _ => pure (Ending.stopped 1)).run w =
      (.ok (.stopped 1), { w with records := w.records ++ [⟨.error, .command, message⟩] }) := by
  have kept : Log.Record.isKept ⟨.error, .command, message⟩ w.least = true := by
    cases w.least with
    | none => rfl
    | some level => cases level <;> rfl
  exact run_bind_of_ok (run_log_of_kept kept) _

theorem run_execute_of_missing {o : Options} {w : World} (hf : ¬LeadsToFile w o.source) :
    (execute o).run w =
      (.ok (.stopped 1), dismissed o s!"Input file '{o.source}' does not exist." w) := by
  have hk : (request (.keepFrom (level o))).run w = (.ok (), { w with least := some (level o) }) :=
    rfl
  have gone : ¬LeadsToFile { w with least := some (level o) } o.source := hf
  refine (run_bind_of_ok hk _).trans ((run_bind_of_ok (run_isFile_of_not_file gone) _).trans ?_)
  exact run_dismissal _ _

theorem run_execute_of_unsupported {o : Options} {name : String} {w : World}
    (hf : LeadsToFile w o.source) (hl : Language.ofPath o.source = .error name) :
    (execute o).run w = (.ok (.stopped 1), dismissed o (Language.rejection name) w) := by
  have hk : (request (.keepFrom (level o))).run w = (.ok (), { w with least := some (level o) }) :=
    rfl
  have there : LeadsToFile { w with least := some (level o) } o.source := hf
  refine (run_bind_of_ok hk _).trans ((run_bind_of_ok (run_isFile_of_file there) _).trans ?_)
  rw [hl]
  exact run_dismissal _ _

/-- A run has no source that it could work on and stops, or comes to its work in a world much like
the one it started in. -/
theorem execute_cases (o : Options) (w : World) :
    (∃ v, (LeadsToFile w o.source → ∀ language, Language.ofPath o.source ≠ .ok language) ∧
      Agree w v ∧ (execute o).run w = (.ok (.stopped 1), v)) ∨
    ∃ language v, LeadsToFile w o.source ∧ Language.ofPath o.source = .ok language ∧ Agree w v ∧
      (execute o).run w = (((work o language).bind conclude).rescue report).run v := by
  by_cases hf : LeadsToFile w o.source
  · cases hl : Language.ofPath o.source with
    | error name =>
      exact Or.inl ⟨_, fun _ _ => nofun, ⟨_, _, rfl⟩, run_execute_of_unsupported hf hl⟩
    | ok language =>
      exact Or.inr ⟨language, _, hf, rfl, agree_started o language w, run_execute hf hl⟩
  · exact Or.inl ⟨_, fun h => absurd h hf, ⟨_, _, rfl⟩, run_execute_of_missing hf⟩

theorem execute_write_cases {o : Options} (hm : o.mode = .write) (w : World) :
    (∃ v, (LeadsToFile w o.source → ∀ language, Language.ofPath o.source ≠ .ok language) ∧
      Agree w v ∧ (execute o).run w = (.ok (.stopped 1), v)) ∨
    ∃ language, LeadsToFile w o.source ∧ Language.ofPath o.source = .ok language ∧
      ((∃ e v, ((Configuration.load o.source language o.config.join).run w).1 = .error e ∧
        Agree w v ∧ (execute o).run w = (report e).run v) ∨
      ∃ settings v, ((Configuration.load o.source language o.config.join).run w).1 = .ok settings ∧
        Agree w v ∧
        ((∃ target u records, (Generation.generate o.source settings o.force
            (if o.opens then some true else none) Generation.confirm).run v = (.ok target, u) ∧
          (execute o).run w = (.ok .returned, { u with records })) ∨
        ∃ e u, (Generation.generate o.source settings o.force
            (if o.opens then some true else none) Generation.confirm).run v = (.error e, u) ∧
          (execute o).run w = (report e).run u)) := by
  obtain stopped | ⟨language, v, hf, hl, hv, hr⟩ := execute_cases o w
  · exact Or.inl stopped
  · refine Or.inr ⟨language, hf, hl, ?_⟩
    have load := Configuration.load_looks o.source language o.config.join
    have same := (hv.run (Configuration.load o.source language o.config.join)).1
    have after := Agree.of_looks load hv
    rw [hr, run_attempt, work_generate hm]
    cases hs : (Configuration.load o.source language o.config.join).run v with
    | mk outcome x =>
      rw [hs] at same after
      cases outcome with
      | error e =>
        rw [run_bind_of_error hs]
        exact Or.inl ⟨e, x, same.symm, after, rfl⟩
      | ok settings =>
        rw [run_bind_of_ok hs]
        refine Or.inr ⟨settings, x, same.symm, after, ?_⟩
        cases hg : (Generation.generate o.source settings o.force
            (if o.opens then some true else none) Generation.confirm).run x with
        | mk outcome u =>
          cases outcome with
          | error e =>
            rw [run_bind_of_error hg]
            exact Or.inr ⟨e, u, rfl, rfl⟩
          | ok target =>
            obtain ⟨records, hc⟩ := run_conclude (some target) u
            rw [run_bind_of_ok hg]
            exact Or.inl ⟨target, u, records, rfl, hc⟩

/-- All that a run in write mode does to the world is what its generation does, records apart. -/
theorem execute_write_agree {o : Options} (hm : o.mode = .write) (w : World) :
    Agree w ((execute o).run w).2 ∨
    ∃ language settings v outcome u, LeadsToFile w o.source ∧
      Language.ofPath o.source = .ok language ∧
      ((Configuration.load o.source language o.config.join).run w).1 = .ok settings ∧ Agree w v ∧
      (Generation.generate o.source settings o.force (if o.opens then some true else none)
        Generation.confirm).run v = (outcome, u) ∧
      Agree u ((execute o).run w).2 := by
  obtain ⟨v, -, hv, hr⟩ | ⟨language, hf, hl, ⟨e, v, -, hv, hr⟩ | ⟨settings, v, hs, hv, hg⟩⟩ :=
    execute_write_cases hm w
  · rw [hr]
    exact Or.inl hv
  · rw [hr]
    exact Or.inl (Agree.of_looks (report_looks e) hv)
  · right
    obtain ⟨target, u, records, hg, hr⟩ | ⟨e, u, hg, hr⟩ := hg
    · refine ⟨language, settings, v, _, u, hf, hl, hs, hv, hg, ?_⟩
      rw [hr]
      exact ⟨u.least, records, rfl⟩
    · refine ⟨language, settings, v, _, u, hf, hl, hs, hv, hg, ?_⟩
      rw [hr]
      exact Agree.of_looks (report_looks e) ⟨u.least, u.records, rfl⟩

/-- A run carries out its options, or does no more than say why it has none. -/
theorem run_cases (arguments : List String) (w : World) :
    (∃ o, Options.parse arguments = .ok o ∧ (run arguments).run w = (execute o).run w) ∨
      (∃ status, ((run arguments).run w).1 = .ok (.stopped status)) ∧
        ((run arguments).run w).2.disk = w.disk := by
  unfold run
  cases hp : Options.parse arguments with
  | ok o => exact Or.inl ⟨o, rfl, rfl⟩
  | error stop =>
    right
    cases stop with
    | help => exact ⟨⟨0, rfl⟩, rfl⟩
    | usage f => exact ⟨⟨2, rfl⟩, rfl⟩

end Command

end Scaffold
