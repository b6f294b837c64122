import Scaffold.Proofs.CommandOutcome
import Scaffold.Proofs.GenerationFrame
import Scaffold.Proofs.PrintedRuns

/-!
# A dry run and the run it stands for

A dry run works out the target and the text before any folder is made, a real run after that. New
folders change neither: the target does not depend on the disk, and a source that is there can be
read as before. So a forced run writes the text that the dry run has printed to the path that it has
named, unless it is stopped at that path; and where the dry run fails the forced run writes nothing.
-/

namespace Scaffold

open Script

namespace Generation

variable {source : Path} {settings : Settings} {opens : Option Bool} {confirm : Path → Script Bool}
  {target : Target} {w v : World}

theorem approach_eq_error {language : Language} {e : Failure}
    (hl : Language.ofPath source = .ok language)
    (ht : Target.ofSource w.workingFolder source settings = .ok target)
    (h : (approach source settings).run w = (.error e, v)) :
    ∃ records, (ensureFolder target.folder).run { w with records } = (.error e, v) := by
  obtain ⟨records, hr⟩ := run_approach hl ht
  rw [hr] at h
  obtain ⟨other, x, hx, hb⟩ | ⟨⟨⟩, x, -, hb⟩ :=
    run_bind_cases (ensureFolder target.folder) (fun _ => pure target) { w with records }
  · cases hb.symm.trans h
    exact ⟨records, hx⟩
  · cases hb.symm.trans h

theorem compose_forced (source : Path) (settings : Settings) (confirm : Path → Script Bool) :
    compose source settings true confirm = (do
      let target ← approach source settings
      let text ← contents source target
      return (target, text)) := by
  simp [compose, permit]

/-- Without a question, nothing can stop a generation before the write but its folder and its
source. -/
theorem compose_forced_eq_error {language : Language} {bytes : Bytes} {e : Failure}
    (hs : w.disk.entry? w.workingFolder source = some (.file bytes))
    (hl : Language.ofPath source = .ok language)
    (ht : Target.ofSource w.workingFolder source settings = .ok target)
    (h : (compose source settings true confirm).run w = (.error e, v)) :
    (∃ records, (ensureFolder target.folder).run { w with records } = (.error e, v)) ∨
      ((contents source target).run w).1 = .error e := by
  rw [compose_forced] at h
  obtain ⟨other, x, hx, hb⟩ | ⟨aim, x, hx, hb⟩ := run_bind_cases (approach source settings) _ w
  · cases hb.symm.trans h
    exact Or.inl (approach_eq_error hl ht hx)
  · right
    cases (approach_eq_ok hx).2.symm.trans ht
    obtain ⟨same, grown⟩ := approach_grows hx
    have folder : x.workingFolder = w.workingFolder := by rw [same]
    rw [← run_contents_of_grows hs grown folder target]
    rw [hb] at h
    obtain ⟨other, y, hy, hc⟩ | ⟨text, y, hy, hc⟩ :=
      run_bind_cases (contents source target) (fun text => pure (target, text)) x
    · cases hc.symm.trans h
      rw [hy]
    · cases hc.symm.trans h

/-- The step fails that makes the target's folder, or the one that opens the target. -/
def Thwarted (w : World) (target : Target) (text : String) (e : Failure) (v : World) : Prop :=
  (∃ x, Command.Agree w x ∧ (ensureFolder target.folder).run x = (.error e, v)) ∨
    ∃ x, w.disk.Grows (OnTheWay target.folder w.workingFolder) x.disk ∧
      x.workingFolder = w.workingFolder ∧ (save target.file text).run x = (.error e, v)

theorem Thwarted.unexpected {text : String} {e : Failure} (h : Thwarted w target text e v) :
    Unexpected e := by
  obtain ⟨x, -, hx⟩ | ⟨x, -, -, hx⟩ := h
  · exact (ensureFolder_unexpected target.folder).of_run_error (by rw [hx])
  · exact (save_unexpected target.file text).of_run_error (by rw [hx])

/-- The disk is the one before with the text written to the target, once its folder was there. -/
def Fulfilled (w : World) (target : Target) (text : String) (after : Disk) : Prop :=
  ∃ before, w.disk.Grows (OnTheWay target.folder w.workingFolder) before ∧
    before.write w.workingFolder target.file (Text.Utf8.encode text) = .ok after

theorem generate_forced {language : Language} {bytes : Bytes} {text : String}
    {outcome : Except Failure Target}
    (hs : w.disk.entry? w.workingFolder source = some (.file bytes))
    (hl : Language.ofPath source = .ok language)
    (ht : Target.ofSource w.workingFolder source settings = .ok target)
    (hc : ((contents source target).run w).1 = .ok text)
    (hr : (generate source settings true opens Generation.confirm).run w = (outcome, v)) :
    Fulfilled w target text v.disk ∨ ∃ e, outcome = .error e ∧ Thwarted w target text e v := by
  obtain ⟨e, hv, ho⟩ | ⟨aim, rendered, u, hu, hw⟩ := generate_cases hr
  · right
    obtain ⟨records, hf⟩ | he := compose_forced_eq_error hs hl ht hv
    · exact ⟨e, ho, Or.inl ⟨_, ⟨w.least, records, rfl⟩, hf⟩⟩
    · cases hc.symm.trans he
  · -- the target and the text are those that were known before the folders were made
    obtain ⟨haim, htext⟩ := compose_rendered confirm_disk hs hu
    cases haim.symm.trans ht
    cases htext.symm.trans hc
    have grown := (compose_grows confirm_disk hu).mono (onTheWay_of_target ht)
    have folder : u.workingFolder = w.workingFolder := by
      rw [← run_workingFolder (compose source settings true Generation.confirm) w, hu]
    obtain ⟨e, he, ho, -⟩ | ⟨-, -, -, -, hd, -⟩ := hw
    · exact Or.inr ⟨e, ho, Or.inr ⟨u, grown, folder, he⟩⟩
    · exact Or.inl ⟨u.disk, grown, hd⟩

/-- Where some file has changed, there was a target and a text for it. -/
theorem rendered_of_files_changed {force : Bool} {bytes : Bytes} {outcome : Except Failure Target}
    (hs : w.disk.entry? w.workingFolder source = some (.file bytes))
    (hr : (generate source settings force opens Generation.confirm).run w = (outcome, v))
    (hn : ¬SameFiles w.disk v.disk) :
    ∃ target text, Target.ofSource w.workingFolder source settings = .ok target ∧
      ((contents source target).run w).1 = .ok text := by
  obtain ⟨e, hv, -⟩ | ⟨target, text, u, hu, -⟩ := generate_cases hr
  · exact absurd (compose_grows confirm_disk hv).get?_file_iff hn
  · exact ⟨target, text, compose_rendered confirm_disk hs hu⟩

end Generation

namespace Command

open Generation

/-! ### The forced run -/

theorem execute_forced {o : Options} (hm : o.mode = .write) (hn : o.force = true) {w : World}
    {target : Target} {text : String} (hf : LeadsToFile w o.source) (ht : Aims w o target)
    (hc : ((contents o.source target).run w).1 = .ok text) :
    Fulfilled w target text ((execute o).run w).2.disk ∨
      ∃ e v, Thwarted w target text e v ∧ (execute o).run w = (report e).run v := by
  obtain ⟨language, settings, hl, hs, ht⟩ := ht
  obtain ⟨x, stopped, -⟩ | ⟨other, ⟨-, bytes, hb⟩, hl', loaded⟩ := execute_write_cases hm w
  · exact absurd hl (stopped hf language)
  cases hl'.symm.trans hl
  obtain ⟨e, x, he, -⟩ | ⟨others, x, hs', hx, hg⟩ := loaded
  · cases hs.symm.trans he
  cases hs.symm.trans hs'
  -- records apart, the generation starts in the world that the dry run has seen
  rw [← (hx.run (contents o.source target)).1] at hc
  obtain ⟨least, records, rfl⟩ := hx
  rw [hn] at hg
  obtain ⟨result, u, logged, hg, hr⟩ | ⟨e, u, hg, hr⟩ := hg
  · obtain fulfilled | ⟨e, ho, -⟩ :=
      generate_forced (w := { w with least, records }) hb hl ht hc hg
    · rw [hr]
      exact Or.inl fulfilled
    · cases ho
  · obtain fulfilled | ⟨_, ho, thwarted⟩ :=
      generate_forced (w := { w with least, records }) hb hl ht hc hg
    · rw [hr, (report_looks e).looks_disk u]
      exact Or.inl fulfilled
    · cases ho
      refine Or.inr ⟨e, u, ?_, hr⟩
      obtain ⟨y, ⟨_, _, hy⟩, made⟩ | opened := thwarted
      · exact Or.inl ⟨y, ⟨_, _, hy⟩, made⟩
      · exact Or.inr opened

theorem aims_of_files_changed {o : Options} (hm : o.mode = .write) {w : World}
    (hn : ¬SameFiles w.disk ((execute o).run w).2.disk) :
    LeadsToFile w o.source ∧ ∃ target text, Aims w o target ∧
      ((contents o.source target).run w).1 = .ok text := by
  obtain same | ⟨language, settings, x, outcome, v, hf, hl, hs, hx, hg, after⟩ :=
    execute_write_agree hm w
  · rw [same.disk] at hn
    exact absurd (fun _ _ => Iff.rfl) hn
  · rw [after.disk, ← hx.disk] at hn
    refine ⟨hf, ?_⟩
    obtain ⟨-, bytes, hb⟩ := hf
    rw [← hx.disk, ← hx.workingFolder] at hb
    obtain ⟨target, text, ht, hc⟩ := rendered_of_files_changed hb hg hn
    rw [hx.workingFolder] at ht
    rw [(hx.run (contents o.source target)).1] at hc
    exact ⟨target, text, ⟨language, settings, hl, hs, ht⟩, hc⟩

/-! ### The dry run -/

/-- What the command itself has to say, debugging apart. -/
def announcements (records : List Log.Record) : List Log.Record :=
  records.filter fun r => r.topic == .command && r.level != .debug

theorem announcements_append (records more : List Log.Record) :
    announcements (records ++ more) = announcements records ++ announcements more :=
  List.filter_append ..

theorem announcements_of_topic {records : List Log.Record} (h : ∀ r ∈ records, r.topic ≠ .command) :
    announcements records = [] := by
  rw [announcements, List.filter_eq_nil_iff]
  intro r hr
  simp [h r hr]

theorem announcements_of_debug {records : List Log.Record} (h : ∀ r ∈ records, r.level = .debug) :
    announcements records = [] := by
  rw [announcements, List.filter_eq_nil_iff]
  intro r hr
  simp [h r hr]

theorem run_preview {o : Options} {settings : Settings} {text : String} {w v : World}
    (hk : w.least = some (level o)) (h : (preview o.source settings).run w = (.ok text, v)) :
    ∃ target made, Target.ofSource w.workingFolder o.source settings = .ok target ∧
      ((contents o.source target).run w).1 = .ok text ∧ v.records = w.records ++ made ∧
      announcements made = [⟨.info, .command, s!"Would write {target.file}"⟩] := by
  obtain ⟨target, x, hx, h⟩ := run_bind_eq_ok h
  rw [run_targetOf] at hx
  cases ht : Target.ofSource w.workingFolder o.source settings with
  | error e =>
    rw [ht] at hx
    cases hx
  | ok aim =>
    rw [ht] at hx
    cases hx
    obtain ⟨⟨⟩, y, hy, h⟩ := run_bind_eq_ok h
    have kept := isKept_of_not_debug
      (r := ⟨.info, .command, s!"Would write {target.file}"⟩) (by simp) o
    rw [← hk] at kept
    cases (run_log_of_kept kept).symm.trans hy
    have observed := (contents_readsAt o.source target).mono (observes_of_readsAt _) fun _ he => he
    obtain ⟨more, hv, quiet⟩ := observed.run_observed
      { w with records := w.records ++ [⟨.info, .command, s!"Would write {target.file}"⟩] }
    rw [h] at hv
    have last : v = _ := hv
    have logged : Agree w
        { w with records := w.records ++ [⟨.info, .command, s!"Would write {target.file}"⟩] } :=
      ⟨_, _, rfl⟩
    refine ⟨target, ⟨.info, .command, s!"Would write {target.file}"⟩ :: more, rfl, ?_, ?_, ?_⟩
    · rw [← (logged.run (contents o.source target)).1, h]
    · rw [last]
      simp
    · rw [← List.singleton_append, announcements_append, announcements_of_topic quiet]
      rfl

theorem execute_dryRun {o : Options} (hm : o.mode = .dryRun) {w v : World}
    (hr : (execute o).run w = (.ok .returned, v)) :
    LeadsToFile w o.source ∧ ∃ target text made, Aims w o target ∧
      ((contents o.source target).run w).1 = .ok text ∧ v.output = w.output ++ text ∧
      v.records = w.records ++ made ∧
      announcements made = [⟨.info, .command, s!"Would write {target.file}"⟩] := by
  obtain ⟨x, -, -, hs⟩ | ⟨language, -, hf, hl, -, -⟩ := execute_cases o w
  · cases hr.symm.trans hs
  refine ⟨hf, ?_⟩
  have load := Configuration.load_looks o.source language o.config.join
  have looks := load.bind fun settings => preview_looks o.source settings
  obtain ⟨text, u, -, hu, he⟩ | ⟨e, x, hx, -, he⟩ :=
    run_execute_of_exhibit (work_dryRun hm language) looks hf hl
  · cases hr.symm.trans he
    obtain ⟨opening, hw, debug⟩ := started_eq o language w
    obtain ⟨settings, x, hx, hu⟩ := run_bind_eq_ok hu
    obtain ⟨more, hy, quiet⟩ := (Configuration.load_observes o.source language
      o.config.join).run_observed (started o language w)
    have same := ((agree_started o language w).run
      (Configuration.load o.source language o.config.join)).1
    rw [hx, hw] at hy
    rw [hx] at same
    subst hy
    obtain ⟨target, made, ht, hc, hm, said⟩ := run_preview (o := o) rfl hu
    have before : Agree w _ := ⟨some (level o), w.records ++ opening ++ more, rfl⟩
    refine ⟨target, text, opening ++ more ++ made, ⟨language, settings, hl, same.symm, ht⟩,
      ?_, rfl, ?_, ?_⟩
    · rw [← (before.run (contents o.source target)).1, hc]
    · rw [hm]
      simp
    · rw [announcements_append, announcements_append, announcements_of_debug debug,
        announcements_of_topic quiet, said]
      rfl
  · have unexpected := looks.of_run_error hx
    exact absurd (by rw [← he, hr]) (run_report_of_unexpected unexpected x)

theorem execute_dryRun_returned {o : Options} (hm : o.mode = .dryRun) {w : World} {target : Target}
    {text : String} (hf : LeadsToFile w o.source) (ht : Aims w o target)
    (hc : ((contents o.source target).run w).1 = .ok text) :
    ((execute o).run w).1 = .ok .returned := by
  obtain ⟨language, settings, hl, hs, ht⟩ := ht
  have load := Configuration.load_looks o.source language o.config.join
  have looks := load.bind fun settings => preview_looks o.source settings
  have shown := fst_run_bind_of_found load hs fun settings => preview o.source settings
  rw [fst_run_preview ht, hc] at shown
  obtain ⟨_, v, -, -, hr⟩ | ⟨e, v, he, -, -⟩ :=
    run_execute_of_exhibit (work_dryRun hm language) looks hf hl
  · rw [hr]
  · cases shown.symm.trans he

/-- A dry run changes nothing, asks nothing and launches nothing. If it returns, it has printed the
text and named the path for a run with the same options and force instead, which from the same world
writes just this text to just this path, or is stopped where it makes the folder or opens the file.
If it does not return, the forced run leaves all files as they were. -/
theorem dry_run_foretells_forced_run (dry forced : List String) (o : Options)
    (hd : Options.parse dry = .ok { o with mode := .dryRun })
    (hf : Options.parse forced = .ok { o with mode := .write, force := true }) (w : World) :
    ((run dry).Only Discreet (fun _ => True) ∧ ∃ output complaints records least,
      ((run dry).run w).2 = { w with output, complaints, records, least }) ∧
    (∀ v, (run dry).run w = (.ok .returned, v) →
      ∃ target text made, Aims w o target ∧ v.output = w.output ++ text ∧
        v.records = w.records ++ made ∧
        announcements made = [⟨.info, .command, s!"Would write {target.file}"⟩] ∧
        (Fulfilled w target text ((run forced).run w).2.disk ∨
          ∃ e x, Thwarted w target text e x ∧ Unexpected e ∧
            (run forced).run w = (report e).run x)) ∧
    (((run dry).run w).1 ≠ .ok .returned →
      SameFiles w.disk ((run forced).run w).2.disk) := by
  rw [run_eq_execute hd, run_eq_execute hf]
  have discreet := execute_discreet (o := { o with mode := .dryRun }) (by simp)
  refine ⟨⟨discreet, discreet.run_discreet w⟩, ?_, ?_⟩
  · intro v hv
    obtain ⟨there, target, text, made, aims, rendered, printed, logged, said⟩ :=
      execute_dryRun rfl hv
    refine ⟨target, text, made, aims, printed, logged, said, ?_⟩
    obtain fulfilled | ⟨e, x, thwarted, hr⟩ :=
      execute_forced (o := { o with mode := .write, force := true }) rfl rfl there aims rendered
    · exact Or.inl fulfilled
    · exact Or.inr ⟨e, x, thwarted, thwarted.unexpected, hr⟩
  · refine fun failed => Classical.byContradiction fun changed => ?_
    obtain ⟨there, target, text, aims, rendered⟩ :=
      aims_of_files_changed (o := { o with mode := .write, force := true }) rfl changed
    exact failed (execute_dryRun_returned (o := { o with mode := .dryRun }) rfl there aims rendered)

theorem loneSource_foretold : ∃ target text, Aims loneSource { source := .ofString "m.ts" } target ∧
    ((run ["--dry-run", "m.ts"]).run loneSource).2.output = loneSource.output ++ text ∧
    Fulfilled loneSource target text ((run ["m.ts", "--force"]).run loneSource).2.disk := by
  obtain ⟨-, foretold, -⟩ := dry_run_foretells_forced_run ["--dry-run", "m.ts"] ["m.ts", "--force"]
    { source := .ofString "m.ts" } rfl rfl loneSource
  have shown : ((run ["--dry-run", "m.ts"]).run loneSource).1 = .ok .returned :=
    eq_ok_of_toOption (by decide +kernel)
  have written : ((run ["m.ts", "--force"]).run loneSource).1 = .ok .returned :=
    eq_ok_of_toOption (by decide +kernel)
  obtain ⟨target, text, -, aims, printed, -, -, fulfilled | ⟨e, x, -, unexpected, hr⟩⟩ :=
    foretold _ (Prod.ext shown rfl)
  · exact ⟨target, text, aims, printed, fulfilled⟩
  · rw [hr] at written
    exact absurd written (run_report_of_unexpected unexpected x)

end Command

end Scaffold
