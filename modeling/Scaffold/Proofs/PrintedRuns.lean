import Scaffold.Proofs.CommandStages

/-!
# Runs that print

A dry run and a dump of the exports look at files, come to one text and print it. What they look at
is the same: the dialect that a dump reads a source in is the one in which its test is prepared. So
the two show one surface, the one as it is and the other in an import line, and where the surface
cannot be had they fail alike.
-/

namespace Scaffold

open Script

theorem Language.ofExtension_of_ofPath {p : Path} {language : Language}
    (h : Language.ofPath p = .ok language) :
    Language.ofExtension? (Text.lower p.extension) = some language := by
  delta Language.ofPath at h
  dsimp only at h
  cases he : Language.ofExtension? (Text.lower p.extension) with
  | none =>
    rw [he] at h
    cases h
  | some l =>
    rw [he] at h
    cases h
    rfl

/-- No extension of the one language is among those that need the plain dialect. -/
theorem Language.dialect_eq_ofPath {p : Path} {language : Language}
    (h : Language.ofPath p = .ok language) : language.dialect p = .ofPath p := by
  have known := Language.ofExtension_of_ofPath h
  cases language with
  | typescript => rfl
  | javascript =>
    unfold Language.dialect Source.Dialect.ofPath
    generalize Text.lower p.extension = extension at known
    unfold Language.ofExtension? at known
    split at known
    · rename_i hj
      simp only [List.contains_eq_mem, decide_eq_true_eq, List.mem_cons, List.not_mem_nil,
        or_false] at hj
      rcases hj with rfl | rfl | rfl | rfl <;> rfl
    · split at known <;> cases known

/-! ### Texts of surfaces -/

namespace Json

theorem renderItems_texts (indent : Option String) (level : Nat) (names : List String) :
    render.renderItems indent level (names.map .text) = .ok (names.map quote) := by
  induction names with
  | nil => rfl
  | cons name names ih =>
    rw [List.map_cons, render.renderItems, ih]
    rfl

/-- The text of a surface, which can always be written. -/
def surfaceText (indent : Option String) (s : Export.Surface) : String :=
  bracketed indent 0 "\x7b" "\x7d"
    [quote "named_exports" ++ ": " ++ bracketed indent 1 "[" "]" (s.names.map quote),
      quote "has_default_export" ++ ": " ++ if s.hasDefault then "true" else "false"]

theorem write_ofSurface (indent : Option String) (s : Export.Surface) :
    write indent (ofSurface s) = .ok (surfaceText indent s) := by
  simp only [write, ofSurface, render, render.renderFields, renderItems_texts]
  rfl

end Json

namespace Command

open Generation (Unexpected targetOf contents contentsIn exportsOf readSource)

/-! ### Outcomes of looking -/

variable {α β : Type}

/-- What a script comes to after some looking it also comes to without it. -/
theorem fst_run_bind_of_looks {possible : Failure → Prop} {s : Script α}
    (hs : s.Only Looks possible) (f : α → Script β) (w : World) :
    ((s >>= f).run w).1 = (s.run w).1 >>= fun a => ((f a).run w).1 := by
  have after := Agree.of_looks hs (Agree.refl w)
  obtain ⟨e, v, he, hr⟩ | ⟨a, v, ha, hr⟩ := run_bind_cases s f w
  · rw [hr, he]
    rfl
  · rw [ha] at after
    rw [hr, ha, (after.run (f a)).1]
    rfl

theorem fst_run_bind_of_found {possible : Failure → Prop} {s : Script α}
    (hs : s.Only Looks possible) {w : World} {a : α} (ha : (s.run w).1 = .ok a) (f : α → Script β) :
    ((s >>= f).run w).1 = ((f a).run w).1 := by
  rw [fst_run_bind_of_looks hs, ha]
  rfl

theorem fst_run_log_bind (level : Log.Level) (topic : Log.Topic) (message : String)
    (f : Unit → Script β) (w : World) :
    ((log level topic message >>= f).run w).1 = ((f ()).run w).1 :=
  fst_run_bind_of_found (looks_log level topic message : Only _ (fun _ => True) _) rfl f

theorem fst_run_forM_log {γ : Type} (xs : List γ) (level : γ → Log.Level) (topic : Log.Topic)
    (message : γ → String) (f : Unit → Script β) (w : World) :
    ((xs.forM (fun x => log (level x) topic (message x)) >>= f).run w).1 = ((f ()).run w).1 := by
  have looks : (xs.forM (fun x => log (level x) topic (message x))).Only Looks fun _ => True :=
    .forM xs fun _ => looks_log _ _ _
  have done : ((xs.forM (fun x => log (level x) topic (message x))).run w).1 = .ok () := by
    clear looks
    induction xs with
    | nil => rfl
    | cons x xs ih => exact (fst_run_log_bind _ _ _ _ w).trans ih
  exact fst_run_bind_of_found looks done f

theorem run_readSource_of_file {p : Path} {w : World} {bytes : Bytes} (hu : isUsable p = true)
    (hb : w.disk.entry? w.workingFolder p = some (.file bytes)) :
    (readSource p).run w = (.ok bytes, w) := by
  have read := run_read hu w
  rw [Disk.read_eq_ok_iff.mpr hb] at read
  exact run_bind_of_ok read _

/-- Of a source that is there, the exports are those that its tree has in the dialect. -/
theorem fst_run_exportsOf {p : Path} {w : World} {bytes : Bytes} (hu : isUsable p = true)
    (hb : w.disk.entry? w.workingFolder p = some (.file bytes)) (dialect : Source.Dialect) :
    ((exportsOf p dialect).run w).1 =
      (Export.survey (Source.Module.parse dialect bytes).root).2.mapError .undecodable := by
  unfold exportsOf
  rw [run_bind_of_ok (run_readSource_of_file hu hb)]
  dsimp only
  have tail : ∀ result : Except Text.Utf8.Fault Export.Surface, ((do
      let surface ← ofExcept .undecodable result
      let hasDefault := (Value.bool surface.hasDefault).display
      let names := (Value.list (surface.names.map .text)).display
      log .debug .source s!"{p}: default export={hasDefault}, named exports={names}"
      return surface : Script Export.Surface).run w).1 = result.mapError .undecodable := by
    intro result
    cases result with
    | error f => rfl
    | ok surface => exact fst_run_log_bind _ _ _ _ w
  split
  · rw [fst_run_log_bind]
    exact (fst_run_forM_log _ _ _ _ _ w).trans (tail _)
  · exact (fst_run_forM_log _ _ _ _ _ w).trans (tail _)

/-! ### The two modes that print -/

/-- The text that a dump of the exports prints. -/
def listing (source : Path) : Script String := do
  let surface ← exportsOf source (.ofPath source)
  let text ← ofExcept .json (Json.write (some "  ") (Json.ofSurface surface))
  return s!"{text}\n"

/-- The text that a dry run prints. -/
def preview (source : Path) (settings : Settings) : Script String := do
  let target ← targetOf source settings
  log .info .command s!"Would write {target.file}"
  contents source target

/-- Prints what a script comes to. -/
def exhibit (s : Script String) : Script (Option Target) := do
  request (.print (← s))
  return none

theorem work_dumpExports {o : Options} (h : o.mode = .dumpExports) (language : Language) :
    work o language = exhibit (do
      let _ ← Configuration.load o.source language o.config.join
      listing o.source) := by
  simp [work, h, exhibit, listing]

theorem work_dryRun {o : Options} (h : o.mode = .dryRun) (language : Language) :
    work o language = exhibit (do
      let settings ← Configuration.load o.source language o.config.join
      preview o.source settings) := by
  simp [work, h, exhibit, preview]

theorem exportsOf_looks (source : Path) (dialect : Source.Dialect) :
    (exportsOf source dialect).Only Looks Unexpected :=
  (Generation.exportsOf_readsAt source dialect).mono (looks_of_readsAt source) fun _ he => he

theorem listing_looks (source : Path) : (listing source).Only Looks Unexpected := by
  refine (exportsOf_looks source _).bind fun surface => ?_
  exact (Only.ofExcept (fun _ => trivial) _).bind fun _ => .pure _

theorem targetOf_looks (source : Path) (settings : Settings) :
    (targetOf source settings).Only Looks Unexpected :=
  (Only.request trivial).bind fun _ => .ofExcept (fun _ => trivial) _

theorem preview_looks (source : Path) (settings : Settings) :
    (preview source settings).Only Looks Unexpected := by
  refine (targetOf_looks source settings).bind fun target => (looks_log _ _ _).bind fun _ => ?_
  exact Generation.contents_looks source target

theorem run_exhibit (s : Script String) (w : World) :
    (((exhibit s).bind conclude).rescue report).run w =
      match s.run w with
      | (.ok text, v) => (.ok .returned, { v with output := v.output ++ text })
      | (.error e, v) => (report e).run v := by
  rw [run_attempt]
  unfold exhibit
  cases hs : s.run w with
  | mk outcome v =>
    cases outcome with
    | error e => rw [run_bind_of_error hs]
    | ok text =>
      rw [run_bind_of_ok hs]
      rfl

/-- A run that prints ends as the script that comes to the text does. -/
theorem run_execute_of_exhibit {possible : Failure → Prop} {o : Options} {language : Language}
    {s : Script String} (hw : work o language = exhibit s) (hs : s.Only Looks possible) {w : World}
    (hf : LeadsToFile w o.source) (hl : Language.ofPath o.source = .ok language) :
    (∃ text v, (s.run w).1 = .ok text ∧ s.run (started o language w) = (.ok text, v) ∧
      (execute o).run w = (.ok .returned, { v with output := w.output ++ text })) ∨
    ∃ e v, (s.run w).1 = .error e ∧ Agree w v ∧ (execute o).run w = (report e).run v := by
  have hr := run_execute hf hl
  rw [hw, run_exhibit] at hr
  have before := agree_started o language w
  have same := (before.run s).1
  have after := Agree.of_looks hs before
  cases hv : s.run (started o language w) with
  | mk outcome v =>
    rw [hv] at hr same after
    obtain ⟨least, records, rfl⟩ := after
    cases outcome with
    | error e => exact Or.inr ⟨e, _, same.symm, ⟨least, records, rfl⟩, hr⟩
    | ok text => exact Or.inl ⟨text, _, same.symm, rfl, hr⟩

/-! ### One surface -/

theorem contents_eq {source : Path} {language : Language}
    (h : Language.ofPath source = .ok language) (target : Target) :
    contents source target = (do
      let surface ← exportsOf source (.ofPath source)
      return TestFile.render surface target.binding target.specifier) := by
  unfold contents Generation.languageOf contentsIn
  rw [h, ← Language.dialect_eq_ofPath h]
  rfl

theorem fst_run_contents {source : Path} {language : Language}
    (h : Language.ofPath source = .ok language) (target : Target) (w : World) :
    ((contents source target).run w).1 =
      ((exportsOf source (.ofPath source)).run w).1.map
        (TestFile.render · target.binding target.specifier) := by
  rw [contents_eq h, fst_run_bind_of_looks (exportsOf_looks source _)]
  cases ((exportsOf source (.ofPath source)).run w).1 <;> rfl

theorem fst_run_listing (source : Path) (w : World) :
    ((listing source).run w).1 =
      ((exportsOf source (.ofPath source)).run w).1.map
        (Json.surfaceText (some "  ") · ++ "\n") := by
  unfold listing
  rw [fst_run_bind_of_looks (exportsOf_looks source _)]
  cases ((exportsOf source (.ofPath source)).run w).1 with
  | error e => rfl
  | ok surface =>
    simp only [Json.write_ofSurface]
    rfl

theorem fst_run_preview {source : Path} {settings : Settings} {target : Target} {w : World}
    (ht : Target.ofSource w.workingFolder source settings = .ok target) :
    ((preview source settings).run w).1 = ((contents source target).run w).1 := by
  have aimed : (targetOf source settings).run w = (.ok target, w) := by
    rw [Generation.run_targetOf, ht]
    rfl
  unfold preview
  rw [run_bind_of_ok aimed]
  exact fst_run_log_bind _ _ _ _ w

/-! ### The whole run -/

/-- The run returns, and this text is what it has printed. -/
def Prints (arguments : List String) (w : World) (text : String) : Prop :=
  ((run arguments).run w).1 = .ok .returned ∧
    ((run arguments).run w).2.output = w.output ++ text

/-- The run prints nothing and ends as one does that has met this failure. -/
def Fails (arguments : List String) (w : World) (e : Failure) : Prop :=
  ((run arguments).run w).1 = ((report e).run w).1 ∧ ((run arguments).run w).2.output = w.output

theorem run_eq_execute {arguments : List String} {o : Options}
    (hp : Options.parse arguments = .ok o) : run arguments = execute o := by
  unfold run
  rw [hp]

theorem run_of_missing {arguments : List String} {o : Options} {w : World}
    (hp : Options.parse arguments = .ok o) (hf : ¬LeadsToFile w o.source) :
    ((run arguments).run w).1 = .ok (.stopped 1) := by
  rw [run_eq_execute hp, run_execute_of_missing hf]

theorem run_of_exhibit {possible : Failure → Prop} {arguments : List String} {o : Options}
    {language : Language} {s : Script String} (hp : Options.parse arguments = .ok o)
    (hw : work o language = exhibit s) (hs : s.Only Looks possible) {w : World}
    (hf : LeadsToFile w o.source) (hl : Language.ofPath o.source = .ok language) :
    (∀ text, (s.run w).1 = .ok text → Prints arguments w text) ∧
      ∀ e, (s.run w).1 = .error e → Fails arguments w e := by
  unfold Prints Fails
  rw [run_eq_execute hp]
  obtain ⟨text, v, ht, -, hr⟩ | ⟨e, v, he, hv, hr⟩ := run_execute_of_exhibit hw hs hf hl
  · constructor
    · intro other ho
      cases ht.symm.trans ho
      rw [hr]
      exact ⟨rfl, rfl⟩
    · intro e he
      cases ht.symm.trans he
  · constructor
    · intro text ht
      cases he.symm.trans ht
    · intro other ho
      cases he.symm.trans ho
      obtain ⟨_, _, after⟩ := Agree.of_looks (report_looks e) hv
      rw [hr]
      refine ⟨(hv.run (report e)).1, ?_⟩
      rw [after]

/-- With the same options, and settings that give a target, a dump of the exports and a dry run find
one surface in a source that is there: the dump prints it, and the dry run prints the import line
for it, an empty line and the suite. If it cannot be found, both fail in the same way, and in every
world the one fails at the source exactly when the other does. -/
theorem dump_and_dry_run_show_one_surface (dump dry : List String) (o : Options)
    (hd : Options.parse dump = .ok { o with mode := .dumpExports })
    (hr : Options.parse dry = .ok { o with mode := .dryRun }) (w : World) (target : Target)
    (ht : Aims w o target) :
    (∀ e, ((listing o.source).run w).1 = .error e ↔
      ((contents o.source target).run w).1 = .error e) ∧
    (¬LeadsToFile w o.source ∧ ((run dump).run w).1 = .ok (.stopped 1) ∧
        ((run dry).run w).1 = .ok (.stopped 1) ∨
      (∃ surface text, ((exportsOf o.source (.ofPath o.source)).run w).1 = .ok surface ∧
        Json.write (some "  ") (Json.ofSurface surface) = .ok text ∧
        Prints dump w (text ++ "\n") ∧
        Prints dry w (ImportLine.render surface target.binding target.specifier ++ "\n\n" ++
          TestFile.describeBlock target.binding ++ "\n")) ∨
      ∃ f, ((exportsOf o.source (.ofPath o.source)).run w).1 = .error (.undecodable f) ∧
        Fails dump w (.undecodable f) ∧ Fails dry w (.undecodable f)) := by
  obtain ⟨language, settings, hl, hs, ht⟩ := ht
  have listed := fst_run_listing o.source w
  have rendered := fst_run_contents hl target w
  constructor
  · intro e
    rw [listed, rendered]
    cases ((exportsOf o.source (.ofPath o.source)).run w).1 <;> simp [Except.map]
  by_cases hf : LeadsToFile w o.source
  · have load := Configuration.load_looks o.source language o.config.join
    have dumped := run_of_exhibit hd (work_dumpExports rfl language)
      (load.bind fun _ => listing_looks o.source) hf hl
    have dried := run_of_exhibit hr (work_dryRun rfl language)
      (load.bind fun settings => preview_looks o.source settings) hf hl
    -- what the two runs come to, once the settings are loaded
    rw [fst_run_bind_of_found load hs, listed] at dumped
    rw [fst_run_bind_of_found load hs, fst_run_preview ht, rendered] at dried
    obtain ⟨hu, bytes, hb⟩ := hf
    have found := fst_run_exportsOf hu hb (.ofPath o.source)
    right
    cases hx : (Export.survey (Source.Module.parse (.ofPath o.source) bytes).root).2 with
    | error f =>
      rw [hx] at found
      rw [found] at dumped dried
      exact Or.inr ⟨f, found, dumped.2 _ rfl, dried.2 _ rfl⟩
    | ok surface =>
      rw [hx] at found
      rw [found] at dumped dried
      exact Or.inl ⟨surface, _, found, Json.write_ofSurface _ _, dumped.1 _ rfl, dried.1 _ rfl⟩
  · refine Or.inl ⟨hf, ?_, ?_⟩
    · exact run_of_missing hd hf
    · exact run_of_missing hr hf

/-- A source that exports nothing. -/
def mutedSource : World :=
  { disk := ⟨[(["m.jsx"], .file [])]⟩ }

theorem mutedSource_shown :
    ∃ surface text, ((exportsOf (.ofString "m.jsx") .tsx).run mutedSource).1 = .ok surface ∧
      Json.write (some "  ") (Json.ofSurface surface) = .ok text ∧
      Prints ["m.jsx", "--dump-exports"] mutedSource (text ++ "\n") ∧
      Prints ["--dry-run", "m.jsx"] mutedSource
        (ImportLine.render surface "m" "../m" ++ "\n\n" ++ TestFile.describeBlock "m" ++ "\n") := by
  have there : LeadsToFile mutedSource (.ofString "m.jsx") :=
    ⟨by decide +kernel, [], by decide +kernel⟩
  have found : ((exportsOf (.ofString "m.jsx") .tsx).run mutedSource).1.toOption = some {} := by
    decide +kernel
  obtain ⟨-, ⟨gone, -⟩ | shown | ⟨f, fault, -⟩⟩ := dump_and_dry_run_show_one_surface
    ["m.jsx", "--dump-exports"] ["--dry-run", "m.jsx"] { source := .ofString "m.jsx" } rfl rfl
    mutedSource ⟨"m", "../m", .ofString "__tests__", .ofString "__tests__/m.spec.jsx"⟩
    (aims_of_toOption .javascript rfl (by decide +kernel))
  · exact absurd there gone
  · exact shown
  · have same : ((exportsOf (.ofString "m.jsx") .tsx).run mutedSource).1 =
        .error (.undecodable f) := fault
    rw [same] at found
    cases found

end Command

end Scaffold
