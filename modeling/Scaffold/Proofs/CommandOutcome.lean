import Scaffold.Proofs.CommandStages
import Scaffold.Proofs.TargetPaths

/-!
# How a run of the command ends

In write mode a run that returns has written the test or was refused the permission to replace what
stands at the target. A refusal leaves the disk as it was wherever the target could be reached
before the run; otherwise folders on the way to it may be new.
-/

namespace Scaffold

open Script Generation

namespace Generation

/-- Where the target is occupied its folder is there, and nothing has to be made. -/
theorem run_approach_of_occupied {source : Path} {settings : Settings} {language : Language}
    {target : Target} {w : World} (hp : source.Plain) (hl : Language.ofPath source = .ok language)
    (ht : Target.ofSource w.workingFolder source settings = .ok target)
    (ho : Occupied w target.file) :
    ∃ records, (approach source settings).run w = (.ok target, { w with records }) := by
  obtain ⟨name, names, hf⟩ := Target.file_below_folder hp hl ht
  obtain ⟨hu, he⟩ := ho
  rw [hf] at hu he
  have usable : isUsable target.folder = true := by
    simp only [isUsable, List.all_append, Bool.and_eq_true] at hu
    exact hu.1
  -- a path to something leads through folders only
  have folder := Disk.folder_of_below he
  obtain ⟨records, hr⟩ := run_approach hl ht
  refine ⟨records, ?_⟩
  rw [hr]
  exact run_bind_of_ok (run_ensureFolder_of_folder (w := { w with records }) usable folder) _

theorem run_permit_of_refusal {target : Target} {w : World} (ho : Occupied w target.file)
    (ha : ¬Accepts w.input) :
    ∃ o v, o.isExpected = true ∧ v.disk = w.disk ∧
      (permit false confirm target).run w = (.error (.obstacle o), v) := by
  refine ⟨⟨.fileExists, s!"Unit test file {target.file} already exists.", none⟩,
    { w with input := (World.firstLine w.input).2, output := w.output ++ prompt target.file },
    rfl, rfl, ?_⟩
  change (protect target.file confirm).run w = _
  rw [run_protect_of_occupied ho, run_bind_of_ok (run_confirm target.file w), decide_eq_false ha]
  rfl

theorem permit_confirm_eq_error {force : Bool} {target : Target} {e : Failure} {w v : World}
    (h : (permit force confirm target).run w = (.error e, v)) :
    force = false ∧ Occupied w target.file ∧ ¬Accepts w.input := by
  cases force with
  | true => cases h
  | false =>
    refine ⟨rfl, ?_⟩
    change (protect target.file confirm).run w = _ at h
    by_cases ho : Occupied w target.file
    · refine ⟨ho, fun ha => ?_⟩
      rw [run_protect_of_occupied ho, run_bind_of_ok (run_confirm target.file w),
        decide_eq_true ha] at h
      cases h
    · rw [run_protect_of_free ho] at h
      cases h

/-- The disk holds the whole test. It is the disk of the world with a file written to it, once the
folders on the way to the file were there. -/
def Written (w : World) (source : Path) (target : Target) (after : Disk) : Prop :=
  ∃ text before, ((contents source target).run w).1 = .ok text ∧
    w.disk.Grows (OnTheWay target.folder w.workingFolder) before ∧
    before.write w.workingFolder target.file (Text.Utf8.encode text) = .ok after ∧
    after.entry? w.workingFolder target.file = some (.file (Text.Utf8.encode text))

/-- Something stands at the target and nothing is new but folders on the way to it, and not even
these where the target could be reached before. -/
def Spared (w : World) (target : Target) (after : Disk) : Prop :=
  isUsable target.file = true ∧ (after.entry? w.workingFolder target.file).isSome = true ∧
    w.disk.Grows (OnTheWay target.folder w.workingFolder) after ∧
    (Occupied w target.file → after = w.disk)

section

variable {source : Path} {settings : Settings} {force : Bool} {opens : Option Bool} {w v : World}

theorem onTheWay_of_target {target : Target}
    (ht : Target.ofSource w.workingFolder source settings = .ok target) (place : List String)
    (h : OnTheWayToTarget source settings w.workingFolder place) :
    OnTheWay target.folder w.workingFolder place := by
  obtain ⟨other, ho, way⟩ := h
  cases ho.symm.trans ht
  exact way

theorem run_contents_of_grows {allowed : List String → Prop} {bytes : Bytes}
    (hs : w.disk.entry? w.workingFolder source = some (.file bytes))
    (hg : w.disk.Grows allowed v.disk) (hf : v.workingFolder = w.workingFolder) (target : Target) :
    ((contents source target).run v).1 = ((contents source target).run w).1 := by
  apply (contents_readsAt source target).readsAt_congr
  rw [hf, Disk.read_eq_ok_iff.mpr hs, Disk.read_eq_ok_iff.mpr (hg.entry_eq_some hs)]

/-- What is rendered once the folders are there is what would have been rendered before. -/
theorem compose_rendered {confirm : Path → Script Bool}
    (hc : ∀ p v, ((confirm p).run v).2.disk = v.disk) {bytes : Bytes} {target : Target}
    {text : String} {u : World} (hs : w.disk.entry? w.workingFolder source = some (.file bytes))
    (hu : (compose source settings force confirm).run w = (.ok (target, text), u)) :
    Target.ofSource w.workingFolder source settings = .ok target ∧
      ((contents source target).run w).1 = .ok text := by
  obtain ⟨x, y, hx, -, hy⟩ := compose_eq_ok hu
  have grown := compose_grows hc hu
  have disk : u.disk = y.disk := by
    rw [← (contents_looks source target).looks_disk y, hy]
  have folder : y.workingFolder = w.workingFolder := by
    rw [← run_workingFolder (compose source settings force confirm) w, hu,
      ← run_workingFolder (contents source target) y, hy]
  rw [disk] at grown
  have rendered := run_contents_of_grows hs grown folder target
  rw [hy] at rendered
  exact ⟨(approach_eq_ok hx).2, rendered.symm⟩

theorem generate_written {result : Target} {bytes : Bytes}
    (hs : w.disk.entry? w.workingFolder source = some (.file bytes))
    (hr : (generate source settings force opens confirm).run w = (.ok result, v)) :
    ∃ target, Target.ofSource w.workingFolder source settings = .ok target ∧
      Written w source target v.disk := by
  obtain ⟨_, -, ho⟩ | ⟨target, text, u, hu, ⟨_, -, ho, -⟩ | ⟨-, -, -, -, hd, -⟩⟩ := generate_cases hr
  · cases ho
  · cases ho
  · obtain ⟨ht, rendered⟩ := compose_rendered confirm_disk hs hu
    have grown := compose_grows confirm_disk hu
    obtain ⟨-, -, hg⟩ := Disk.write_eq_ok hd
    refine ⟨target, ht, text, u.disk, rendered, grown.mono (onTheWay_of_target ht), hd, ?_⟩
    rw [Disk.entry?_eq_some_iff, hg, if_pos rfl]
    exact ⟨Disk.locate_of_write hd, rfl⟩

theorem generate_spared {e : Failure} (hp : source.Plain) (he : ¬Unexpected e)
    (hr : (generate source settings force opens confirm).run w = (.error e, v)) :
    ∃ target, Target.ofSource w.workingFolder source settings = .ok target ∧ force = false ∧
      ¬Accepts w.input ∧ Spared w target v.disk := by
  obtain ⟨target, x, hx, hv⟩ := generate_refused he hr
  obtain ⟨⟨language, hl⟩, ht⟩ := approach_eq_ok hx
  obtain ⟨hf, ⟨hu, ho⟩, ha⟩ := permit_confirm_eq_error hv
  have disk : v.disk = x.disk := by
    rw [← permit_disk confirm_disk force target x, hv]
  obtain ⟨same, grown⟩ := approach_grows hx
  refine ⟨target, ht, hf, ?_, hu, ?_, ?_, fun occupied => ?_⟩
  · rw [same] at ha
    exact ha
  · rw [same] at ho
    rw [disk]
    exact ho
  · rw [disk]
    exact grown.mono (onTheWay_of_target ht)
  · obtain ⟨_, hy⟩ := run_approach_of_occupied hp hl ht occupied
    have hw := (Prod.mk.inj (hx.symm.trans hy)).2
    rw [disk, hw]

theorem run_generate_of_refusal {language : Language} {target : Target} (opens : Option Bool)
    (hp : source.Plain) (hl : Language.ofPath source = .ok language)
    (ht : Target.ofSource w.workingFolder source settings = .ok target)
    (ho : Occupied w target.file) (ha : ¬Accepts w.input) :
    ∃ o v, o.isExpected = true ∧ v.disk = w.disk ∧
      (generate source settings false opens confirm).run w = (.error (.obstacle o), v) := by
  obtain ⟨records, hx⟩ := run_approach_of_occupied hp hl ht ho
  obtain ⟨o, v, he, hd, hv⟩ := run_permit_of_refusal (w := { w with records }) ho ha
  refine ⟨o, v, he, hd, ?_⟩
  rw [generate_eq]
  refine run_bind_of_error ?_ _
  unfold compose
  rw [run_bind_of_ok hx]
  exact run_bind_of_error hv _

end

end Generation

namespace Command

theorem run_report_of_unexpected {e : Failure} (h : Unexpected e) (w : World) :
    ((report e).run w).1 ≠ .ok .returned := by
  cases e with
  | obstacle o =>
    have ho : o.isExpected = false := h
    rw [report, ho]
    intro hr
    cases hr
  | _ =>
    intro hr
    cases hr

theorem run_report_of_expected {o : Obstacle} (h : o.isExpected = true) (w : World) :
    ∃ records, (report (.obstacle o)).run w = (.ok .returned, { w with records }) := by
  obtain ⟨records, hl⟩ := run_log .info .command s!"{o.message} Leaving it untouched." w
  refine ⟨records, ?_⟩
  rw [report, h]
  exact run_bind_of_ok hl _

theorem execute_returned {o : Options} (hp : o.source.Plain) (hm : o.mode = .write) {w v : World}
    (hr : (execute o).run w = (.ok .returned, v)) :
    ∃ target, Aims w o target ∧ (Written w o.source target v.disk ∨
      o.force = false ∧ ¬Accepts w.input ∧ Spared w target v.disk) := by
  obtain ⟨x, -, -, hs⟩ | ⟨language, ⟨-, bytes, hf⟩, hl, loaded⟩ := execute_write_cases hm w
  · cases hr.symm.trans hs
  obtain ⟨e, x, hs, -, he⟩ | ⟨settings, x, hs, hx, hg⟩ := loaded
  · have unexpected := (Configuration.load_looks _ _ _).of_run_error hs
    exact absurd (by rw [← he, hr]) (run_report_of_unexpected unexpected x)
  · obtain ⟨result, u, logged, hg, he⟩ | ⟨e, u, hg, he⟩ := hg
    · rw [← hx.disk, ← hx.workingFolder] at hf
      obtain ⟨target, ht, text, before, rendered, written⟩ := generate_written hf hg
      rw [(hx.run (contents o.source target)).1] at rendered
      rw [hx.disk, hx.workingFolder] at written
      rw [hx.workingFolder] at ht
      cases hr.symm.trans he
      exact ⟨target, ⟨language, settings, hl, hs, ht⟩, Or.inl ⟨text, before, rendered, written⟩⟩
    · have expected : ¬Unexpected e := by
        intro unexpected
        exact absurd (by rw [← he, hr]) (run_report_of_unexpected unexpected u)
      obtain ⟨target, ht, hn, ha, spared⟩ := generate_spared hp expected hg
      have kept := (report_looks e).looks_disk u
      rw [← he, hr] at kept
      have disk : v.disk = u.disk := kept
      obtain ⟨least, records, rfl⟩ := hx
      rw [disk]
      exact ⟨target, ⟨language, settings, hl, hs, ht⟩, Or.inr ⟨hn, ha, spared⟩⟩

theorem run_execute_of_refusal {o : Options} (hp : o.source.Plain) (hm : o.mode = .write) {w : World}
    {target : Target} (hf : LeadsToFile w o.source) (ht : Aims w o target)
    (ho : Occupied w target.file) (hn : o.force = false) (ha : ¬Accepts w.input) :
    ∃ v, (execute o).run w = (.ok .returned, v) ∧ v.disk = w.disk := by
  obtain ⟨language, settings, hl, hs, ht⟩ := ht
  obtain ⟨x, stopped, -⟩ | ⟨other, -, hl', loaded⟩ := execute_write_cases hm w
  · exact absurd hl (stopped hf language)
  cases hl'.symm.trans hl
  obtain ⟨e, x, he, -⟩ | ⟨others, x, hs', hx, hg⟩ := loaded
  · cases hs.symm.trans he
  cases hs.symm.trans hs'
  obtain ⟨least, records, rfl⟩ := hx
  obtain ⟨refusal, u, he, hd, hu⟩ := run_generate_of_refusal (w := { w with least, records })
    (if o.opens then some true else none) hp hl ht ho ha
  rw [hn, hu] at hg
  obtain ⟨_, _, _, hg, -⟩ | ⟨e, x, hg, hr⟩ := hg
  · cases hg
  · cases hg
    obtain ⟨logged, reported⟩ := run_report_of_expected he u
    exact ⟨{ u with records := logged }, hr.trans reported, hd⟩

/-- In write mode, a run that returns has written the test, or was not forced to, was not told to
and has spared the target. A run that could write the test but finds something at the target, is
not forced and is told no returns and leaves the disk as it is. -/
theorem run_returns_written_or_refused (arguments : List String) (o : Options)
    (hp : Options.parse arguments = .ok o) (hm : o.mode = .write) (w : World) :
    (∀ v, (run arguments).run w = (.ok .returned, v) →
      ∃ target, Aims w o target ∧
        (Written w o.source target v.disk ∨
          o.force = false ∧ ¬Accepts w.input ∧ Spared w target v.disk)) ∧
    (∀ target, LeadsToFile w o.source → Aims w o target → Occupied w target.file →
      o.force = false → ¬Accepts w.input →
      ∃ v, (run arguments).run w = (.ok .returned, v) ∧ v.disk = w.disk) := by
  have plain := Options.plain_of_parse hp
  have he : run arguments = execute o := by
    unfold run
    rw [hp]
  rw [he]
  constructor
  · intro v hr
    exact execute_returned plain hm hr
  · intro target hf ht ho hn ha
    exact run_execute_of_refusal plain hm hf ht ho hn ha

/-- A source with a test of one byte, and a user who says no. -/
def keptTest : World :=
  { disk := ⟨[(["m.ts"], .file []), (["__tests__"], .folder), (["__tests__", "m.spec.ts"], .file [1])]⟩
    input := ['n', '\n'] }

theorem keptTest_spared : ∃ v target, (run ["m.ts"]).run keptTest = (.ok .returned, v) ∧
    v.disk = keptTest.disk ∧ Aims keptTest { source := .ofString "m.ts" } target ∧
      (Written keptTest (.ofString "m.ts") target v.disk ∨ Spared keptTest target v.disk) := by
  obtain ⟨returned, refused⟩ :=
    run_returns_written_or_refused ["m.ts"] { source := .ofString "m.ts" } rfl rfl keptTest
  obtain ⟨v, hr, hd⟩ := refused _ ⟨by decide +kernel, [], by decide +kernel⟩
    ⟨.typescript, {}, rfl, rfl, rfl⟩ ⟨by decide +kernel, by decide +kernel⟩ rfl (by decide +kernel)
  obtain ⟨target, aims, written | ⟨-, -, spared⟩⟩ := returned v hr
  · exact ⟨v, target, hr, hd, aims, Or.inl written⟩
  · exact ⟨v, target, hr, hd, aims, Or.inr spared⟩

/-- The way to the target leads through a folder that is missing. -/
def detour : World :=
  { disk := ⟨[(["m.ts"], .file []), (["m.spec.ts"], .file [1]),
      (["config.yaml"], .file (Text.Utf8.encode "test_directory: fresh/..\n"))]⟩
    input := ['n', '\n'] }

/-- A refusal need not leave the disk as it was: before the run the target could not be reached, and
what was there is reached once the missing folder has been made. -/
theorem detour_refused_with_new_folder : ∃ target,
    Aims detour { source := .ofString "m.ts" } target ∧
      ((run ["m.ts"]).run detour).1.toOption = some .returned ∧
      detour.disk.entry? detour.workingFolder target.file = none ∧
      ((run ["m.ts"]).run detour).2.disk.entry? detour.workingFolder target.file =
        some (.file [1]) ∧
      (∀ text, ((contents (.ofString "m.ts") target).run detour).1 = .ok text →
        Text.Utf8.encode text ≠ [1]) ∧
      detour.disk.get? ["fresh"] = none ∧
      ((run ["m.ts"]).run detour).2.disk.get? ["fresh"] = some .folder := by
  have ran : ((run ["m.ts"]).run detour).1.toOption = some .returned ∧
      ((run ["m.ts"]).run detour).2.disk.entry? detour.workingFolder
        (.ofString "fresh/../m.spec.ts") = some (.file [1]) ∧
      ((run ["m.ts"]).run detour).2.disk.get? ["fresh"] = some .folder := by
    decide +kernel
  refine ⟨⟨"m", "./m", .ofString "fresh/..", .ofString "fresh/../m.spec.ts"⟩,
    aims_of_toOption .typescript rfl ?_, ran.1, ?_, ran.2.1, ?_, rfl, ran.2.2⟩
  · decide +kernel
  · decide +kernel
  · intro text ht
    have rendered : ((contents (.ofString "m.ts") ⟨"m", "./m", .ofString "fresh/..",
        .ofString "fresh/../m.spec.ts"⟩).run detour).1.toOption.any (Text.Utf8.encode · ≠ [1]) =
        true := by
      decide +kernel
    rw [ht] at rendered
    simpa [Except.toOption] using rendered

end Command

end Scaffold
