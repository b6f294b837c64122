import Scaffold.Proofs.GenerationStages
import Scaffold.Proofs.TargetPaths
import Scaffold.Proofs.TestPlaces

/-!
# Generating a test once more

A generation that succeeds leaves the folder of its target behind, so that there is none to make the
next time. The test that it writes is not placed over its source nor over a folder: the source
reads as before, the same text comes of it, and writing that text to the file which holds it
changes nothing.
-/

namespace Scaffold

namespace Disk

variable {d d' : Disk} {cwd p q : Path} {contents : Bytes} {e : Entry}

theorem put_put (d : Disk) (place : List String) (e : Entry) :
    (d.put place e).put place e = d.put place e := by
  simp [put]

theorem write_of_locate (hl : d.locate cwd p = .ok (cwd.resolve p))
    (hn : d.get? (cwd.resolve p) ≠ some .folder) (contents : Bytes) :
    d.write cwd p contents = .ok (d.put (cwd.resolve p) (.file contents)) := by
  simp only [Disk.write, hl, bind, Except.bind]
  rfl

theorem write_again (h : d.write cwd p contents = .ok d') : d'.write cwd p contents = .ok d' := by
  obtain ⟨hl, hn, hg⟩ := write_eq_ok h
  have written := write_of_locate hl hn contents
  have there : d'.get? (cwd.resolve p) ≠ some .folder := by simp [hg]
  rw [write_of_locate (locate_of_write h) there contents]
  rw [h, Except.ok.injEq] at written
  rw [written, put_put]

theorem entry?_of_write (h : d.write cwd p contents = .ok d') (hq : d.entry? cwd q = some e)
    (ha : cwd.resolve q ≠ cwd.resolve p) : d'.entry? cwd q = some e := by
  obtain ⟨-, -, hg⟩ := write_eq_ok h
  obtain ⟨hl, he⟩ := entry?_eq_some_iff.mp hq
  refine entry?_eq_some_iff.mpr ⟨follow_of_folders (fun _ => get?_folder_of_write h) hl, ?_⟩
  rw [hg, if_neg ha, he]

theorem folder_of_write (h : d.write cwd p contents = .ok d')
    (hq : d.entry? cwd q = some .folder) : d'.entry? cwd q = some .folder := by
  obtain ⟨-, hn, -⟩ := write_eq_ok h
  refine entry?_of_write h hq fun same => hn ?_
  rw [← same]
  exact (entry?_eq_some_iff.mp hq).2

theorem entry?_of_makeFolder (h : d.makeFolder cwd p = .ok d') :
    d'.entry? cwd p = some .folder := by
  have hl : d.locate cwd p = .ok (cwd.resolve p) := by
    unfold Disk.makeFolder at h
    cases hl : d.locate cwd p with
    | error f => simp [hl, bind, Except.bind] at h
    | ok place => rw [locate_eq_resolve hl]
  refine entry?_eq_some_iff.mpr ⟨(grows_makeFolder h).locate hl, ?_⟩
  obtain ⟨-, rfl⟩ := makeFolder_eq_ok h
  simp [get?_put]

end Disk

/-! ### Surroundings -/

namespace Script

theorem workingFolder_of_run {α : Type} {s : Script α} {w v : World} {outcome : Except Failure α}
    (h : s.run w = (outcome, v)) : v.workingFolder = w.workingFolder := by
  rw [← run_workingFolder s w, h]

theorem answer_launchFault (w : World) (r : Request) :
    (w.answer r).2.launchFault = w.launchFault := by
  cases r with
  | makeFolder p =>
    simp only [World.answer, World.changing]
    split <;> rfl
  | write p contents =>
    simp only [World.answer, World.changing]
    split <;> rfl
  | record r =>
    simp only [World.answer]
    split <;> rfl
  | _ => rfl

theorem run_launchFault {α : Type} (s : Script α) (w : World) :
    (s.run w).2.launchFault = w.launchFault := by
  induction s generalizing w with
  | done a => rfl
  | fail e => rfl
  | ask r next ih => exact (ih _ _).trans (answer_launchFault w r)

end Script

namespace Generation

open Script

/-- Worlds in which the same editor is found, and starts or does not. -/
def LaunchesAlike (w v : World) : Prop :=
  w.environment = v.environment ∧ w.launchFault = v.launchFault

theorem launchesAlike_run {α : Type} (s : Script α) (w : World) : LaunchesAlike (s.run w).2 w :=
  ⟨run_environment s w, run_launchFault s w⟩

theorem answer_alike (r : Request) (hr : Opens r) (w v : World) (h : LaunchesAlike w v) :
    (w.answer r).1 = (v.answer r).1 ∧ LaunchesAlike (w.answer r).2 (v.answer r).2 := by
  obtain ⟨_, _, hw⟩ := answer_of_opens hr w
  obtain ⟨_, _, hv⟩ := answer_of_opens hr v
  constructor
  · cases r with
    | «variable» name => simp only [World.answer, h.1]
    | launch words => simp only [World.answer, h.2]
    | record r => rfl
    | _ => exact hr.elim
  · rw [hw, hv]
    exact h

/-! ### Folders that are there -/

def HasFolder (w : World) (p : Path) : Prop :=
  isUsable p = true ∧ w.disk.entry? w.workingFolder p = some .folder

theorem isUsable_of_makeFolder {p : Path} {w v : World} {result : Except Disk.Fault Unit}
    (h : (makeFolder p).run w = (.ok result, v)) : isUsable p = true := by
  obtain ⟨made, u, hm, -⟩ := run_bind_eq_ok h
  unfold Script.makeFolder at hm
  split at hm
  · assumption
  · cases hm

theorem makeFolder_leaves {p : Path} {w v : World}
    (h : (makeFolder p).run w = (.ok (.ok ()), v)) : HasFolder v p := by
  have hu := isUsable_of_makeFolder h
  refine ⟨hu, ?_⟩
  unfold makeFolder at h
  rw [run_bind_of_ok (run_makeFolder hu w)] at h
  cases hd : w.disk.makeFolder w.workingFolder p with
  | ok d =>
    rw [hd] at h
    cases h
    exact Disk.entry?_of_makeFolder hd
  | error f =>
    rw [hd] at h
    -- nothing was made, so the folder must have been there
    cases f with
    | missing => cases h
    | _ =>
      rw [World.changing, run_bind_of_ok (run_isFolder p w), hu, Bool.true_and] at h
      obtain ⟨hr, rfl⟩ := Prod.mk.inj h
      have found := Except.ok.inj hr
      split at found
      · exact beq_iff_eq.mp ‹_›
      · cases found

/-- Where folders could be made, the last step was to make the last of them. -/
theorem makeFolders_ends {root : Path.Root} {names : List String} {w v : World}
    (h : (makeFolders root names).run w = (.ok (.ok ()), v)) :
    ∃ u, (makeFolder ⟨root, names.reverse⟩).run u = (.ok (.ok ()), v) := by
  have good {x : Except Disk.Fault Unit} {p : Path}
      (hx : x.mapError (fun f => (f, p)) = .ok ()) : x = .ok () := by
    cases x with
    | ok a => rfl
    | error f => cases hx
  cases names with
  | nil =>
    obtain ⟨result, u, hm, h⟩ := run_bind_eq_ok h
    obtain ⟨hr, rfl⟩ := Prod.mk.inj h
    rw [good (Except.ok.inj hr)] at hm
    exact ⟨w, hm⟩
  | cons name above =>
    obtain ⟨result, u, hm, h⟩ := run_bind_eq_ok h
    split at h
    · obtain ⟨made, x, -, h⟩ := run_bind_eq_ok h
      split at h
      · obtain ⟨result, y, hm, h⟩ := run_bind_eq_ok h
        obtain ⟨hr, rfl⟩ := Prod.mk.inj h
        rw [good (Except.ok.inj hr)] at hm
        exact ⟨x, hm⟩
      · cases h
    · obtain ⟨hr, rfl⟩ := Prod.mk.inj h
      rw [good (Except.ok.inj hr)] at hm
      exact ⟨w, hm⟩

theorem ensureFolder_leaves {p : Path} {w v : World} (h : (ensureFolder p).run w = (.ok (), v)) :
    HasFolder v p := by
  obtain ⟨result, u, hm, h⟩ := run_bind_eq_ok h
  split at h
  · cases h
    obtain ⟨x, hx⟩ := makeFolders_ends hm
    rw [List.reverse_reverse] at hx
    exact makeFolder_leaves hx
  · cases h

/-! ### The stages once more -/

section

variable {source : Path} {settings : Settings} {target : Target} {text : String} {force : Bool}
  {opens : Option Bool} {confirm : Path → Script Bool} {w v : World}

theorem approach_leaves (h : (approach source settings).run w = (.ok target, v)) :
    HasFolder v target.folder := by
  obtain ⟨e, he⟩ | ⟨language, aim, records, -, -, hr⟩ := approach_cases source settings w
  · cases h.symm.trans he
  · rw [hr] at h
    obtain ⟨⟨⟩, u, hf, hp⟩ := run_bind_eq_ok h
    cases hp
    exact ensureFolder_leaves hf

theorem run_approach_of_folder {language : Language} (hl : Language.ofPath source = .ok language)
    (ht : Target.ofSource w.workingFolder source settings = .ok target)
    (hf : HasFolder w target.folder) :
    ∃ records, (approach source settings).run w = (.ok target, { w with records }) := by
  obtain ⟨records, hr⟩ := run_approach hl ht
  have ensured : (ensureFolder target.folder).run { w with records } =
      (.ok (), { w with records }) := run_ensureFolder_of_folder hf.1 hf.2
  exact ⟨records, hr.trans (run_bind_of_ok ensured _)⟩

/-- The callback agrees to everything, and leaves the disk alone. -/
def Agrees (confirm : Path → Script Bool) : Prop :=
  ∀ p w, ((confirm p).run w).1 = .ok true ∧ ((confirm p).run w).2.disk = w.disk

theorem run_permit_of_agrees (hc : force = true ∨ Agrees confirm) (target : Target) (w : World) :
    ∃ v, (permit force confirm target).run w = (.ok (), v) ∧ v.disk = w.disk := by
  cases force with
  | true => exact ⟨w, rfl, rfl⟩
  | false =>
    obtain ⟨agreed, kept⟩ := hc.resolve_left Bool.false_ne_true target.file w
    by_cases ho : Occupied w target.file
    · obtain ⟨records, hr⟩ := run_log .info .files s!"Overwriting {target.file}"
        ((confirm target.file).run w).2
      have settled := (run_bind_of_ok (Prod.ext agreed rfl) (settle target.file)).trans hr
      exact ⟨_, (run_protect_of_occupied ho confirm).trans settled, kept⟩
    · exact ⟨w, run_protect_of_free ho confirm, rfl⟩

theorem readSource_eq_ok {p : Path} {bytes : Bytes} (h : (readSource p).run w = (.ok bytes, v)) :
    w.disk.read w.workingFolder p = .ok bytes := by
  obtain ⟨result, u, hr, h⟩ := run_bind_eq_ok h
  by_cases hu : isUsable p = true
  · rw [run_read hu] at hr
    obtain ⟨hd, rfl⟩ := Prod.mk.inj hr
    rw [Except.ok.inj hd]
    split at h
    · cases h
      rfl
    · obtain ⟨⟨⟩, x, -, hx⟩ := run_bind_eq_ok h
      cases hx
  · unfold Script.read at hr
    rw [if_neg hu] at hr
    cases hr

theorem contents_reads (h : (contents source target).run w = (.ok text, v)) :
    ∃ bytes, w.disk.read w.workingFolder source = .ok bytes := by
  unfold contents at h
  cases hl : Language.ofPath source with
  | error name =>
    rw [run_bind_of_error (run_languageOf_error hl w)] at h
    cases h
  | ok language =>
    rw [run_bind_of_ok (run_languageOf hl w)] at h
    obtain ⟨surface, u, hs, -⟩ := run_bind_eq_ok h
    obtain ⟨bytes, x, hr, -⟩ := run_bind_eq_ok hs
    exact ⟨bytes, readSource_eq_ok hr⟩

theorem contents_again {x : World} (h : ((contents source target).run w).1 = .ok text)
    (hd : x.disk = w.disk) (hf : x.workingFolder = w.workingFolder) :
    ∃ y, (contents source target).run x = (.ok text, y) ∧ y.disk = w.disk := by
  have same : ((contents source target).run x).1 = ((contents source target).run w).1 :=
    (contents_readsAt source target).readsAt_congr (by rw [hd, hf])
  refine ⟨((contents source target).run x).2, ?_, ?_⟩
  · rw [← h, ← same]
  · exact ((contents_looks source target).looks_disk x).trans hd

theorem finish_again (ha : LaunchesAlike v w)
    (h : ((finish settings opens target).run w).1 = .ok target) :
    ∃ u, (finish settings opens target).run v = (.ok target, u) ∧ u.disk = v.disk := by
  have same : ((finish settings opens target).run v).1 = ((finish settings opens target).run w).1 :=
    (finish_opens settings opens target).run_alike LaunchesAlike answer_alike ha
  obtain ⟨_, _, last⟩ := run_finish settings opens target v
  refine ⟨((finish settings opens target).run v).2, ?_, ?_⟩
  · rw [← h, ← same]
  · rw [last]

theorem finish_eq_ok {result : Target}
    (h : (finish settings opens target).run w = (.ok result, v)) : result = target := by
  unfold finish at h
  split at h
  · obtain ⟨⟨⟩, u, -, hp⟩ := run_bind_eq_ok h
    cases hp
    rfl
  · cases h
    rfl

/-- What is left before the write: the folder, and a source that gives the text. -/
theorem compose_leaves {u : World} (hc : force = true ∨ Agrees confirm)
    (h : (compose source settings force confirm).run w = (.ok (target, text), u)) :
    HasFolder u target.folder ∧ (∃ bytes, u.disk.read u.workingFolder source = .ok bytes) ∧
      ((contents source target).run u).1 = .ok text := by
  obtain ⟨a, b, approached, permitted, rendered⟩ := compose_eq_ok h
  obtain ⟨_, again, kept⟩ := run_permit_of_agrees hc target a
  cases again.symm.trans permitted
  obtain ⟨records, looked⟩ := (contents_looks source target).run_records b
  rw [rendered] at looked
  obtain rfl : u = { b with records } := looked
  have readable := contents_reads rendered
  have first : ((contents source target).run b).1 = .ok text := by rw [rendered]
  obtain ⟨_, second, -⟩ := contents_again first (x := { b with records }) rfl rfl
  refine ⟨?_, readable, ?_⟩
  · unfold HasFolder
    rw [kept, workingFolder_of_run permitted]
    exact approach_leaves approached
  · rw [second]

/-- The world as a generation leaves it: the folder of the target is there, the source still gives
the text, and to write it once more would change nothing. -/
structure Settled (source : Path) (settings : Settings) (target : Target) (text : String)
    (w : World) : Prop where
  known : ∃ language, Language.ofPath source = .ok language
  aim : Target.ofSource w.workingFolder source settings = .ok target
  folder : HasFolder w target.folder
  rendered : ((contents source target).run w).1 = .ok text
  usable : isUsable target.file = true
  written : w.disk.write w.workingFolder target.file (Text.Utf8.encode text) = .ok w.disk

theorem settled_of_generate (hp : source.Proper) (hs : '/' ∉ settings.suffix.format.toList)
    (hc : force = true ∨ Agrees confirm)
    (h : (generate source settings force opens confirm).run w = (.ok target, v)) :
    (∃ text, Settled source settings target text v) ∧
      ((finish settings opens target).run v).1 = .ok target := by
  obtain ⟨e, -, ho⟩ | ⟨aim, text, u, composed, saved⟩ := generate_cases h
  · cases ho
  · obtain ⟨e, -, ho, -⟩ | ⟨x, -, finished, usable, written, -⟩ := saved
    · cases ho
    · obtain rfl := finish_eq_ok finished
      obtain ⟨a, -, approached, -, -⟩ := compose_eq_ok composed
      obtain ⟨⟨language, hl⟩, ht⟩ := approach_eq_ok approached
      obtain ⟨⟨named, folder⟩, ⟨bytes, readable⟩, rendered⟩ := compose_leaves hc composed
      have hv := workingFolder_of_run h
      rw [workingFolder_of_run composed] at folder readable
      -- the write does not touch the source
      have apart : w.workingFolder.resolve source ≠ w.workingFolder.resolve target.file := by
        rw [Target.ofSource_eq_ok ht]
        exact (Target.resolve_file_ne _ _ hp hl hs).symm
      have stays : v.disk.read w.workingFolder source = .ok bytes :=
        Disk.read_eq_ok_iff.mpr (Disk.entry?_of_write written (Disk.read_eq_ok_iff.mp readable) apart)
      have alike := launchesAlike_run (finish settings opens target) x
      rw [finished] at alike
      obtain ⟨_, again, -⟩ := finish_again alike (by rw [finished])
      refine ⟨⟨text, ⟨language, hl⟩, hv ▸ ht, ⟨named, ?_⟩, ?_, usable, ?_⟩, by rw [again]⟩
      · rw [hv]
        exact Disk.folder_of_write written folder
      · rw [← rendered]
        apply (contents_readsAt source target).readsAt_congr
        rw [hv, stays, workingFolder_of_run composed, readable]
      · rw [hv]
        exact Disk.write_again written

theorem generate_of_settled (hs : Settled source settings target text w)
    (hc : force = true ∨ Agrees confirm)
    (hf : ((finish settings opens target).run w).1 = .ok target) :
    ∃ v, (generate source settings force opens confirm).run w = (.ok target, v) ∧
      v.disk = w.disk := by
  obtain ⟨language, hl⟩ := hs.known
  obtain ⟨records, approached⟩ := run_approach_of_folder hl hs.aim hs.folder
  obtain ⟨x, permitted, kept⟩ := run_permit_of_agrees hc target { w with records }
  have stays := workingFolder_of_run permitted
  obtain ⟨y, rendered, same⟩ := contents_again hs.rendered kept stays
  have composed : (compose source settings force confirm).run w = (.ok (target, text), y) := by
    unfold compose
    rw [run_bind_of_ok approached, run_bind_of_ok permitted, run_bind_of_ok rendered]
    rfl
  have written := hs.written
  rw [← workingFolder_of_run composed, ← same] at written
  obtain ⟨logged, saved⟩ := run_save hs.usable written
  -- the editor cannot tell the world after the write from the one at the start
  have alike := launchesAlike_run (compose source settings force confirm) w
  rw [composed] at alike
  obtain ⟨v, finished, last⟩ := finish_again (v := { y with records := logged }) alike hf
  refine ⟨v, ?_, last.trans same⟩
  rw [generate_eq, run_bind_of_ok composed]
  exact (run_bind_of_ok saved _).trans finished

end

/-- When a generation succeeds, forced or with a callback that agrees to everything, then the same
one in the world that it leaves succeeds with the same target, and the disk stays as it is. -/
theorem generate_again_keeps_disk (source : Path) (hp : source.Proper) (settings : Settings)
    (hs : '/' ∉ settings.suffix.format.toList) (force : Bool) (opens : Option Bool)
    (confirm : Path → Script Bool) (hc : force = true ∨ Agrees confirm) (w v : World)
    (target : Target) (h : (generate source settings force opens confirm).run w = (.ok target, v)) :
    ∃ u, (generate source settings force opens confirm).run v = (.ok target, u) ∧
      u.disk = v.disk := by
  obtain ⟨⟨text, settled⟩, opened⟩ := settled_of_generate hp hs hc h
  exact generate_of_settled settled hc opened

/-- A source whose folder holds nothing else. -/
def firstSource : World :=
  { disk := ⟨[(["src"], .folder), (["src", "m.ts"], .file [])]⟩ }

/-- The folder of the test leads through one that is made on the way. -/
def firstTest : Script Target :=
  generate (.ofString "src/m.ts") { folder := .text "new/../t" } false none fun _ => pure true

def firstTarget : Target :=
  ⟨"m", "../m", .ofString "src/new/../t", .ofString "src/new/../t/m.spec.ts"⟩

/-- The callback is asked the second time only. -/
theorem firstTest_run_twice : ∃ v u,
    firstTest.run firstSource = (.ok firstTarget, v) ∧
    v.disk.get? ["src", "new"] = some .folder ∧
    ¬Occupied firstSource firstTarget.file ∧ Occupied v firstTarget.file ∧
    firstTest.run v = (.ok firstTarget, u) ∧ u.disk = v.disk := by
  have fine : (firstTest.run firstSource).1.toOption = some firstTarget := by decide +kernel
  have first : firstTest.run firstSource = (.ok firstTarget, (firstTest.run firstSource).2) := by
    refine Prod.ext ?_ rfl
    cases hr : (firstTest.run firstSource).1 with
    | ok target =>
      rw [hr] at fine
      rw [Option.some.inj fine]
    | error e =>
      rw [hr] at fine
      cases fine
  obtain ⟨u, second, same⟩ := generate_again_keeps_disk (.ofString "src/m.ts")
    (Path.proper_ofString _) { folder := .text "new/../t" } (by decide) false none
    (fun _ => pure true) (Or.inr fun _ _ => ⟨rfl, rfl⟩) firstSource _ _ first
  refine ⟨_, u, first, ?_, ?_, ?_, second, same⟩
  · decide +kernel
  · unfold Occupied
    decide +kernel
  · unfold Occupied
    decide +kernel

end Generation

end Scaffold
