import Scaffold.Proofs.CommandOutcome
import Scaffold.Proofs.FolderMaking

/-!
# Generations in either order

A generation that asks nobody and opens nothing succeeds exactly when it is ready: its source gives a
text, no file stands on the way to its folder, and the path of its test leads through folders that
are there or on that way. Where it succeeds it fills the way with folders and puts one file on the
disk. Two such generations with different tests, neither of which replaces the source of the other,
have the same effect in either order. What the second one needs can only come from the first one
where the name of its test leads through folders itself.
-/

namespace Scaffold

theorem Path.root_of_join {p q : Path} (h : (p.join q).root = .none) : p.root = .none := by
  unfold join isAbsolute at h
  split at h
  · rename_i absolute
    rw [h] at absolute
    cases absolute
  · exact h

theorem Target.folder_of_ofSource {cwd source : Path} {settings : Settings} {target : Target}
    (h : ofSource cwd source settings = .ok target) :
    ∃ text, target.folder = source.parent.join (.ofString text) := by
  unfold ofSource at h
  cases hf : folderFor source settings.folder with
  | error e => simp [hf, bind, Except.bind] at h
  | ok folder =>
    simp only [hf, bind, Except.bind, pure, Except.pure, Except.ok.injEq] at h
    have chosen := congrArg Target.folder h
    unfold folderFor at hf
    split at hf
    · rename_i text _
      cases hf
      exact ⟨text, chosen.symm⟩
    · cases hf

namespace Generation

open Script
open Command (LeadsToFile run_eq_of_toOption)

/-! ### What a generation does to the disk -/

/-- There are folders on the way to the folder of the target, and a file at the target. -/
def Placed (cwd : Path) (target : Target) (bytes : Bytes) (d d' : Disk) : Prop :=
  ∃ middle, d.Filled (OnTheWay target.folder cwd) middle ∧
    middle.write cwd target.file bytes = .ok d'

namespace Placed

variable {cwd : Path} {target : Target} {bytes : Bytes} {d d' : Disk} {place : List String}

theorem not_onTheWay (h : Placed cwd target bytes d d') :
    ¬OnTheWay target.folder cwd (cwd.resolve target.file) := by
  obtain ⟨middle, filled, written⟩ := h
  intro way
  exact (Disk.write_eq_ok written).2.1 (filled.2 _ way)

theorem get?_of_folder (h : Placed cwd target bytes d d') (hf : d.get? place = some .folder) :
    d'.get? place = some .folder := by
  obtain ⟨middle, filled, written⟩ := h
  exact Disk.get?_folder_of_write written (filled.1.get?_of_some hf)

theorem get?_file (h : Placed cwd target bytes d d') :
    d'.get? (cwd.resolve target.file) = some (.file bytes) := by
  obtain ⟨middle, -, written⟩ := h
  rw [(Disk.write_eq_ok written).2.2, if_pos rfl]

theorem get?_way (h : Placed cwd target bytes d d') (hw : OnTheWay target.folder cwd place) :
    d'.get? place = some .folder := by
  obtain ⟨middle, filled, written⟩ := h
  exact Disk.get?_folder_of_write written (filled.2 _ hw)

theorem get?_other (h : Placed cwd target bytes d d') (hf : place ≠ cwd.resolve target.file)
    (hw : ¬OnTheWay target.folder cwd place) : d'.get? place = d.get? place := by
  obtain ⟨middle, filled, written⟩ := h
  rw [(Disk.write_eq_ok written).2.2, if_neg hf, filled.get?_of_not hw]

theorem entry?_eq_some (h : Placed cwd target bytes d d') {p : Path} {e : Disk.Entry}
    (he : d.entry? cwd p = some e) (hp : cwd.resolve target.file ≠ cwd.resolve p) :
    d'.entry? cwd p = some e := by
  obtain ⟨middle, filled, written⟩ := h
  exact Disk.entry?_of_write written (filled.1.entry_eq_some he) (Ne.symm hp)

/-- A file may come to hold something else, but it stays a file. -/
theorem get?_of_file (h : Placed cwd target bytes d d') {old : Bytes}
    (hf : d.get? place = some (.file old)) : ∃ new, d'.get? place = some (.file new) := by
  by_cases hp : place = cwd.resolve target.file
  · rw [hp]
    exact ⟨bytes, h.get?_file⟩
  · refine ⟨old, ?_⟩
    rw [h.get?_other hp, hf]
    intro way
    obtain ⟨middle, filled, -⟩ := h
    exact free_of_filled filled way old hf

/-- Two targets at different places are placed with the same effect in either order. -/
theorem comm {other : Target} {others : Bytes} {between end₁ between' end₂ : Disk}
    (ha : Placed cwd target bytes d between) (hb : Placed cwd other others between end₁)
    (hb' : Placed cwd other others d between') (ha' : Placed cwd target bytes between' end₂)
    (hn : cwd.resolve target.file ≠ cwd.resolve other.file) (place : List String) :
    end₂.get? place = end₁.get? place := by
  by_cases atTarget : place = cwd.resolve target.file
  · have off : ¬OnTheWay other.folder cwd place := by
      intro way
      obtain ⟨middle, filled, -⟩ := hb
      exact free_of_filled filled way bytes (atTarget ▸ ha.get?_file)
    rw [hb.get?_other (atTarget ▸ hn) off, atTarget, ha.get?_file, ha'.get?_file]
  by_cases atOther : place = cwd.resolve other.file
  · have off : ¬OnTheWay target.folder cwd place := by
      intro way
      obtain ⟨middle, filled, written⟩ := hb
      have folder := filled.1.get?_of_some (ha.get?_way way)
      exact (Disk.write_eq_ok written).2.1 (atOther ▸ folder)
    rw [ha'.get?_other atTarget off, atOther, hb'.get?_file, hb.get?_file]
  by_cases way : OnTheWay target.folder cwd place
  · rw [ha'.get?_way way, hb.get?_of_folder (ha.get?_way way)]
  by_cases way' : OnTheWay other.folder cwd place
  · rw [ha'.get?_of_folder (hb'.get?_way way'), hb.get?_way way']
  rw [ha'.get?_other atTarget way, hb'.get?_other atOther way', hb.get?_other atOther way',
    ha.get?_other atTarget way]

end Placed

/-! ### Generations on their own -/

/-- Every folder that the path of a test leads through is there, or lies on the way to the folder
that is made for the test. -/
def Reachable (w : World) (target : Target) : Prop :=
  ∀ q : Path, q.Begins target.file.parent →
    w.disk.get? (w.workingFolder.resolve q) = some .folder ∨
      OnTheWay target.folder w.workingFolder (w.workingFolder.resolve q)

/-- A generation that replaces whatever stands at its target and opens nothing. -/
structure Task where
  source : Path
  settings : Settings
  opens : Option Bool := none
  confirm : Path → Script Bool := Generation.confirm
  unopened : opens.getD settings.opens.isTruthy = false := by rfl

def Task.script (t : Task) : Script Target :=
  generate t.source t.settings true t.opens t.confirm

theorem Task.script_eq (t : Task) :
    t.script = generate t.source t.settings true t.opens Generation.confirm :=
  rfl

/-- All that a task needs to be carried out. -/
structure Ready (t : Task) (target : Target) (text : String) (w : World) : Prop where
  known : ∃ language, Language.ofPath t.source = .ok language
  aim : Target.ofSource w.workingFolder t.source t.settings = .ok target
  found : LeadsToFile w t.source
  rendered : ((contents t.source target).run w).1 = .ok text
  clear : Clear w target.folder
  usable : isUsable target.file = true
  reachable : Reachable w target
  apart : ¬OnTheWay target.folder w.workingFolder (w.workingFolder.resolve target.file)
  unblocked : w.disk.get? (w.workingFolder.resolve target.file) ≠ some .folder

section

variable {t : Task} {target : Target} {text : String} {w v : World}

theorem rooted_of_source {source : Path} {settings : Settings} {language : Language}
    (hl : Language.ofPath source = .ok language)
    (ht : Target.ofSource w.workingFolder source settings = .ok target)
    (hs : LeadsToFile w source) {root : Path.Root}
    (hr : root = .none → target.folder.root = .none) : w.disk.Rooted w.workingFolder root := by
  cases root with
  | single => rfl
  | double => rfl
  | none =>
    obtain ⟨text, hf⟩ := Target.folder_of_ofSource ht
    have relative : source.parent.root = .none := Path.root_of_join (hf ▸ hr rfl)
    change source.root = .none at relative
    obtain ⟨name, names, hn⟩ : ∃ name names, source.names = name :: names := by
      refine List.exists_cons_of_ne_nil fun empty => ?_
      apply Language.splitName_ne_nil hl
      simp [Path.name, empty, Path.splitName]
    obtain ⟨-, bytes, hb⟩ := hs
    have split : source = ⟨(⟨.none, []⟩ : Path).root, (⟨.none, []⟩ : Path).names ++ name :: names⟩ := by
      rw [List.nil_append, ← hn, ← relative]
    rw [split] at hb
    exact Disk.folder_of_below (Option.isSome_of_eq_some hb)

theorem rooted_file {source : Path} {settings : Settings} {language : Language}
    (hl : Language.ofPath source = .ok language)
    (ht : Target.ofSource w.workingFolder source settings = .ok target)
    (hs : LeadsToFile w source) : w.disk.Rooted w.workingFolder target.file.root := by
  refine rooted_of_source hl ht hs fun root => ?_
  rw [Target.ofSource_eq_ok ht] at root
  exact Path.root_of_join root

theorem Reachable.locate {d : Disk} (h : Reachable w target)
    (hr : d.Rooted w.workingFolder target.file.root)
    (hd : w.disk.Filled (OnTheWay target.folder w.workingFolder) d) :
    d.locate w.workingFolder target.file = .ok (w.workingFolder.resolve target.file) := by
  cases hl : d.locate w.workingFolder target.file with
  | ok place => rw [Disk.locate_eq_resolve hl]
  | error f =>
    obtain ⟨q, hq, absent⟩ := Disk.locate_eq_error hr hl
    have folder : d.get? (w.workingFolder.resolve q) = some .folder := by
      rcases h q hq with there | way
      · exact hd.1.get?_of_some there
      · exact hd.2 _ way
    rcases absent with ⟨-, hn⟩ | ⟨-, bytes, hb⟩
    · cases folder.symm.trans hn
    · cases folder.symm.trans hb

theorem run_of_ready (h : Ready t target text w) :
    ∃ v, t.script.run w = (.ok target, v) ∧
      Placed w.workingFolder target (Text.Utf8.encode text) w.disk v.disk := by
  obtain ⟨language, hl⟩ := h.known
  obtain ⟨records, hr⟩ := run_approach hl h.aim
  have clear : Clear { w with records } target.folder := ⟨h.clear.usable, h.clear.rooted, h.clear.free⟩
  obtain ⟨x, ensured, same, filled⟩ := ensureFolder_of_clear clear
  have approached : (approach t.source t.settings).run w = (.ok target, x) :=
    hr.trans (run_bind_of_ok ensured _)
  have folder := workingFolder_of_run approached
  -- no file has changed, so the source still gives the text
  obtain ⟨-, bytes, hb⟩ := h.found
  have rendered := run_contents_of_grows hb filled.1 folder target
  rw [h.rendered] at rendered
  obtain ⟨y, composed, kept⟩ := contents_again rendered rfl rfl
  have located := h.reachable.locate
    (filled.1.entry_eq_some (rooted_file hl h.aim h.found)) filled
  have unblocked : x.disk.get? (w.workingFolder.resolve target.file) ≠ some .folder := by
    rw [filled.get?_of_not h.apart]
    exact h.unblocked
  have written := Disk.write_of_locate located unblocked (Text.Utf8.encode text)
  obtain ⟨d, hd⟩ : ∃ d, d = x.disk.put (w.workingFolder.resolve target.file)
    (.file (Text.Utf8.encode text)) := ⟨_, rfl⟩
  rw [← hd] at written
  have here : y.disk.write y.workingFolder target.file (Text.Utf8.encode text) = .ok d := by
    rw [kept, workingFolder_of_run composed, folder, written]
  obtain ⟨logged, saved⟩ := run_save h.usable here
  have forced : (compose t.source t.settings true t.confirm).run w = (.ok (target, text), y) :=
    (run_bind_of_ok approached _).trans ((run_bind_of_ok rfl _).trans (run_bind_of_ok composed _))
  have ran : t.script.run w = (.ok target, { y with disk := d, records := logged }) := by
    rw [Task.script, generate_eq, run_bind_of_ok forced]
    refine (run_bind_of_ok saved _).trans ?_
    rw [finish, t.unopened]
    rfl
  exact ⟨_, ran, x.disk, filled, written⟩

theorem ready_of_run (hs : LeadsToFile w t.source) (h : t.script.run w = (.ok target, v)) :
    ∃ text, Ready t target text w ∧
      Placed w.workingFolder target (Text.Utf8.encode text) w.disk v.disk := by
  rw [t.script_eq] at h
  obtain ⟨e, -, ho⟩ | ⟨aim, text, u, composed, saved⟩ := generate_cases h
  · cases ho
  obtain ⟨e, -, ho, -⟩ | ⟨x, -, finished, usable, written, -⟩ := saved
  · cases ho
  obtain rfl := finish_eq_ok finished
  obtain ⟨a, -, approached, -, -⟩ := compose_eq_ok composed
  obtain ⟨⟨language, hl⟩, ht⟩ := approach_eq_ok approached
  obtain ⟨bytes, hb⟩ := hs.2
  have rendered := (compose_rendered confirm_disk hb composed).2
  obtain ⟨⟨named, folder⟩, -, -⟩ := compose_leaves (Or.inl rfl) composed
  rw [workingFolder_of_run composed] at folder
  have grown := (compose_grows confirm_disk composed).mono (onTheWay_of_target ht)
  have filled := filled_of_folder grown folder
  have placed : Placed w.workingFolder target (Text.Utf8.encode text) w.disk v.disk :=
    ⟨u.disk, filled, written⟩
  obtain ⟨located, unblocked, -⟩ := Disk.write_eq_ok written
  have rooted : w.disk.Rooted w.workingFolder target.folder.root := rooted_of_source hl ht hs id
  refine ⟨text, ⟨⟨language, hl⟩, ht, hs, rendered, ⟨named, rooted, ?_⟩, usable, ?_,
    placed.not_onTheWay, ?_⟩, placed⟩
  · intro place way bytes
    exact free_of_filled filled way bytes
  · intro q hq
    have below : target.file.names ≠ [] := by
      intro empty
      have start := grown.entry_eq_some (rooted_file hl ht hs)
      rw [← empty] at start
      exact unblocked (Disk.entry?_eq_some_iff.mp start).2
    rcases grown (w.workingFolder.resolve q) with kept | ⟨-, -, way⟩
    · exact Or.inl (kept ▸ Disk.folder_of_begins_parent located below hq)
    · exact Or.inr way
  · intro blocked
    exact unblocked (grown.get?_of_some blocked)

end

/-! ### One after the other -/

section

variable {t : Task} {target other : Target} {text : String} {bytes : Bytes} {w v : World}

theorem rendered_of_found (hr : ((contents t.source target).run v).1 = .ok text)
    (hw : w.disk.entry? w.workingFolder t.source = some (.file bytes))
    (hv : v.disk.entry? v.workingFolder t.source = some (.file bytes)) :
    ((contents t.source target).run w).1 = .ok text := by
  rw [← hr]
  apply (contents_readsAt t.source target).readsAt_congr
  rw [Disk.read_eq_ok_iff.mpr hw, Disk.read_eq_ok_iff.mpr hv]

/-- A task that is ready after another one has been ready before, but for the folders that the path
of its test leads through. -/
theorem Ready.before (h : Ready t target text v) (hv : v.workingFolder = w.workingFolder)
    (hp : Placed w.workingFolder other bytes w.disk v.disk) (hs : LeadsToFile w t.source)
    (ho : w.workingFolder.resolve other.file ≠ w.workingFolder.resolve t.source)
    (hr : Reachable w target) : Ready t target text w := by
  obtain ⟨⟨language, hl⟩, aim, -, rendered, ⟨named, -, free⟩, usable, -, apart, unblocked⟩ := h
  rw [hv] at aim free apart unblocked
  obtain ⟨old, hb⟩ := hs.2
  have rooted : w.disk.Rooted w.workingFolder target.folder.root := rooted_of_source hl aim hs id
  refine ⟨⟨language, hl⟩, aim, hs, ?_, ⟨named, rooted, ?_⟩, usable, hr, apart, ?_⟩
  · exact rendered_of_found rendered hb (hv ▸ hp.entry?_eq_some hb ho)
  · intro place way content hf
    obtain ⟨new, blocked⟩ := hp.get?_of_file hf
    exact free place way new blocked
  · intro folder
    exact unblocked (hp.get?_of_folder folder)

theorem Ready.after (h : Ready t target text w) (hv : v.workingFolder = w.workingFolder)
    (hp : Placed w.workingFolder other bytes w.disk v.disk)
    (ho : w.workingFolder.resolve other.file ≠ w.workingFolder.resolve t.source)
    (hn : w.workingFolder.resolve target.file ≠ w.workingFolder.resolve other.file)
    (hf : ¬OnTheWay target.folder w.workingFolder (w.workingFolder.resolve other.file))
    (hw : ¬OnTheWay other.folder w.workingFolder (w.workingFolder.resolve target.file)) :
    Ready t target text v := by
  obtain ⟨⟨language, hl⟩, aim, ⟨readable, old, hb⟩, rendered, ⟨named, -, free⟩, usable, reachable,
    apart, unblocked⟩ := h
  have kept : v.disk.entry? v.workingFolder t.source = some (.file old) :=
    hv ▸ hp.entry?_eq_some hb ho
  have found : LeadsToFile v t.source := ⟨readable, old, kept⟩
  rw [← hv] at aim
  have rooted : v.disk.Rooted v.workingFolder target.folder.root :=
    rooted_of_source hl aim found id
  refine ⟨⟨language, hl⟩, aim, found, rendered_of_found rendered kept hb, ⟨named, rooted, ?_⟩,
    usable, ?_, ?_, ?_⟩
  · intro place way content blocked
    rw [hv] at way
    by_cases off : OnTheWay other.folder w.workingFolder place
    · cases (hp.get?_way off).symm.trans blocked
    · rw [hp.get?_other (fun same => hf (same ▸ way)) off] at blocked
      exact free place way content blocked
  · intro q hq
    rw [hv]
    exact (reachable q hq).imp_left hp.get?_of_folder
  · rw [hv]
    exact apart
  · rw [hv, hp.get?_other hn hw]
    exact unblocked

theorem reachable_of_no_slash {source : Path} {settings : Settings} {language : Language}
    (hp : source.Proper) (hl : Language.ofPath source = .ok language)
    (ht : Target.ofSource w.workingFolder source settings = .ok target)
    (hs : '/' ∉ settings.suffix.format.toList) : Reachable w target := by
  have single := Target.ofString_fileName hp hl hs
  have parent : target.file.parent = target.folder := by
    rw [Target.ofSource_eq_ok ht, single, Path.join_relative rfl, Path.parent]
    simp
  intro q hq
  rw [parent] at hq
  exact Or.inr ⟨q, hq, rfl⟩

end

/-- Two generations that are forced and open nothing, of sources that are there, with different
tests of which neither replaces the source of the other. If the one and then the other succeed, they
do so the other way round, with the same targets and the same disk in the end, exactly unless the
path of the second test leads through a folder that is missing at the start and is not on the way to
the folder of that test. With a suffix that has no slash, no path does. -/
theorem tasks_in_either_order (a b : Task) (w v u : World) (target other : Target)
    (fa : LeadsToFile w a.source) (fb : LeadsToFile w b.source)
    (ra : a.script.run w = (.ok target, v)) (rb : b.script.run v = (.ok other, u))
    (hn : w.workingFolder.resolve target.file ≠ w.workingFolder.resolve other.file)
    (hab : w.workingFolder.resolve target.file ≠ w.workingFolder.resolve b.source)
    (hba : w.workingFolder.resolve other.file ≠ w.workingFolder.resolve a.source) :
    (Reachable w other → ∃ x y, b.script.run w = (.ok other, x) ∧ a.script.run x = (.ok target, y) ∧
      ∀ place, y.disk.get? place = u.disk.get? place) ∧
    (¬Reachable w other → ∀ result x, b.script.run w ≠ (.ok result, x)) ∧
    (b.source.Proper → '/' ∉ b.settings.suffix.format.toList → Reachable w other) := by
  have hv := workingFolder_of_run ra
  obtain ⟨text, readyA, placedA⟩ := ready_of_run fa ra
  obtain ⟨old, there⟩ := fb.2
  have found : LeadsToFile v b.source := ⟨fb.1, old, hv ▸ placedA.entry?_eq_some there hab⟩
  obtain ⟨text', readyB, placedB⟩ := ready_of_run found rb
  rw [hv] at placedB
  have aim := readyB.aim
  rw [hv] at aim
  refine ⟨fun reachable => ?_, fun missing result x ran => ?_, fun hb plain => ?_⟩
  · obtain ⟨x, first, placedB'⟩ := run_of_ready (readyB.before hv placedA fb hab reachable)
    have hx := workingFolder_of_run first
    -- the file of the one is not on the way of the other, or the two could not have been carried out
    have offA : ¬OnTheWay target.folder w.workingFolder (w.workingFolder.resolve other.file) := by
      intro way
      have blocked := readyB.unblocked
      rw [hv] at blocked
      exact blocked (placedA.get?_way way)
    have offB : ¬OnTheWay other.folder w.workingFolder (w.workingFolder.resolve target.file) := by
      intro way
      rw [← hv] at way
      exact readyB.clear.free _ way _ (hv ▸ placedA.get?_file)
    obtain ⟨y, second, placedA'⟩ := run_of_ready (readyA.after hx placedB' hba hn offA offB)
    rw [hx] at placedA'
    exact ⟨x, y, first, second, placedA.comm placedB placedB' placedA' hn⟩
  · obtain ⟨_, ready, -⟩ := ready_of_run fb ran
    cases ready.aim.symm.trans aim
    exact missing ready.reachable
  · obtain ⟨language, hl⟩ := readyB.known
    exact reachable_of_no_slash hb hl aim plain

/-- Two sources in one folder. -/
def twoSources : World :=
  { disk := ⟨[(["src"], .folder), (["src", "a.ts"], .file []), (["src", "b.ts"], .file [])]⟩ }

/-- Both ways lead through one folder that is new, the first one only to leave it again. -/
def passing : Task :=
  { source := .ofString "src/a.ts", settings := { folder := .text "new/../t" } }

def staying : Task :=
  { source := .ofString "src/b.ts", settings := { folder := .text "new/t" } }

theorem passing_and_staying_swapped : ∃ target other v u x y,
    passing.script.run twoSources = (.ok target, v) ∧ staying.script.run v = (.ok other, u) ∧
      staying.script.run twoSources = (.ok other, x) ∧ passing.script.run x = (.ok target, y) ∧
      (∀ place, y.disk.get? place = u.disk.get? place) ∧
      twoSources.disk.get? ["src", "new"] = none ∧ y.disk.get? ["src", "new"] = some .folder := by
  have first : passing.script.run twoSources = (.ok ⟨"a", "../a", .ofString "src/new/../t",
      .ofString "src/new/../t/a.spec.ts"⟩, (passing.script.run twoSources).2) :=
    run_eq_of_toOption (by decide +kernel)
  have second : staying.script.run (passing.script.run twoSources).2 =
      (.ok ⟨"b", "../../b", .ofString "src/new/t", .ofString "src/new/t/b.spec.ts"⟩,
        (staying.script.run (passing.script.run twoSources).2).2) :=
    run_eq_of_toOption (by decide +kernel)
  obtain ⟨swapped, -, reachable⟩ := tasks_in_either_order passing staying twoSources _ _ _ _
    ⟨by decide +kernel, [], by decide +kernel⟩ ⟨by decide +kernel, [], by decide +kernel⟩ first
    second (by decide +kernel) (by decide +kernel) (by decide +kernel)
  obtain ⟨x, y, hx, hy, same⟩ := swapped (reachable (Path.proper_ofString _) (by decide))
  refine ⟨_, _, _, _, x, y, first, second, hx, hy, same, rfl, ?_⟩
  rw [same]
  decide +kernel

/-- The name of the second test leads through the folder of the first. -/
def hosting : Task :=
  { source := .ofString "src/a.ts", settings := { folder := .text "t/b.x" } }

def visiting : Task :=
  { source := .ofString "src/b.ts", settings := { folder := .text "t", suffix := .text "x/y" } }

theorem visiting_needs_hosting : ∃ target other v u,
    LeadsToFile twoSources hosting.source ∧ LeadsToFile twoSources visiting.source ∧
      hosting.script.run twoSources = (.ok target, v) ∧ visiting.script.run v = (.ok other, u) ∧
      twoSources.workingFolder.resolve target.file ≠ twoSources.workingFolder.resolve other.file ∧
      twoSources.workingFolder.resolve target.file ≠
        twoSources.workingFolder.resolve visiting.source ∧
      twoSources.workingFolder.resolve other.file ≠
        twoSources.workingFolder.resolve hosting.source ∧
      ∀ result x, visiting.script.run twoSources ≠ (.ok result, x) := by
  have first : hosting.script.run twoSources = (.ok ⟨"a", "../../a", .ofString "src/t/b.x",
      .ofString "src/t/b.x/a.spec.ts"⟩, (hosting.script.run twoSources).2) :=
    run_eq_of_toOption (by decide +kernel)
  have second : visiting.script.run (hosting.script.run twoSources).2 =
      (.ok ⟨"b", "../b", .ofString "src/t", .ofString "src/t/b.x/y.ts"⟩,
        (visiting.script.run (hosting.script.run twoSources).2).2) :=
    run_eq_of_toOption (by decide +kernel)
  have alone : (visiting.script.run twoSources).1.toOption = none := by decide +kernel
  refine ⟨_, _, _, _, ⟨by decide +kernel, [], by decide +kernel⟩,
    ⟨by decide +kernel, [], by decide +kernel⟩, first, second, by decide +kernel,
    by decide +kernel, by decide +kernel, ?_⟩
  intro result x ran
  rw [ran] at alone
  cases alone

end Generation

end Scaffold
