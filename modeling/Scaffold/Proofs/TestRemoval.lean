import Scaffold.Proofs.GenerationOrder

/-!
# Tests that are taken away

What is taken away from a disk is nowhere on the way to anything else, unless it is a folder. So a
test that has been taken away is written again by the generation that has written it, and everything
is as it was.
-/

namespace Scaffold

namespace Disk

variable {d : Disk} {cwd p : Path} {place here dest : List String}

/-- No path that is followed to its end gets below anything but a folder. -/
theorem follow_of_remove (hp : d.get? place ≠ some .folder) {names : List String}
    (hh : ¬place <+: here) (h : d.follow here names = .ok dest) :
    (d.remove place).follow here names = .ok dest ∧ (place <+: dest → dest = place) := by
  induction names generalizing here with
  | nil =>
    cases h
    exact ⟨rfl, fun below => absurd below hh⟩
  | cons name names ih =>
    have hf := get?_of_follow_cons h
    have still : (d.remove place).get? here = some .folder := by
      rw [get?_remove, if_neg hh, hf, ite_self]
    rw [follow, hf] at h
    rw [follow, still]
    by_cases below : place <+: (if name == ".." then here.dropLast else here ++ [name])
    · -- this step leads to the place itself, so it is the last one
      have there : (if name == ".." then here.dropLast else here ++ [name]) = place := by
        split at below
        · exact absurd (below.trans (List.dropLast_prefix here)) hh
        · rename_i down
          rw [if_neg down]
          exact ((List.prefix_concat_iff.mp below).resolve_right hh).symm
      dsimp only at h ⊢
      rw [there] at h ⊢
      cases names with
      | nil =>
        cases h
        exact ⟨rfl, fun _ => rfl⟩
      | cons next names => exact absurd (get?_of_follow_cons h) hp
    · exact ih below h

theorem locate_of_remove (hp : d.get? place ≠ some .folder) (h : d.locate cwd p = .ok dest) :
    (d.remove place).locate cwd p = .ok dest ∧ (place <+: dest → dest = place) := by
  refine follow_of_remove hp (fun top => hp ?_) h
  rw [List.prefix_nil.mp top]
  rfl

theorem entry?_of_remove {e : Entry} (hp : d.get? place ≠ some .folder)
    (h : d.entry? cwd p = some e) (hn : cwd.resolve p ≠ place) :
    Disk.entry? (d.remove place) cwd p = some e := by
  obtain ⟨hl, hg⟩ := entry?_eq_some_iff.mp h
  obtain ⟨located, apart⟩ := locate_of_remove hp hl
  refine entry?_eq_some_iff.mpr ⟨located, ?_⟩
  rw [get?_remove, if_neg fun below => hn (apart below)]
  split
  · rename_i top
    rw [← hg, top]
    rfl
  · exact hg

end Disk

namespace Generation

open Script
open Command (LeadsToFile)

variable {t : Task} {target : Target} {text : String} {w v x : World}

/-- The world without the test at the target. -/
def withoutTest (w : World) (target : Target) : World :=
  { w with disk := w.disk.remove (w.workingFolder.resolve target.file) }

theorem get?_withoutTest (hv : v.workingFolder = w.workingFolder) (place : List String) :
    (withoutTest v target).disk.get? place =
      if place = [] then some .folder
      else if w.workingFolder.resolve target.file <+: place then none else v.disk.get? place := by
  rw [withoutTest, hv]
  exact Disk.get?_remove _ _ _

/-- A task that has been carried out can be carried out when its test has gone. -/
theorem Ready.of_removed (h : Ready t target text w) (hv : v.workingFolder = w.workingFolder)
    (hp : Placed w.workingFolder target (Text.Utf8.encode text) w.disk v.disk)
    (hn : w.workingFolder.resolve target.file ≠ w.workingFolder.resolve t.source) :
    Ready t target text (withoutTest v target) := by
  obtain ⟨⟨language, hl⟩, aim, ⟨readable, old, hb⟩, rendered, ⟨named, -, -⟩, usable, -, apart, -⟩ := h
  have folder : (withoutTest v target).workingFolder = w.workingFolder := hv
  have disk : (withoutTest v target).disk =
      v.disk.remove (w.workingFolder.resolve target.file) := by rw [withoutTest, hv]
  have file := hp.get?_file
  have unfolded : v.disk.get? (w.workingFolder.resolve target.file) ≠ some .folder := by
    rw [file, Ne, Option.some.injEq]
    simp
  have gone : (withoutTest v target).disk.get? (w.workingFolder.resolve target.file) = none := by
    rw [get?_withoutTest hv, if_neg, if_pos List.prefix_rfl]
    intro top
    rw [top] at unfolded
    exact unfolded rfl
  have kept : (withoutTest v target).disk.entry? (withoutTest v target).workingFolder t.source =
      some (.file old) := by
    rw [disk, folder]
    exact Disk.entry?_of_remove unfolded (hp.entry?_eq_some hb hn) (Ne.symm hn)
  have found : LeadsToFile (withoutTest v target) t.source := ⟨readable, old, kept⟩
  rw [← folder] at aim
  refine ⟨⟨language, hl⟩, aim, found, rendered_of_found rendered kept hb,
    ⟨named, rooted_of_source hl aim found id, ?_⟩, usable, ?_, ?_, ?_⟩
  · intro place way bytes blocked
    rw [folder] at way
    rw [get?_withoutTest hv, hp.get?_way way] at blocked
    split at blocked
    · cases blocked
    · split at blocked <;> cases blocked
  · -- the path of the test still leads to where the test was
    obtain ⟨middle, -, written⟩ := hp
    obtain ⟨located, -⟩ := Disk.locate_of_remove unfolded (Disk.locate_of_write written)
    have below : target.file.names ≠ [] := by
      intro empty
      have start := rooted_file hl aim found
      rw [Disk.Rooted, ← empty, folder] at start
      cases gone.symm.trans (Disk.entry?_eq_some_iff.mp start).2
    intro q hq
    rw [disk, folder]
    exact Or.inl (Disk.folder_of_begins_parent located below hq)
  · rw [folder]
    exact apart
  · rw [folder, gone]
    simp

/-- A test that has been taken away is written again, and then all is as it was, but for what may
stand below a file, where no path leads. -/
theorem removed_test_is_restored (t : Task) (w v : World) (target : Target)
    (found : LeadsToFile w t.source) (h : t.script.run w = (.ok target, v))
    (hn : w.workingFolder.resolve target.file ≠ w.workingFolder.resolve t.source) :
    ∃ y, t.script.run (withoutTest v target) = (.ok target, y) ∧
      ∀ place, (w.workingFolder.resolve target.file <+: place →
          place = w.workingFolder.resolve target.file) →
        y.disk.get? place = v.disk.get? place := by
  have hv := workingFolder_of_run h
  obtain ⟨text, ready, placed⟩ := ready_of_run found h
  obtain ⟨y, ran, placed'⟩ := run_of_ready (ready.of_removed hv placed hn)
  change Placed v.workingFolder _ _ _ _ at placed'
  rw [hv] at placed'
  refine ⟨y, ran, fun place above => ?_⟩
  by_cases atTest : place = w.workingFolder.resolve target.file
  · rw [atTest, placed.get?_file, placed'.get?_file]
  by_cases way : OnTheWay target.folder w.workingFolder place
  · rw [placed.get?_way way, placed'.get?_way way]
  · rw [placed'.get?_other atTest way, get?_withoutTest hv, if_neg fun below => atTest (above below)]
    split
    · rename_i top
      rw [top]
      rfl
    · rfl

end Generation

end Scaffold
