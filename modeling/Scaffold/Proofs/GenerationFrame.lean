import Scaffold.Proofs.GenerationStages

/-!
# What a generation leaves as it was

However a generation ends, a place of the disk is as it was before, or it holds a new folder on the
way to the target's folder, or it is where the target leads and holds the whole text. What has been
done depends on the stage that was reached: up to the write there are new folders at most, and from
the write on the file is there.
-/

namespace Scaffold.Generation

open Script

/-- The same files hold the same bytes. -/
def SameFiles (d d' : Disk) : Prop :=
  ∀ place bytes, d'.get? place = some (.file bytes) ↔ d.get? place = some (.file bytes)

/-- However a generation ends, every place is as before, or a new folder on the way to the target's
folder, or the place of the target with the whole text that was rendered. If it ends before or at
the write then all files are as before; if it gets past the write then the whole file is there,
whatever becomes of the editor. -/
theorem generate_frame (source : Path) (settings : Settings) (force : Bool) (opens : Option Bool)
    (confirm : Path → Script Bool) (hc : ∀ p v, ((confirm p).run v).2.disk = v.disk) (w v : World)
    (outcome : Except Failure Target)
    (hr : (generate source settings force opens confirm).run w = (outcome, v)) :
    (∀ place, v.disk.get? place = w.disk.get? place ∨
      w.disk.get? place = none ∧ v.disk.get? place = some .folder ∧
        OnTheWayToTarget source settings w.workingFolder place ∨
      ∃ target text x u, Target.ofSource w.workingFolder source settings = .ok target ∧
        (compose source settings force confirm).run w = (.ok (target, text), u) ∧
        (contents source target).run x = (.ok text, u) ∧
        v.disk.locate w.workingFolder target.file = .ok place ∧
        v.disk.get? place = some (.file (Text.Utf8.encode text))) ∧
    ((∃ e, (compose source settings force confirm).run w = (.error e, v) ∧ outcome = .error e ∧
        SameFiles w.disk v.disk) ∨
      ∃ target text u, (compose source settings force confirm).run w = (.ok (target, text), u) ∧
        ((∃ e, (save target.file text).run u = (.error e, v) ∧ outcome = .error e ∧
            SameFiles w.disk v.disk) ∨
          ∃ x, (save target.file text).run u = (.ok (), x) ∧
            (finish settings opens target).run x = (outcome, v) ∧
            v.disk.entry? w.workingFolder target.file =
              some (.file (Text.Utf8.encode text)))) := by
  obtain ⟨e, hv, ho⟩ | ⟨target, text, u, hu, hw⟩ := generate_cases hr
  · have grown := compose_grows hc hv
    exact ⟨fun place => (grown place).imp_right Or.inl, Or.inl ⟨e, hv, ho, grown.get?_file_iff⟩⟩
  · have grown := compose_grows hc hu
    obtain ⟨e, hs, ho, rfl⟩ | ⟨x, hs, hx, -, hd, -⟩ := hw
    · exact ⟨fun place => (grown place).imp_right Or.inl,
        Or.inr ⟨target, text, _, hu, Or.inl ⟨e, hs, ho, grown.get?_file_iff⟩⟩⟩
    · have hl := Disk.locate_of_write hd
      obtain ⟨-, -, hg⟩ := Disk.write_eq_ok hd
      have here : v.disk.get? (w.workingFolder.resolve target.file) =
          some (.file (Text.Utf8.encode text)) := by
        rw [hg, if_pos rfl]
      refine ⟨fun place => ?_, Or.inr ⟨target, text, u, hu, Or.inr ⟨x, hs, hx, ?_⟩⟩⟩
      · by_cases hp : place = w.workingFolder.resolve target.file
        · obtain ⟨y, z, hy, -, hz⟩ := compose_eq_ok hu
          rw [hp]
          exact Or.inr (Or.inr ⟨target, text, z, u, (approach_eq_ok hy).2, hu, hz, hl, here⟩)
        · rw [hg, if_neg hp]
          exact (grown place).imp_right Or.inl
      · exact Disk.entry?_eq_some_iff.mpr ⟨hl, here⟩

/-- A source on its own, and no way to launch an editor. -/
def loneSource : World :=
  { disk := ⟨[(["m.ts"], .file [])]⟩, launchFault := some "no such command" }

theorem loneSource_written : ∃ target text,
    Target.ofSource loneSource.workingFolder (.ofString "m.ts") { editor := .text "vi" } =
        .ok target ∧
      ((generate (.ofString "m.ts") { editor := .text "vi" } false (some true) fun _ =>
        pure true).run loneSource).2.disk.get? ["__tests__", "m.spec.ts"] =
        some (.file (Text.Utf8.encode text)) := by
  obtain ⟨frame, -⟩ := generate_frame (.ofString "m.ts") { editor := .text "vi" } false (some true)
    (fun _ => pure true) (fun _ _ => rfl) loneSource _ _ rfl
  rcases frame ["__tests__", "m.spec.ts"] with
    kept | ⟨-, folder, -⟩ | ⟨target, text, -, -, ht, -, -, -, hf⟩
  · exact absurd kept (by decide +kernel)
  · exact absurd folder (by decide +kernel)
  · exact ⟨target, text, ht, hf⟩

/-- A target that leads back over the folders made for it. -/
def windingSettings : Settings :=
  { folder := .text "new.ts/../old", suffix := .text "/../../new" }

def windingSource : World :=
  { disk := ⟨[(["proj"], .folder), (["proj", "m.ts"], .file []), (["proj", "old"], .folder),
      (["proj", "old", "m."], .folder)]⟩
    workingFolder := ⟨.single, ["proj"]⟩ }

/-- The place of a target need not stay as it was or hold a file: one of the new folders can come to
stand there, and then nothing is written. -/
theorem windingSource_target_is_folder : ∃ target,
    Target.ofSource windingSource.workingFolder (.ofString "m.ts") windingSettings = .ok target ∧
      windingSource.disk.entry? windingSource.workingFolder target.file = none ∧
      ((generate (.ofString "m.ts") windingSettings false none fun _ =>
        pure true).run windingSource).2.disk.entry? windingSource.workingFolder target.file =
        some .folder := by
  refine ⟨_, rfl, ?_, ?_⟩
  · decide +kernel
  · decide +kernel

end Scaffold.Generation
