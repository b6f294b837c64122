import Scaffold.Proofs.CommandStages

/-!
# Who may replace a file

A generation changes no file but the one at its target, and that one only when it is forced to or
when the callback, asked about the target in the same run, has agreed. For the command the callback
is the prompt, so that agreement is a first line of input that says yes.
-/

namespace Scaffold

open Script

namespace Generation

/-- Run with any callback at all, the program comes to the world `v` and there asks the callback
about the path. -/
def Consults {α : Type} (program : (Path → Script Bool) → Script α) (w : World) (p : Path)
    (v : World) : Prop :=
  ∃ rest : Bool → Script α, ∀ confirm, (program confirm).run w = (confirm p >>= rest).run v

theorem generate_consults {source : Path} {settings : Settings} {opens : Option Bool}
    {target : Target} {w v : World} (ha : (approach source settings).run w = (.ok target, v))
    (ho : Occupied v target.file) :
    Consults (generate source settings false opens) w target.file v := by
  refine ⟨fun answer => do
    settle target.file answer
    let text ← contents source target
    save target.file text
    finish settings opens target, fun confirm => ?_⟩
  rw [generate_eq]
  unfold compose
  simp only [LawfulMonad.bind_assoc, pure_bind]
  rw [run_bind_of_ok ha]
  exact (run_bind_congr (run_protect_of_occupied ho confirm) _).trans (by rw [LawfulMonad.bind_assoc])

section

variable {source : Path} {settings : Settings} {force : Bool} {opens : Option Bool}
  {confirm : Path → Script Bool} {w : World} {place : List String} {bytes : Bytes}

/-- A file that has changed was written over, and it was in the way before. -/
theorem write_of_changed (hc : ∀ p v, ((confirm p).run v).2.disk = v.disk)
    (hb : w.disk.get? place = some (.file bytes)) {outcome : Except Failure Target} {r : World}
    (hr : (generate source settings force opens confirm).run w = (outcome, r))
    (ha : r.disk.get? place ≠ some (.file bytes)) :
    ∃ target text v x u, (approach source settings).run w = (.ok target, v) ∧
      (permit force confirm target).run v = (.ok (), x) ∧
      (contents source target).run x = (.ok text, u) ∧
      r = { u with disk := r.disk, launches := r.launches, records := r.records } ∧
      r.disk.locate w.workingFolder target.file = .ok place ∧ Occupied v target.file := by
  obtain ⟨e, hv, -⟩ | ⟨target, text, u, hu, hw⟩ := generate_cases hr
  · exact absurd ((compose_grows hc hv).get?_of_some hb) ha
  · have kept := (compose_grows hc hu).get?_of_some hb
    obtain ⟨e, -, -, rfl⟩ | ⟨-, -, -, hp, hd, hr⟩ := hw
    · exact absurd kept ha
    · obtain ⟨hl, -, hg⟩ := Disk.write_eq_ok hd
      -- the write is the only step that changes a file, and it changes one place
      have here : place = w.workingFolder.resolve target.file := by
        by_cases he : place = w.workingFolder.resolve target.file
        · exact he
        · rw [hg, if_neg he] at ha
          exact absurd kept ha
      obtain ⟨v, x, hv, hx, ht⟩ := compose_eq_ok hu
      refine ⟨target, text, v, x, u, hv, hx, ht, hr, ?_, hp, ?_⟩
      · rw [here]
        exact Disk.locate_of_write hd
      · have hv' : v.workingFolder = w.workingFolder := by
          rw [← run_workingFolder (approach source settings) w, hv]
        have hd' : u.disk = v.disk := by
          have first := permit_disk hc force target v
          have second := (contents_looks source target).looks_disk x
          rw [hx] at first
          rw [ht] at second
          exact second.trans first
        have there : v.disk.entry? v.workingFolder target.file = some (.file bytes) := by
          rw [Disk.entry?_eq_some_iff, hv', ← hd', ← here]
          exact ⟨here ▸ hl, kept⟩
        rw [there]
        rfl

end

/-- Where the prompt was needed, it was answered with yes. -/
theorem permit_confirm_eq_ok {target : Target} {w v : World} (ho : Occupied w target.file)
    (h : (permit false confirm target).run w = (.ok (), v)) :
    Accepts w.input ∧ ∃ records, v = { w with
      input := (World.firstLine w.input).2, output := w.output ++ prompt target.file, records } := by
  change (protect target.file confirm).run w = _ at h
  rw [run_protect_of_occupied ho, run_bind_of_ok (run_confirm target.file w)] at h
  have ha : Accepts w.input := of_decide_eq_true (settle_eq_ok h)
  obtain ⟨records, hr⟩ := (settle_looks target.file (decide (Accepts w.input))).run_records
    { w with input := (World.firstLine w.input).2, output := w.output ++ prompt target.file }
  rw [h] at hr
  exact ⟨ha, records, hr⟩

end Generation

open Generation Command

/-- The same for a run with options, whose callback is the prompt: it was shown for the target, and
the first line of the input said yes. -/
theorem released_of_changed_by_execute {o : Options} (hm : o.mode = .write) {w : World}
    {place : List String} {bytes : Bytes} (hb : w.disk.get? place = some (.file bytes))
    (ha : ((execute o).run w).2.disk.get? place ≠ some (.file bytes)) :
    ∃ target, Aims w o target ∧
      ((execute o).run w).2.disk.locate w.workingFolder target.file = .ok place ∧
      (o.force = true ∨ Accepts w.input ∧
        ((execute o).run w).2.input = (World.firstLine w.input).2 ∧
        ((execute o).run w).2.output = w.output ++ prompt target.file) := by
  obtain hw | ⟨language, settings, v, outcome, r, -, hl, hs, hv, hg, after⟩ :=
    execute_write_agree hm w
  · rw [hw.disk] at ha
    exact absurd hb ha
  · rw [← hv.disk] at hb
    rw [after.disk] at ha
    obtain ⟨target, text, x, y, u, hx, hy, ht, hr, hd, ho⟩ :=
      write_of_changed confirm_disk hb hg ha
    obtain ⟨-, aim⟩ := approach_eq_ok hx
    obtain ⟨least, records, rfl⟩ := hv
    rw [← after.disk] at hd
    refine ⟨target, ⟨language, settings, hl, hs, aim⟩, hd, ?_⟩
    obtain ⟨_, _, last⟩ := after
    rw [hr] at last
    cases force : o.force with
    | true => exact Or.inl rfl
    | false =>
      rw [force] at hy
      -- up to the prompt and from there on, the input and the output stay as they are
      obtain ⟨accepted, _, hz⟩ := permit_confirm_eq_ok ho hy
      obtain ⟨_, hu⟩ := (contents_looks o.source target).run_records y
      obtain ⟨same, -⟩ := approach_grows hx
      rw [ht] at hu
      subst hz
      simp only at hu
      rw [same] at hu accepted
      subst hu
      exact Or.inr ⟨accepted, by rw [last], by rw [last]⟩

/-- If a file is not as it was before a generation or a run of the command, it is the one that the
target leads to, and the change was forced or agreed to. -/
theorem changed_file_was_released :
    (∀ (source : Path) (settings : Settings) (force : Bool) (opens : Option Bool)
      (confirm : Path → Script Bool) (w : World) (place : List String) (bytes : Bytes),
      (∀ p v, ((confirm p).run v).2.disk = v.disk) →
      w.disk.get? place = some (.file bytes) →
      ((generate source settings force opens confirm).run w).2.disk.get? place ≠
        some (.file bytes) →
      ∃ target, Target.ofSource w.workingFolder source settings = .ok target ∧
        ((generate source settings force opens confirm).run w).2.disk.locate w.workingFolder
          target.file = .ok place ∧
        (force = true ∨ ∃ v, Consults (generate source settings force opens) w target.file v ∧
          ((confirm target.file).run v).1 = .ok true)) ∧
    (∀ (arguments : List String) (w : World) (place : List String) (bytes : Bytes),
      w.disk.get? place = some (.file bytes) →
      ((Command.run arguments).run w).2.disk.get? place ≠ some (.file bytes) →
      ∃ o target, Options.parse arguments = .ok o ∧ o.mode = .write ∧ Aims w o target ∧
        ((Command.run arguments).run w).2.disk.locate w.workingFolder target.file = .ok place ∧
        (o.force = true ∨ Accepts w.input ∧
          ((Command.run arguments).run w).2.input = (World.firstLine w.input).2 ∧
          ((Command.run arguments).run w).2.output = w.output ++ prompt target.file)) := by
  constructor
  · intro source settings force opens confirm w place bytes hc hb ha
    obtain ⟨⟨outcome, r⟩, hr⟩ : ∃ result,
      (generate source settings force opens confirm).run w = result := ⟨_, rfl⟩
    rw [hr] at ha ⊢
    obtain ⟨target, text, v, x, u, hv, hx, -, -, hd, ho⟩ := write_of_changed hc hb hr ha
    obtain ⟨-, ht⟩ := approach_eq_ok hv
    refine ⟨target, ht, hd, ?_⟩
    rcases permit_eq_ok hx with hforce | hfree | ⟨-, agreed⟩
    · exact Or.inl hforce
    · exact absurd ho hfree
    · cases force with
      | true => exact Or.inl rfl
      | false => exact Or.inr ⟨v, generate_consults hv ho, agreed⟩
  · intro arguments w place bytes hb ha
    obtain ⟨o, hp, hr⟩ | ⟨-, hr⟩ := run_cases arguments w
    · rw [hr] at ha ⊢
      by_cases hm : o.mode = .write
      · obtain ⟨target, released⟩ := released_of_changed_by_execute hm hb ha
        exact ⟨o, target, hp, hm, released⟩
      · rw [execute_disk hm] at ha
        exact absurd hb ha
    · rw [hr] at ha
      exact absurd hb ha

/-- A source with a test of one byte, and a user who says yes. -/
def testedSource : World :=
  { disk := ⟨[(["m.ts"], .file []), (["__tests__"], .folder), (["__tests__", "m.spec.ts"], .file [1])]⟩
    input := ['y', '\n'] }

theorem testedSource_released :
    (∃ target, Target.ofSource testedSource.workingFolder (.ofString "m.ts") {} = .ok target ∧
      ∃ v, Consults (generate (.ofString "m.ts") {} false none) testedSource target.file v) ∧
    ∃ o target, Options.parse ["m.ts"] = .ok o ∧ Aims testedSource o target ∧
      (o.force = true ∨ Accepts testedSource.input) := by
  constructor
  · obtain ⟨target, ht, -, hf⟩ := changed_file_was_released.1 (.ofString "m.ts") {} false none
      (fun _ => pure true) testedSource ["__tests__", "m.spec.ts"] [1] (fun _ _ => rfl) rfl
      (by decide +kernel)
    obtain ⟨v, hv, -⟩ := hf.resolve_left Bool.false_ne_true
    exact ⟨target, ht, v, hv⟩
  · obtain ⟨o, target, hp, -, aims, -, hf⟩ := changed_file_was_released.2 ["m.ts"] testedSource
      ["__tests__", "m.spec.ts"] [1] rfl (by decide +kernel)
    exact ⟨o, target, hp, aims, hf.imp_right And.left⟩

end Scaffold
