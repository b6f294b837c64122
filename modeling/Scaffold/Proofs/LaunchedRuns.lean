import Scaffold.Proofs.CommandOutcome
import Scaffold.Proofs.Launches

/-!
# When a run launches an editor

Nothing is launched up to the write of a test, and nothing once the editor is done. So a run
launches one command at most, and what is on the disk at that moment is what the write has left.
-/

namespace Scaffold

namespace Script

variable {α β : Type} {s : Script α}

theorem Still.of_run (h : ∀ w, (s.run w).2.launches = w.launches) : s.Still :=
  fun w => launches_eq_nil (h w)

theorem Still.bind {f : α → Script β} (hs : s.Still) (hf : ∀ a, (f a).Still) : (s >>= f).Still :=
  fun w => (launches_bind_of_still hf w).trans (hs w)

theorem launches_rescue_of_still {handler : Failure → Script α} (hh : ∀ e, (handler e).Still)
    (w : World) : (s.rescue handler).launches w = s.launches w := by
  rw [launches, moments_rescue, List.filterMap_append]
  cases hs : s.run w with
  | mk outcome v =>
    cases outcome with
    | ok a => exact List.append_nil _
    | error e =>
      change s.launches w ++ (handler e).launches v = s.launches w
      rw [hh, List.append_nil]

theorem still_of_looks {possible : Failure → Prop} (h : s.Only Looks possible) : s.Still :=
  (h.mono discreet_of_looks fun _ he => he).still

end Script

open Script

/-! ### Up to the write -/

namespace Generation

theorem approach_still (source : Path) (settings : Settings) : (approach source settings).Still := by
  refine .of_run fun w => ?_
  obtain ⟨⟨outcome, v⟩, hv⟩ : ∃ result, (approach source settings).run w = result := ⟨_, rfl⟩
  have same := (approach_grows hv).1
  rw [hv, same]

theorem permit_still (force : Bool) (target : Target) : (permit force confirm target).Still := by
  refine .of_run fun w => ?_
  cases force with
  | true => rfl
  | false =>
    change ((protect target.file confirm).run w).2.launches = _
    by_cases ho : Occupied w target.file
    · obtain ⟨records, hr⟩ := (settle_looks target.file (decide (Accepts w.input))).run_records
        { w with input := (World.firstLine w.input).2, output := w.output ++ prompt target.file }
      rw [run_protect_of_occupied ho, run_bind_of_ok (run_confirm target.file w), hr]
    · rw [run_protect_of_free ho]

theorem compose_still (source : Path) (settings : Settings) (force : Bool) :
    (compose source settings force confirm).Still :=
  (approach_still source settings).bind fun target =>
    (permit_still force target).bind fun _ =>
      (still_of_looks (contents_looks source target)).bind fun _ _ => rfl

theorem save_still (p : Path) (text : String) : (save p text).Still := by
  refine .of_run fun w => ?_
  obtain ⟨e, he⟩ | ⟨d, records, -, -, hr⟩ := save_cases p text w
  · rw [he]
  · rw [hr]

theorem launches_finish (settings : Settings) (opens : Option Bool) (target : Target) (w : World) :
    (finish settings opens target).launches w =
      if opens.getD settings.opens.isTruthy then
        (Editor.display target.file settings.editor).launches w
      else [] := by
  unfold finish
  split
  · exact launches_bind_of_still (fun _ _ => rfl) w
  · rfl

end Generation

namespace Command

open Generation

variable {o : Options} {language : Language} {settings : Settings} {target : Target} {w x : World}

/-- All of a run in write mode that comes before the editor. -/
def delivery (o : Options) (language : Language) : Script (Settings × Target) := do
  let settings ← Configuration.load o.source language o.config.join
  let (target, text) ← compose o.source settings o.force confirm
  save target.file text
  return (settings, target)

theorem work_delivery (h : o.mode = .write) (language : Language) :
    work o language = (do
      let (settings, target) ← delivery o language
      some <$> finish settings (if o.opens then some true else none) target) := by
  rw [work_generate h]
  unfold delivery
  simp only [generate_eq, map_eq_pure_bind, LawfulMonad.bind_assoc, pure_bind]

theorem delivery_still (o : Options) (language : Language) : (delivery o language).Still :=
  (still_of_looks (Configuration.load_looks o.source language o.config.join)).bind fun settings =>
    (compose_still o.source settings o.force).bind fun made =>
      (save_still made.1.file made.2).bind fun _ _ => rfl

/-- These are the settings that the run has. -/
def Configured (w : World) (o : Options) (settings : Settings) : Prop :=
  ∃ language, Language.ofPath o.source = .ok language ∧
    ((Configuration.load o.source language o.config.join).run w).1 = .ok settings

/-- Something is at the target once its folder is there, and the user does not agree to replace
it. -/
def Declined (w : World) (o : Options) (settings : Settings) : Prop :=
  o.force = false ∧ ¬Accepts w.input ∧
    ∃ target v, (approach o.source settings).run w = (.ok target, v) ∧ Occupied v target.file

theorem Agree.symm {v : World} (h : Agree w v) : Agree v w := by
  obtain ⟨_, _, rfl⟩ := h
  exact ⟨w.least, w.records, rfl⟩

theorem Agree.run_eq {α : Type} {s : Script α} {outcome : Except Failure α} {v : World}
    (h : Agree w v) (hx : s.run v = (outcome, x)) : ∃ y, s.run w = (outcome, y) ∧ Agree y x := by
  obtain ⟨same, after⟩ := h.run s
  rw [hx] at same after
  exact ⟨(s.run w).2, Prod.ext same.symm rfl, after⟩

theorem Declined.of_agree {v : World} (hv : Agree w v) (h : Declined w o settings) :
    Declined v o settings := by
  obtain ⟨hn, ha, target, y, hy, ho⟩ := h
  obtain ⟨z, hz, after⟩ := hv.symm.run_eq hy
  have input : v.input = w.input := by
    obtain ⟨_, _, rfl⟩ := hv
    rfl
  refine ⟨hn, input ▸ ha, target, z, hz, ?_⟩
  unfold Occupied at ho ⊢
  rwa [after.disk, after.workingFolder] at ho

theorem not_declined_of_compose {text : String} {u : World}
    (h : (compose o.source settings o.force confirm).run w = (.ok (target, text), u)) :
    ¬Declined w o settings := by
  rintro ⟨hn, ha, other, v, hv, ho⟩
  obtain ⟨v', y, hv', hy, -⟩ := compose_eq_ok h
  cases hv.symm.trans hv'
  obtain ⟨same, -⟩ := approach_grows hv
  rw [hn] at hy
  obtain forced | free | ⟨-, agreed⟩ := permit_eq_ok hy
  · cases forced
  · exact free ho
  · rw [run_confirm, same] at agreed
    exact ha (of_decide_eq_true (Except.ok.inj agreed))

theorem delivery_eq_ok (hf : LeadsToFile w o.source)
    (h : (delivery o language).run w = (.ok (settings, target), x)) :
    ((Configuration.load o.source language o.config.join).run w).1 = .ok settings ∧
      Target.ofSource w.workingFolder o.source settings = .ok target ∧
      ¬Declined w o settings ∧
      ∃ text, ((contents o.source target).run w).1 = .ok text ∧
        x.disk.entry? w.workingFolder target.file = some (.file (Text.Utf8.encode text)) := by
  obtain ⟨loaded, v, hs, h⟩ := run_bind_eq_ok h
  obtain ⟨⟨aim, text⟩, u, hu, h⟩ := run_bind_eq_ok h
  obtain ⟨⟨⟩, y, hy, h⟩ := run_bind_eq_ok h
  cases h
  -- loading leaves nothing but records, so the rest is as it would be at the start
  have hv := Agree.of_looks (Configuration.load_looks o.source language o.config.join) (.refl w)
  rw [hs] at hv
  obtain ⟨-, bytes, hb⟩ := hf
  rw [← hv.disk, ← hv.workingFolder] at hb
  obtain ⟨ht, rendered⟩ := compose_rendered confirm_disk hb hu
  rw [hv.workingFolder] at ht
  rw [(hv.run (contents o.source target)).1] at rendered
  have folder : u.workingFolder = w.workingFolder := by
    rw [← hv.workingFolder, ← run_workingFolder (compose o.source settings o.force confirm) v, hu]
  obtain ⟨e, he⟩ | ⟨d, records, -, hd, hx⟩ := save_cases target.file text u
  · cases hy.symm.trans he
  · cases hy.symm.trans hx
    rw [folder] at hd
    obtain ⟨-, -, hg⟩ := Disk.write_eq_ok hd
    refine ⟨by rw [hs], ht, fun hn => not_declined_of_compose hu (hn.of_agree hv), text, rendered, ?_⟩
    rw [Disk.entry?_eq_some_iff, hg, if_pos rfl]
    exact ⟨Disk.locate_of_write hd, rfl⟩

/-! ### The run -/

theorem launches_attempt (s : Script (Option Target)) (w : World) :
    ((s.bind conclude).rescue report).launches w = s.launches w :=
  (launches_rescue_of_still (fun e => still_of_looks (report_looks e)) w).trans
    (launches_bind_of_still (fun result => still_of_looks (conclude_looks result)) w)

theorem launches_execute (hf : LeadsToFile w o.source)
    (hl : Language.ofPath o.source = .ok language) :
    (execute o).launches w = (work o language).launches (started o language w) := by
  have hk : (request (.keepFrom (level o))).run w = (.ok (), { w with least := some (level o) }) :=
    rfl
  have there : LeadsToFile { w with least := some (level o) } o.source := hf
  refine (launches_bind_of_quiet hk rfl _).trans
    ((launches_bind_of_quiet (run_isFile_of_file there) rfl _).trans ?_)
  rw [hl]
  have logged : (log .debug .command s!"Language: {language.name}").run
      { w with least := some (level o) } = (.ok (), started o language w) := rfl
  obtain ⟨_, same, -⟩ := started_eq o language w
  exact (launches_bind_of_quiet logged (by rw [same]) _).trans (launches_attempt _ _)

theorem environment_of_started {α : Type} {s : Script α} {outcome : Except Failure α}
    (h : s.run (started o language w) = (outcome, x)) : x.environment = w.environment := by
  obtain ⟨_, same, -⟩ := started_eq o language w
  have kept := run_environment s (started o language w)
  rwa [h, same] at kept

/-- A run in write mode launches what the editor does, in the world that the write has left. -/
theorem launches_execute_of_delivery (hm : o.mode = .write) (hf : LeadsToFile w o.source)
    (hl : Language.ofPath o.source = .ok language)
    (hx : (delivery o language).run (started o language w) = (.ok (settings, target), x)) :
    (execute o).launches w =
      if o.opens ∨ settings.opens.isTruthy then
        (Editor.display target.file settings.editor).launches x
      else [] := by
  have quiet := delivery_still o language (started o language w)
  rw [launches_execute hf hl, work_delivery hm, launches_bind_of_ok hx, quiet, List.nil_append]
  dsimp only
  rw [map_eq_pure_bind, launches_bind_of_still fun _ _ => rfl, launches_finish]
  cases o.opens <;> simp

theorem execute_launched {words : List String} (h : (x, words) ∈ (execute o).launches w) :
    (execute o).launches w = [(x, words)] ∧ o.mode = .write ∧ LeadsToFile w o.source ∧
      ∃ language settings target y command parts, Language.ofPath o.source = .ok language ∧
        (delivery o language).run w = (.ok (settings, target), y) ∧ Agree y x ∧
        (o.opens ∨ settings.opens.isTruthy) ∧
        Editor.given w.environment settings.editor = some (.text command) ∧
        ShellWords.ofString command = .ok parts ∧ words = parts ++ [target.file.toString] := by
  have launched : (execute o).launches w ≠ [] := List.ne_nil_of_mem h
  have hm : o.mode = .write :=
    Classical.byContradiction fun hm => launched ((execute_discreet hm).still w)
  have hf : LeadsToFile w o.source := by
    refine Classical.byContradiction fun hf => launched (launches_eq_nil ?_)
    rw [run_execute_of_missing hf]
    rfl
  cases hl : Language.ofPath o.source with
  | error name =>
    exact absurd (launches_eq_nil (by rw [run_execute_of_unsupported hf hl]; rfl)) launched
  | ok language =>
    cases hx : (delivery o language).run (started o language w) with
    | mk outcome v =>
      cases outcome with
      | error e =>
        have quiet := delivery_still o language (started o language w)
        rw [launches_execute hf hl, work_delivery hm, launches_bind_of_error hx] at launched
        exact absurd quiet launched
      | ok made =>
        obtain ⟨settings, target⟩ := made
        rw [launches_execute_of_delivery hm hf hl hx] at h launched ⊢
        split at h
        · rename_i wanted
          rw [if_pos wanted]
          obtain nothing | ⟨command, parts, hg, hd, one⟩ :=
            Editor.launches_display_cases target.file settings.editor v
          · rw [nothing] at h
            cases h
          · rw [one, List.mem_singleton] at h
            obtain ⟨rfl, rfl⟩ := Prod.mk.inj h
            rw [environment_of_started hx] at hg
            -- the records at the start make no difference to what is delivered
            obtain ⟨y, hy, after⟩ := (agree_started o language w).run_eq hx
            exact ⟨one, hm, hf, language, settings, target, y, command, parts, rfl, hy, after,
              wanted, hg, hd, rfl⟩
        · cases h

/-- What keeps a run from getting past the write of a test. -/
inductive Unwritten (w : World) (o : Options) : Prop where
  | mode (h : o.mode ≠ .write)
  | source (h : ¬LeadsToFile w o.source)
  | unsupported {name : String} (h : Language.ofPath o.source = .error name)
  | declined {settings : Settings} (hs : Configured w o settings) (h : Declined w o settings)
  | failed {language : Language} {e : Failure} (hl : Language.ofPath o.source = .ok language)
      (h : ((delivery o language).run w).1 = .error e)

theorem launches_execute_of_unwritten (h : Unwritten w o) : (execute o).launches w = [] := by
  rw [List.eq_nil_iff_forall_not_mem]
  rintro ⟨x, words⟩ launched
  obtain ⟨-, hm, hf, language, settings, target, y, command, parts, hl, hy, -⟩ :=
    execute_launched launched
  cases h with
  | mode h => exact h hm
  | source h => exact h hf
  | unsupported h => cases h.symm.trans hl
  | declined hs h =>
    obtain ⟨other, hl', hs⟩ := hs
    cases hl'.symm.trans hl
    obtain ⟨hs', -, undeclined, -⟩ := delivery_eq_ok hf hy
    cases hs.symm.trans hs'
    exact undeclined h
  | failed hl' h =>
    cases hl'.symm.trans hl
    rw [hy] at h
    cases h

theorem launches_execute_of_given {y : World} {command : String} {parts : List String}
    (hm : o.mode = .write) (hf : LeadsToFile w o.source)
    (hl : Language.ofPath o.source = .ok language)
    (hy : (delivery o language).run w = (.ok (settings, target), y))
    (wanted : o.opens ∨ settings.opens.isTruthy)
    (hg : Editor.given w.environment settings.editor = some (.text command))
    (hd : ShellWords.ofString command = .ok parts) :
    ((execute o).launches w).map (·.2) =
      if parts.all Editor.isArgument then [parts ++ [target.file.toString]] else [] := by
  obtain ⟨x, hx, -⟩ := (agree_started o language w).symm.run_eq hy
  rw [← environment_of_started hx] at hg
  rw [launches_execute_of_delivery hm hf hl hx, if_pos wanted, Editor.launches_display hg hd]
  split
  · rfl
  · rfl

theorem launches_run_of_error {arguments : List String} {stop : Options.Stop}
    (h : Options.parse arguments = .error stop) (w : World) : (run arguments).launches w = [] := by
  unfold run
  rw [h]
  cases stop <;> rfl

/-- A run launches one command at most, and none unless it gets past its write. At that moment the
target holds the whole test, nobody has declined it, and it is wanted open; the words are those of
the first command that is given, and the target as the last one. Past the write, that command is
launched where it is wanted and given, unless one of its words cannot be given to a program. -/
theorem editor_launched_once_after_write (arguments : List String) (w : World) :
    ((run arguments).run w).2.launches = w.launches ++ ((run arguments).launches w).map (·.2) ∧
    ((run arguments).launches w).length ≤ 1 ∧
    (∀ x words, (x, words) ∈ (run arguments).launches w →
      ∃ o settings target text command parts, Options.parse arguments = .ok o ∧ o.mode = .write ∧
        Configured w o settings ∧ Target.ofSource w.workingFolder o.source settings = .ok target ∧
        ((contents o.source target).run w).1 = .ok text ∧
        x.disk.entry? x.workingFolder target.file = some (.file (Text.Utf8.encode text)) ∧
        ¬Declined w o settings ∧ (o.opens ∨ settings.opens.isTruthy) ∧
        Editor.given w.environment settings.editor = some (.text command) ∧
        ShellWords.ofString command = .ok parts ∧ words = parts ++ [target.file.toString]) ∧
    (∀ stop, Options.parse arguments = .error stop → (run arguments).launches w = []) ∧
    (∀ o, Options.parse arguments = .ok o → Unwritten w o → (run arguments).launches w = []) ∧
    ∀ o language settings target x command parts, Options.parse arguments = .ok o →
      o.mode = .write → LeadsToFile w o.source → Language.ofPath o.source = .ok language →
      (delivery o language).run w = (.ok (settings, target), x) →
      (o.opens ∨ settings.opens.isTruthy) →
      Editor.given w.environment settings.editor = some (.text command) →
      ShellWords.ofString command = .ok parts →
      ((run arguments).launches w).map (·.2) =
        if parts.all Editor.isArgument then [parts ++ [target.file.toString]] else [] := by
  refine ⟨run_launches _ w, ?_, ?_, fun stop hp => launches_run_of_error hp w, ?_, ?_⟩
  · cases hp : Options.parse arguments with
    | error stop =>
      rw [launches_run_of_error hp]
      exact Nat.zero_le 1
    | ok o =>
      rw [run_eq_execute hp]
      cases h : (execute o).launches w with
      | nil => exact Nat.zero_le 1
      | cons first rest =>
        have one := (execute_launched (h ▸ List.mem_cons_self : first ∈ (execute o).launches w)).1
        rw [← h, one]
        exact Nat.le_refl 1
  · intro x words launched
    cases hp : Options.parse arguments with
    | error stop =>
      rw [launches_run_of_error hp] at launched
      cases launched
    | ok o =>
      rw [run_eq_execute hp] at launched
      obtain ⟨-, hm, hf, language, settings, target, y, command, parts, hl, hy, hx, wanted, hg, hd,
        rfl⟩ := execute_launched launched
      obtain ⟨hs, ht, undeclined, text, rendered, there⟩ := delivery_eq_ok hf hy
      have folder : x.workingFolder = w.workingFolder := by
        rw [hx.workingFolder, ← run_workingFolder (delivery o language) w, hy]
      rw [← hx.disk, ← folder] at there
      exact ⟨o, settings, target, text, command, parts, rfl, hm, ⟨language, hl, hs⟩, ht, rendered,
        there, undeclined, wanted, hg, hd, rfl⟩
  · intro o hp h
    rw [run_eq_execute hp]
    exact launches_execute_of_unwritten h
  · intro o language settings target x command parts hp hm hf hl hx wanted hg hd
    rw [run_eq_execute hp]
    exact launches_execute_of_given hm hf hl hx wanted hg hd

/-- A source with a blank in its path, and an editor with an option of its own. -/
def editedTest : World :=
  { disk := ⟨[(["my src"], .folder), (["my src", "m.ts"], .file [])]⟩
    environment := [("VISUAL", ""), ("EDITOR", "code -w")] }

theorem editedTest_launched_once :
    (∃ (x : World) (target : Target) (text : String),
      (x, ["code", "-w", "my src/__tests__/m.spec.ts"]) ∈
        (run ["my src/m.ts", "--open"]).launches editedTest ∧
      target.file.toString = "my src/__tests__/m.spec.ts" ∧
      x.disk.entry? x.workingFolder target.file = some (.file (Text.Utf8.encode text))) ∧
    (run ["my src/m.ts", "--open", "--dry-run"]).launches editedTest = [] ∧
    (run ["--open"]).launches editedTest = [] := by
  refine ⟨?_, ?_, ?_⟩
  · obtain ⟨_, -, once, -, -, past⟩ :=
      editor_launched_once_after_write ["my src/m.ts", "--open"] editedTest
    have there : LeadsToFile editedTest (.ofString "my src/m.ts") :=
      ⟨by decide +kernel, [], by decide +kernel⟩
    have written : ((delivery { source := .ofString "my src/m.ts", opens := true }
        .typescript).run editedTest).1.toOption.map (·.2) = some ⟨"m", "../m",
          .ofString "my src/__tests__", .ofString "my src/__tests__/m.spec.ts"⟩ := by
      decide +kernel
    obtain ⟨⟨settings, target⟩, hs, rfl⟩ := Option.map_eq_some_iff.mp written
    have delivered := run_eq_of_toOption hs
    -- there is no configuration, so the settings are the ones that are set at the start
    have unset : ((Configuration.load (.ofString "my src/m.ts") .typescript none).run
        editedTest).1 = .ok {} := rfl
    cases unset.symm.trans (delivery_eq_ok there delivered).1
    have launched := past _ _ _ _ _ "code -w" ["code", "-w"] rfl rfl there rfl delivered
      (Or.inl rfl) rfl rfl
    rw [if_pos (by decide)] at launched
    obtain ⟨⟨x, words⟩, member, rfl⟩ := List.mem_map.mp (launched ▸ List.mem_singleton_self _)
    obtain ⟨o, settings, target, text, command, parts, -, -, -, -, -, there, -, -, -, -, same⟩ :=
      once x _ member
    have last := congrArg List.getLast? same
    rw [List.getLast?_concat, List.getLast?_concat] at last
    exact ⟨x, target, text, member, (Option.some.inj last).symm, there⟩
  · exact (editor_launched_once_after_write ["my src/m.ts", "--open", "--dry-run"]
      editedTest).2.2.2.2.1 _ rfl (.mode (by decide))
  · exact (editor_launched_once_after_write ["--open"] editedTest).2.2.2.1 _ rfl

end Command

end Scaffold
