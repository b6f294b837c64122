import Scaffold.Proofs.Escapes

/-!
# What an editor is launched with

The moments of a run are its requests, each with the world in which it is made; among them are the
launches. An editor is launched with the words of the first command that is given, the setting and
then the two variables, and with the file as one last word. A command is given when it is not empty,
and it has no words when it is nothing but blanks: then the file itself is launched.
-/

namespace Scaffold

namespace Script

variable {α β : Type} {w v : World}

def moments : Script α → World → List (World × Request)
  | .done _, _ => []
  | .fail _, _ => []
  | .ask r next, w => (w, r) :: (next (w.answer r).1).moments (w.answer r).2

def launchAt : World × Request → Option (World × List String)
  | (w, .launch words) => some (w, words)
  | _ => none

/-- The commands that a run launches, each with the world at that moment. -/
def launches (s : Script α) (w : World) : List (World × List String) :=
  (s.moments w).filterMap launchAt

theorem moments_bind (s : Script α) (f : α → Script β) (w : World) :
    (s >>= f).moments w = s.moments w ++
      match s.run w with
      | (.ok a, v) => (f a).moments v
      | (.error _, _) => [] := by
  change (s.bind f).moments w = _
  induction s generalizing w with
  | done a => rfl
  | fail e => rfl
  | ask r next ih =>
    simp only [bind, moments, run, List.cons_append]
    rw [ih]

theorem moments_rescue (s : Script α) (handler : Failure → Script α) (w : World) :
    (s.rescue handler).moments w = s.moments w ++
      match s.run w with
      | (.ok _, _) => []
      | (.error e, v) => (handler e).moments v := by
  induction s generalizing w with
  | done a => rfl
  | fail e => rfl
  | ask r next ih =>
    simp only [rescue, moments, run, List.cons_append]
    rw [ih]

theorem launches_bind_of_ok {s : Script α} {a : α} (h : s.run w = (.ok a, v)) (f : α → Script β) :
    (s >>= f).launches w = s.launches w ++ (f a).launches v := by
  simp only [launches, moments_bind, h, List.filterMap_append]

theorem launches_bind_of_error {s : Script α} {e : Failure} (h : s.run w = (.error e, v))
    (f : α → Script β) : (s >>= f).launches w = s.launches w := by
  simp only [launches, moments_bind, h, List.append_nil]

/-- A world keeps account of the launches. -/
theorem run_launches (s : Script α) (w : World) :
    (s.run w).2.launches = w.launches ++ (s.launches w).map (·.2) := by
  induction s generalizing w with
  | done a => simp [run, launches, moments]
  | fail e => simp [run, launches, moments]
  | ask r next ih =>
    -- a launch adds its words to the account, and no other request touches it
    have first : (w.answer r).2.launches = w.launches ++ ((launchAt (w, r)).map (·.2)).toList := by
      cases r with
      | launch words => rfl
      | makeFolder p =>
        simp only [World.answer, World.changing]
        split <;> simp [launchAt]
      | write p contents =>
        simp only [World.answer, World.changing]
        split <;> simp [launchAt]
      | record r =>
        simp only [World.answer]
        split <;> simp [launchAt]
      | _ => simp [World.answer, launchAt]
    rw [run, ih, first, launches, launches, moments, List.filterMap_cons, List.append_assoc]
    cases launchAt (w, r) <;> rfl

theorem launches_eq_nil {s : Script α} (h : (s.run w).2.launches = w.launches) :
    s.launches w = [] := by
  rw [run_launches, List.append_right_eq_self] at h
  exact List.map_eq_nil_iff.mp h

theorem launches_bind_of_quiet {s : Script α} {a : α} (h : s.run w = (.ok a, v))
    (hq : v.launches = w.launches) (f : α → Script β) :
    (s >>= f).launches w = (f a).launches v := by
  rw [launches_bind_of_ok h, launches_eq_nil (by rw [h, hq]), List.nil_append]

/-- No run of the script launches anything. -/
def Still (s : Script α) : Prop :=
  ∀ w, s.launches w = []

theorem launches_bind_of_still {s : Script α} {f : α → Script β} (hf : ∀ a, (f a).Still)
    (w : World) : (s >>= f).launches w = s.launches w := by
  obtain ⟨e, v, hs, -⟩ | ⟨a, v, hs, -⟩ := run_bind_cases s f w
  · exact launches_bind_of_error hs f
  · rw [launches_bind_of_ok hs, hf, List.append_nil]

theorem Only.still {possible : Failure → Prop} {s : Script α} (h : s.Only Discreet possible) :
    s.Still := by
  intro w
  obtain ⟨output, complaints, records, least, hr⟩ := h.run_discreet w
  exact launches_eq_nil (by rw [hr])

theorem still_log (level : Log.Level) (topic : Log.Topic) (message : String) :
    (log level topic message).Still := by
  have discreet : (log level topic message).Only Discreet fun _ => True := .request trivial
  exact discreet.still

end Script

/-! ### Commands without words -/

namespace ShellWords

theorem start_ne_between (c : Char) : (start c).1 ≠ .between := by
  unfold start
  repeat' split
  all_goals exact nofun

theorem scan_ne_nil {s : State} (hs : s ≠ .between) {word cs : List Char} {words : List (List Char)}
    (h : scan s word cs = .ok words) : words ≠ [] := by
  -- the only way back to the state between words leaves a word behind
  induction cs generalizing s word with
  | nil =>
    cases s with
    | between => exact absurd rfl hs
    | word =>
      cases h
      exact List.cons_ne_nil _ _
    | _ => cases h
  | cons c cs ih =>
    cases s with
    | between => exact absurd rfl hs
    | word =>
      rw [scan] at h
      split at h
      · cases hr : scan .between [] cs with
        | error f =>
          rw [hr] at h
          cases h
        | ok rest =>
          rw [hr] at h
          cases h
          exact List.cons_ne_nil _ _
      · exact ih (start_ne_between c) h
    | single =>
      rw [scan] at h
      split at h
      · exact ih (by simp) h
      · exact ih (by simp) h
    | double =>
      rw [scan] at h
      split at h
      · exact ih (by simp) h
      · split at h
        · exact ih (by simp) h
        · exact ih (by simp) h
    | escaped =>
      rw [scan] at h
      exact ih (by simp) h
    | escapedDouble =>
      rw [scan] at h
      split at h
      · exact ih (by simp) h
      · exact ih (by simp) h

theorem scan_eq_nil_iff (cs : List Char) :
    scan .between [] cs = .ok [] ↔ ∀ c ∈ cs, isBlank c = true := by
  induction cs with
  | nil => simp [scan]
  | cons c cs ih =>
    rw [scan, List.forall_mem_cons]
    split
    · rename_i hb
      rw [ih, and_iff_right hb]
    · rename_i hb
      refine iff_of_false (fun h => ?_) fun h => hb h.1
      exact scan_ne_nil (start_ne_between c) h rfl

def Blank (command : String) : Prop :=
  ∀ c ∈ command.toList, isBlank c = true

instance (command : String) : Decidable (Blank command) :=
  decidable_of_iff (command.toList.all isBlank = true) List.all_eq_true

theorem ofString_eq_nil_iff (command : String) : ofString command = .ok [] ↔ Blank command := by
  rw [Blank, ← scan_eq_nil_iff, ofString]
  cases scan .between [] command.toList with
  | error f => simp [Except.map]
  | ok words => simp [Except.map]

end ShellWords

/-! ### The editor -/

namespace Editor

open Script
open ShellWords (Blank)

/-- The first that is given of the setting and the two variables. -/
def given (environment : List (String × String)) (setting : Value) : Option Value :=
  [setting, variableIn environment "VISUAL", variableIn environment "EDITOR"].find? Value.isTruthy

theorem given_eq (environment : List (String × String)) (setting : Value) :
    given environment setting =
      if (chosen environment setting).isTruthy then some (chosen environment setting) else none := by
  unfold given chosen Value.orElse
  by_cases first : setting.isTruthy = true
  · simp [first]
  · by_cases second : (variableIn environment "VISUAL").isTruthy = true
    · simp [first, second]
    · by_cases third : (variableIn environment "EDITOR").isTruthy = true
      · simp [first, second, third]
      · simp [first, second, third]

variable {w : World} {p : Path} {setting : Value}

/-- Opens a file with what is given. -/
def displayWith (p : Path) : Option Value → Script Unit
  | some (.text command) => launch command p
  | some v => fail (.notACommand v.typeName)
  | none => display.warn p

theorem display_eq (p : Path) (setting : Value) (w : World) :
    (display p setting).run w = (displayWith p (given w.environment setting)).run w ∧
      (display p setting).launches w =
        (displayWith p (given w.environment setting)).launches w := by
  unfold display
  rw [run_bind_of_ok (run_command setting w), launches_bind_of_quiet (run_command setting w) rfl,
    given_eq]
  generalize chosen w.environment setting = v
  cases v with
  | text s => cases hs : s.isEmpty <;> simp [Value.isTruthy, hs, displayWith]
  | _ =>
    dsimp only
    split
    · exact ⟨rfl, rfl⟩
    · exact ⟨rfl, rfl⟩

theorem launches_start (parts : List String) (p : Path) (w : World) :
    (start parts p).launches w =
      if parts.all isArgument then [(w, parts ++ [p.toString])] else [] := by
  unfold start
  split
  · rfl
  · rfl

theorem launches_launch {command : String} {parts : List String}
    (h : ShellWords.ofString command = .ok parts) (p : Path) (w : World) :
    (launch command p).launches w =
      if parts.all isArgument then [(w, parts ++ [p.toString])] else [] := by
  have divided : (ofExcept .command (ShellWords.ofString command)).run w = (.ok parts, w) := by
    rw [h]
    rfl
  unfold launch
  rw [launches_bind_of_quiet divided rfl, ← launches_start]
  refine launches_bind_of_still (fun reply => ?_) w
  split
  · exact fun _ => rfl
  · exact fun _ => rfl

theorem launches_launch_of_error {command : String} {f : ShellWords.Fault}
    (h : ShellWords.ofString command = .error f) (p : Path) (w : World) :
    (launch command p).launches w = [] := by
  have undivided : (ofExcept .command (ShellWords.ofString command)).run w =
      (.error (.command f), w) := by
    rw [h]
    rfl
  unfold launch
  rw [launches_bind_of_error undivided]
  exact launches_eq_nil (by rw [undivided])

theorem launches_display {command : String} {parts : List String}
    (hg : given w.environment setting = some (.text command))
    (hd : ShellWords.ofString command = .ok parts) :
    (display p setting).launches w =
      if parts.all isArgument then [(w, parts ++ [p.toString])] else [] := by
  rw [(display_eq p setting w).2, hg]
  exact launches_launch hd p w

theorem launches_display_cases (p : Path) (setting : Value) (w : World) :
    (display p setting).launches w = [] ∨ ∃ command parts,
      given w.environment setting = some (.text command) ∧
      ShellWords.ofString command = .ok parts ∧
      (display p setting).launches w = [(w, parts ++ [p.toString])] := by
  rw [(display_eq p setting w).2]
  cases hg : given w.environment setting with
  | none => exact Or.inl (still_log _ _ _ w)
  | some v =>
    cases v with
    | text command =>
      cases hd : ShellWords.ofString command with
      | error f => exact Or.inl (launches_launch_of_error hd p w)
      | ok parts =>
        have launched := launches_launch hd p w
        split at launched
        · exact Or.inr ⟨command, parts, rfl, hd, launched⟩
        · exact Or.inl launched
    | _ => exact Or.inl rfl

/-- An editor is launched with the words of the command that is given and with the file as the last
word. These are two words or more, the first of them one of the command, exactly unless the command
is nothing but blanks, and then the file is launched on its own. Where no command is given, nothing
is launched and there is a warning. -/
theorem file_launched_itself_iff_blank (p : Path) (setting : Value) (w : World) :
    (∀ x words, (x, words) ∈ (display p setting).launches w → ∃ command parts,
      given w.environment setting = some (.text command) ∧
      ShellWords.ofString command = .ok parts ∧
      words = parts ++ [p.toString] ∧ words.getLast? = some p.toString ∧
      (¬Blank command ↔ 2 ≤ words.length ∧ ∃ word ∈ parts, words.head? = some word)) ∧
    (∀ command, given w.environment setting = some (.text command) → Blank command →
      (display p setting).launches w = [(w, [p.toString])]) ∧
    (given w.environment setting = none →
      (display p setting).launches w = [] ∧ (display p setting).run w = (display.warn p).run w) := by
  refine ⟨fun x words launched => ?_, fun command hg blank => ?_, fun hg => ?_⟩
  · obtain nothing | ⟨command, parts, hg, hd, one⟩ := launches_display_cases p setting w
    · rw [nothing] at launched
      cases launched
    · rw [one, List.mem_singleton] at launched
      obtain ⟨rfl, rfl⟩ := Prod.mk.inj launched
      refine ⟨command, parts, hg, hd, rfl, by simp, ?_⟩
      rw [← ShellWords.ofString_eq_nil_iff, hd]
      cases parts with
      | nil => simp
      | cons word rest => simp
  · exact launches_display hg ((ShellWords.ofString_eq_nil_iff command).mpr blank)
  · obtain ⟨ran, launched⟩ := display_eq p setting w
    rw [hg] at ran launched
    exact ⟨launched.trans (still_log _ _ _ w), ran⟩

/-- A command whose first word has a blank in it. -/
def quotedEditor : Script Unit :=
  display (.ofString "a b.ts") (.text "'my ed' -w")

/-- The only command there is has no words. -/
def blankEditor : World :=
  { environment := [("VISUAL", ""), ("EDITOR", "\t")] }

theorem editors_launched_or_not :
    (∃ parts words : List String, ({}, words) ∈ quotedEditor.launches {} ∧ 2 ≤ words.length ∧
      (∃ word ∈ parts, words.head? = some word) ∧ words.getLast? = some "a b.ts") ∧
    (display (.ofString "a.ts") .null).launches blankEditor = [(blankEditor, ["a.ts"])] ∧
    (display (.ofString "a.ts") (.text "")).launches {} = [] := by
  refine ⟨?_, ?_, ?_⟩
  · have member : ({}, ["my ed", "-w", "a b.ts"]) ∈ quotedEditor.launches {} :=
      List.mem_singleton_self _
    obtain ⟨command, parts, hg, -, -, last, wide⟩ := (file_launched_itself_iff_blank
      (.ofString "a b.ts") (.text "'my ed' -w") {}).1 _ _ member
    cases hg
    obtain ⟨two, first⟩ := wide.mp (by decide)
    exact ⟨parts, _, member, two, first, last⟩
  · exact (file_launched_itself_iff_blank (.ofString "a.ts") .null blankEditor).2.1 "\t" rfl
      (by decide)
  · exact ((file_launched_itself_iff_blank (.ofString "a.ts") (.text "") {}).2.2 rfl).1

theorem blank_editor_launches_file :
    ShellWords.ofString " " = .ok [] ∧
      (display (.ofString "a.spec.ts") (.text " ")).launches {} = [({}, ["a.spec.ts"])] ∧
      ((display (.ofString "a.spec.ts") (.text " ")).run {}).2.records = [] := by
  refine ⟨rfl, rfl, rfl⟩

end Editor

end Scaffold
