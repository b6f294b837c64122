import Scaffold.World

/-!
# Runs of scripts

A run of two scripts one after another is a run of the first and then, if that gives a result, one
of the second. A script that is known to make certain requests only leaves alone whatever these
requests do not touch; in particular one that only looks at files changes nothing but the records.
-/

namespace Scaffold.Script

variable {α β : Type}

instance : LawfulMonad Script :=
  LawfulMonad.mk' Script bind_done (fun _ _ => rfl) bind_assoc

@[simp]
theorem run_pure (a : α) (w : World) : (pure a : Script α).run w = (.ok a, w) :=
  rfl

@[simp]
theorem run_done (a : α) (w : World) : (done a).run w = (.ok a, w) :=
  rfl

@[simp]
theorem run_fail (e : Failure) (w : World) : (fail e : Script α).run w = (.error e, w) :=
  rfl

@[simp]
theorem run_request (r : Request) (w : World) :
    (request r).run w = (.ok (w.answer r).1, (w.answer r).2) :=
  rfl

theorem run_read {p : Path} (h : isUsable p = true) (w : World) :
    (Script.read p).run w = (.ok (w.disk.read w.workingFolder p), w) := by
  unfold Script.read
  rw [if_pos h]
  rfl

theorem run_makeFolder {p : Path} (h : isUsable p = true) (w : World) :
    (Script.makeFolder p).run w = (.ok (w.changing (w.disk.makeFolder w.workingFolder p)).1,
      (w.changing (w.disk.makeFolder w.workingFolder p)).2) := by
  unfold Script.makeFolder
  rw [if_pos h]
  rfl

theorem run_write {p : Path} (h : isUsable p = true) (contents : Bytes) (w : World) :
    (Script.write p contents).run w = (.ok (w.changing (w.disk.write w.workingFolder p contents)).1,
      (w.changing (w.disk.write w.workingFolder p contents)).2) := by
  unfold Script.write
  rw [if_pos h]
  rfl

theorem run_bind_of_ok {s : Script α} {w v : World} {a : α} (h : s.run w = (.ok a, v))
    (f : α → Script β) : (s >>= f).run w = (f a).run v := by
  change (s.bind f).run w = _
  rw [run_bind, h]

theorem run_bind_of_error {s : Script α} {w v : World} {e : Failure} (h : s.run w = (.error e, v))
    (f : α → Script β) : (s >>= f).run w = (.error e, v) := by
  change (s.bind f).run w = _
  rw [run_bind, h]

theorem run_bind_cases (s : Script α) (f : α → Script β) (w : World) :
    (∃ e v, s.run w = (.error e, v) ∧ (s >>= f).run w = (.error e, v)) ∨
      ∃ a v, s.run w = (.ok a, v) ∧ (s >>= f).run w = (f a).run v := by
  cases h : s.run w with
  | mk outcome v =>
    cases outcome with
    | error e => exact Or.inl ⟨e, v, rfl, run_bind_of_error h f⟩
    | ok a => exact Or.inr ⟨a, v, rfl, run_bind_of_ok h f⟩

theorem run_bind_eq_ok {s : Script α} {f : α → Script β} {w u : World} {b : β}
    (h : (s >>= f).run w = (.ok b, u)) : ∃ a v, s.run w = (.ok a, v) ∧ (f a).run v = (.ok b, u) := by
  obtain ⟨e, v, -, hr⟩ | ⟨a, v, hs, hr⟩ := run_bind_cases s f w
  · rw [hr] at h
    cases h
  · exact ⟨a, v, hs, hr ▸ h⟩

theorem run_bind_congr {s t : Script α} {w : World} (h : s.run w = t.run w) (f : α → Script β) :
    (s >>= f).run w = (t >>= f).run w := by
  obtain ⟨e, v, hs, hr⟩ | ⟨a, v, hs, hr⟩ := run_bind_cases s f w
  · rw [hr, run_bind_of_error (h ▸ hs)]
  · rw [hr, run_bind_of_ok (h ▸ hs)]

theorem run_rescue (s : Script α) (handler : Failure → Script α) (w : World) :
    (s.rescue handler).run w =
      match s.run w with
      | (.ok a, v) => (.ok a, v)
      | (.error e, v) => (handler e).run v := by
  induction s generalizing w with
  | done a => rfl
  | fail e => rfl
  | ask r next ih => simp only [rescue, run, ih]

theorem run_rescue_of_ok {s : Script α} {w v : World} {a : α} (h : s.run w = (.ok a, v))
    (handler : Failure → Script α) : (s.rescue handler).run w = (.ok a, v) := by
  rw [run_rescue, h]

theorem run_rescue_of_error {s : Script α} {w v : World} {e : Failure} (h : s.run w = (.error e, v))
    (handler : Failure → Script α) : (s.rescue handler).run w = (handler e).run v := by
  rw [run_rescue, h]

/-- A path that cannot be used leads to nothing. -/
theorem run_entry_bind (p : Path) (f : Option Disk.Entry → Script α) (w : World) :
    (do f (← entry? p)).run w =
      (f (if isUsable p then w.disk.entry? w.workingFolder p else none)).run w := by
  unfold entry?
  split
  · rfl
  · rfl

/-- No request changes the working folder or the variables. -/
theorem answer_surroundings (w : World) (r : Request) :
    (w.answer r).2.workingFolder = w.workingFolder ∧
      (w.answer r).2.environment = w.environment := by
  cases r with
  | makeFolder p =>
    simp only [World.answer, World.changing]
    split <;> exact ⟨rfl, rfl⟩
  | write p contents =>
    simp only [World.answer, World.changing]
    split <;> exact ⟨rfl, rfl⟩
  | record r =>
    simp only [World.answer]
    split <;> exact ⟨rfl, rfl⟩
  | _ => exact ⟨rfl, rfl⟩

theorem run_surroundings (s : Script α) (w : World) :
    (s.run w).2.workingFolder = w.workingFolder ∧ (s.run w).2.environment = w.environment := by
  induction s generalizing w with
  | done a => exact ⟨rfl, rfl⟩
  | fail e => exact ⟨rfl, rfl⟩
  | ask r next ih =>
    obtain ⟨hf, he⟩ := answer_surroundings w r
    obtain ⟨hf', he'⟩ := ih (w.answer r).1 (w.answer r).2
    exact ⟨hf'.trans hf, he'.trans he⟩

theorem run_workingFolder (s : Script α) (w : World) :
    (s.run w).2.workingFolder = w.workingFolder :=
  (run_surroundings s w).1

theorem run_environment (s : Script α) (w : World) :
    (s.run w).2.environment = w.environment :=
  (run_surroundings s w).2

/-! ### The requests a script makes and its failures -/

/-- Whatever the answers are, the script makes allowed requests only, and fails in possible ways
only. -/
inductive Only (allowed : Request → Prop) (possible : Failure → Prop) : Script α → Prop where
  | done (a : α) : Only allowed possible (.done a)
  | fail {e : Failure} (he : possible e) : Only allowed possible (.fail e)
  | ask {r : Request} {next : r.Reply → Script α} (hr : allowed r)
      (hn : ∀ reply, Only allowed possible (next reply)) : Only allowed possible (.ask r next)

namespace Only

variable {allowed : Request → Prop} {possible : Failure → Prop}

theorem any (s : Script α) : s.Only (fun _ => True) fun _ => True := by
  induction s with
  | done a => exact .done a
  | fail e => exact .fail trivial
  | ask r next ih => exact .ask trivial ih

theorem pure (a : α) : (Pure.pure a : Script α).Only allowed possible :=
  .done a

theorem request {r : Request} (h : allowed r) : (Script.request r).Only allowed possible :=
  .ask h .done

theorem bind {s : Script α} {f : α → Script β} (hs : s.Only allowed possible)
    (hf : ∀ a, (f a).Only allowed possible) : (s >>= f).Only allowed possible := by
  change (s.bind f).Only allowed possible
  induction hs with
  | done a => exact hf a
  | fail he => exact .fail he
  | ask hr _ ih => exact .ask hr ih

theorem rescue {other : Failure → Prop} {s : Script α} {handler : Failure → Script α}
    (hs : s.Only allowed other) (hh : ∀ e, (handler e).Only allowed possible) :
    (s.rescue handler).Only allowed possible := by
  induction hs with
  | done a => exact .done a
  | fail _ => exact hh _
  | ask hr _ ih => exact .ask hr ih

theorem mono {wider : Request → Prop} {more : Failure → Prop} {s : Script α}
    (h : s.Only allowed possible) (hw : ∀ r, allowed r → wider r) (hm : ∀ e, possible e → more e) :
    s.Only wider more := by
  induction h with
  | done a => exact .done a
  | fail he => exact .fail (hm _ he)
  | ask hr _ ih => exact .ask (hw _ hr) ih

theorem ofExcept {ε : Type} {wrap : ε → Failure} (h : ∀ e, possible (wrap e)) (x : Except ε α) :
    (Script.ofExcept wrap x).Only allowed possible := by
  cases x with
  | ok a => exact .done a
  | error e => exact .fail (h e)

theorem forM {γ : Type} {f : γ → Script Unit} (xs : List γ) (hf : ∀ x, (f x).Only allowed possible) :
    (xs.forM f).Only allowed possible := by
  induction xs with
  | nil => exact .pure ()
  | cons x xs ih => exact (hf x).bind fun _ => ih

theorem entry {p : Path} (h : allowed (.entry p)) : Only allowed possible <| entry? p := by
  unfold entry?
  split
  · exact .request h
  · exact .pure none

theorem present {p : Path} (h : allowed (.entry p)) : (present p).Only allowed possible :=
  (Only.entry h).bind fun _ => .pure _

theorem read {p : Path} (h : allowed (.read p)) (hb : possible .badName) :
    (Script.read p).Only allowed possible := by
  unfold Script.read
  split
  · exact .request h
  · exact .fail hb

theorem of_run_error {s : Script α} (h : s.Only allowed possible) {w : World} {e : Failure}
    (hr : (s.run w).1 = .error e) : possible e := by
  induction h generalizing w with
  | done a => cases hr
  | fail he =>
    cases hr
    exact he
  | ask _ _ ih => exact ih _ hr

/-- Worlds that answer allowed requests alike, and stay so, cannot be told apart. -/
theorem run_alike {s : Script α} (h : s.Only allowed possible) (alike : World → World → Prop)
    (ha : ∀ r, allowed r → ∀ w v, alike w v →
      (w.answer r).1 = (v.answer r).1 ∧ alike (w.answer r).2 (v.answer r).2)
    {w v : World} (hw : alike w v) : (s.run w).1 = (s.run v).1 := by
  induction h generalizing w v with
  | done a => rfl
  | fail _ => rfl
  | ask hr _ ih =>
    obtain ⟨hf, hn⟩ := ha _ hr w v hw
    rw [run, run, ← hf]
    exact ih _ hn

end Only

/-! ### Changing nothing -/

theorem run_bind_disk {f : α → Script β} (hf : ∀ a v, ((f a).run v).2.disk = v.disk)
    (s : Script α) (w : World) : ((s >>= f).run w).2.disk = (s.run w).2.disk := by
  obtain ⟨e, v, hs, hr⟩ | ⟨a, v, hs, hr⟩ := run_bind_cases s f w
  · rw [hr, hs]
  · rw [hr, hs, hf]

/-- The request neither changes the disk nor asks the user nor launches anything. -/
def Discreet : Request → Prop
  | .makeFolder _ => False
  | .write _ _ => False
  | .question _ => False
  | .launch _ => False
  | _ => True

theorem answer_of_discreet {r : Request} (h : Discreet r) (w : World) :
    ∃ output complaints records least,
      (w.answer r).2 = { w with output, complaints, records, least } := by
  cases r with
  | makeFolder p => exact h.elim
  | write p contents => exact h.elim
  | question prompt => exact h.elim
  | launch words => exact h.elim
  | record r =>
    simp only [World.answer]
    split
    · exact ⟨_, _, _, _, rfl⟩
    · exact ⟨_, _, _, _, rfl⟩
  | _ => exact ⟨_, _, _, _, rfl⟩

theorem Only.run_discreet {possible : Failure → Prop} {s : Script α} (h : s.Only Discreet possible)
    (w : World) : ∃ output complaints records least,
      (s.run w).2 = { w with output, complaints, records, least } := by
  induction h generalizing w with
  | done a => exact ⟨_, _, _, _, rfl⟩
  | fail _ => exact ⟨_, _, _, _, rfl⟩
  | @ask r next hr _ ih =>
    obtain ⟨_, _, _, _, hf⟩ := answer_of_discreet hr w
    obtain ⟨output, complaints, records, least, hn⟩ := ih (w.answer r).1 (w.answer r).2
    refine ⟨output, complaints, records, least, ?_⟩
    rw [run, hn, hf]

/-! ### Looking -/

/-- The request looks at the disk or leaves a record. -/
def Looks : Request → Prop
  | .workingFolder => True
  | .entry _ => True
  | .read _ => True
  | .record _ => True
  | _ => False

section

variable {possible : Failure → Prop}

theorem looks_log (level : Log.Level) (topic : Log.Topic) (message : String) :
    (log level topic message).Only Looks possible :=
  .request trivial

end

/-- The request looks at the disk or leaves a record that is not one of the command. -/
def Observes : Request → Prop
  | .workingFolder => True
  | .entry _ => True
  | .read _ => True
  | .record r => r.topic ≠ .command
  | _ => False

theorem looks_of_observes (r : Request) (h : Observes r) : Looks r := by
  cases r with
  | workingFolder => trivial
  | entry p => trivial
  | read p => trivial
  | record r => trivial
  | _ => exact h.elim

theorem discreet_of_looks (r : Request) (h : Looks r) : Discreet r := by
  cases r with
  | workingFolder => trivial
  | entry p => trivial
  | read p => trivial
  | record r => trivial
  | _ => exact h.elim

theorem Only.looks {possible : Failure → Prop} {s : Script α} (h : s.Only Observes possible) :
    s.Only Looks possible :=
  h.mono looks_of_observes fun _ he => he

theorem answer_of_looks {r : Request} (h : Looks r) (w : World) :
    ∃ records, (w.answer r).2 = { w with records } := by
  cases r with
  | workingFolder => exact ⟨w.records, rfl⟩
  | entry p => exact ⟨w.records, rfl⟩
  | read p => exact ⟨w.records, rfl⟩
  | record r =>
    simp only [World.answer]
    split
    · exact ⟨_, rfl⟩
    · exact ⟨w.records, rfl⟩
  | _ => exact h.elim

theorem Only.run_records {possible : Failure → Prop} {s : Script α} (h : s.Only Looks possible)
    (w : World) : ∃ records, (s.run w).2 = { w with records } := by
  induction h generalizing w with
  | done a => exact ⟨w.records, rfl⟩
  | fail _ => exact ⟨w.records, rfl⟩
  | @ask r next hr _ ih =>
    obtain ⟨first, hf⟩ := answer_of_looks hr w
    obtain ⟨records, hn⟩ := ih (w.answer r).1 (w.answer r).2
    refine ⟨records, ?_⟩
    rw [run, hn, hf]

/-- What is observed leaves the records as they are, but for new ones that are not the command's. -/
theorem Only.run_observed {possible : Failure → Prop} {s : Script α} (h : s.Only Observes possible)
    (w : World) : ∃ more, (s.run w).2 = { w with records := w.records ++ more } ∧
      ∀ r ∈ more, r.topic ≠ .command := by
  induction h generalizing w with
  | done a => exact ⟨[], by simp, by simp⟩
  | fail _ => exact ⟨[], by simp, by simp⟩
  | @ask r next hr _ ih =>
    have first : ∃ more, (w.answer r).2 = { w with records := w.records ++ more } ∧
        ∀ r ∈ more, r.topic ≠ .command := by
      cases r with
      | workingFolder => exact ⟨[], by simp [World.answer], by simp⟩
      | entry p => exact ⟨[], by simp [World.answer], by simp⟩
      | read p => exact ⟨[], by simp [World.answer], by simp⟩
      | record r =>
        simp only [World.answer]
        split
        · exact ⟨[r], rfl, List.forall_mem_singleton.mpr hr⟩
        · exact ⟨[], by simp, by simp⟩
      | _ => exact hr.elim
    obtain ⟨before, hf, hb⟩ := first
    obtain ⟨after, hn, ha⟩ := ih (w.answer r).1 (w.answer r).2
    refine ⟨before ++ after, ?_, ?_⟩
    · rw [run, hn, hf, List.append_assoc]
    · intro r hr
      exact (List.mem_append.mp hr).elim (hb r) (ha r)

theorem run_log (level : Log.Level) (topic : Log.Topic) (message : String) (w : World) :
    ∃ records, (log level topic message).run w = (.ok (), { w with records }) := by
  have looks : (log level topic message).Only Looks fun _ => True := looks_log level topic message
  obtain ⟨records, h⟩ := looks.run_records w
  exact ⟨records, Prod.ext rfl h⟩

theorem run_log_of_kept {level : Log.Level} {topic : Log.Topic} {message : String} {w : World}
    (h : Log.Record.isKept ⟨level, topic, message⟩ w.least = true) :
    (log level topic message).run w =
      (.ok (), { w with records := w.records ++ [⟨level, topic, message⟩] }) := by
  have answered : (w.answer (.record ⟨level, topic, message⟩)).2 =
      { w with records := w.records ++ [⟨level, topic, message⟩] } := if_pos h
  exact Prod.ext rfl answered

theorem Only.looks_disk {possible : Failure → Prop} {s : Script α} (h : s.Only Looks possible)
    (w : World) : (s.run w).2.disk = w.disk := by
  obtain ⟨records, hr⟩ := h.run_records w
  rw [hr]

/-! ### Reading one file -/

/-- The request reads the file at the path or leaves a record that is not one of the command. -/
def ReadsAt (p : Path) : Request → Prop
  | .read q => q = p
  | .record r => r.topic ≠ .command
  | _ => False

theorem observes_of_readsAt (p : Path) (r : Request) (h : ReadsAt p r) : Observes r := by
  cases r with
  | read q => trivial
  | record r => exact h
  | _ => exact h.elim

theorem looks_of_readsAt (p : Path) (r : Request) (h : ReadsAt p r) : Looks r :=
  looks_of_observes r (observes_of_readsAt p r h)

theorem Only.readsAt_congr {possible : Failure → Prop} {p : Path} {s : Script α}
    (h : s.Only (ReadsAt p) possible) {w v : World}
    (hr : w.disk.read w.workingFolder p = v.disk.read v.workingFolder p) :
    (s.run w).1 = (s.run v).1 := by
  let alike : World → World → Prop := fun w v =>
    w.disk.read w.workingFolder p = v.disk.read v.workingFolder p
  refine h.run_alike alike (fun r hr w v hw => ⟨?_, ?_⟩) hr
  · cases r with
    | read q =>
      cases hr
      exact hw
    | record r => rfl
    | _ => exact hr.elim
  · obtain ⟨_, ha⟩ := answer_of_looks (looks_of_readsAt p r hr) w
    obtain ⟨_, hb⟩ := answer_of_looks (looks_of_readsAt p r hr) v
    rw [ha, hb]
    exact hw

end Scaffold.Script
