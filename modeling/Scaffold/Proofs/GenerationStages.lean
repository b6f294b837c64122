import Scaffold.Generation
import Scaffold.Proofs.DiskGrowth
import Scaffold.Proofs.ScriptRuns

/-!
# The stages of a generation

A generation first approaches its target, which may make folders and does nothing else to the disk.
It then asks for permission, renders the text, writes it and finishes with the editor. Each stage has one
statement here that says what it does to the world, and `generate_eq` puts them in their order.
-/

namespace Scaffold.Generation

open Script

/-- A failure that counts as an error: not the one of a file that is there and is to be kept. -/
def Unexpected : Failure → Prop
  | .obstacle o => o.isExpected = false
  | _ => True

/-! ### Making folders -/

/-- The places of the folders that a folder's path leads through. -/
def OnTheWay (folder cwd : Path) (place : List String) : Prop :=
  ∃ q : Path, q.Begins folder ∧ place = cwd.resolve q

theorem onTheWay_self (p cwd : Path) : OnTheWay p cwd (cwd.resolve p) :=
  ⟨p, .refl p, rfl⟩

theorem onTheWay_of_begins {q p cwd : Path} (h : q.Begins p) {place : List String}
    (hp : OnTheWay q cwd place) : OnTheWay p cwd place := by
  obtain ⟨r, ⟨hr, hn⟩, rfl⟩ := hp
  exact ⟨r, ⟨hr.trans h.1, hn.trans h.2⟩, rfl⟩

/-- Nothing has changed but the disk, and that has only grown. -/
def Grown (allowed : List String → Prop) (w v : World) : Prop :=
  v = { w with disk := v.disk } ∧ w.disk.Grows allowed v.disk

theorem Grown.refl (allowed : List String → Prop) (w : World) : Grown allowed w w :=
  ⟨rfl, .refl _⟩

theorem Grown.trans {allowed : List String → Prop} {w v u : World} (h : Grown allowed w v)
    (h' : Grown allowed v u) : Grown allowed w u := by
  refine ⟨?_, h.2.trans h'.2⟩
  rw [h'.1, h.1]

theorem Grown.workingFolder {allowed : List String → Prop} {w v : World} (h : Grown allowed w v) :
    v.workingFolder = w.workingFolder := by
  rw [h.1]

/-- Every run of the script makes folders at allowed places and does nothing else. -/
def MakesFolders {α : Type} (allowed : Path → List String → Prop) (s : Script α) : Prop :=
  ∀ w : World, Grown (allowed w.workingFolder) w (s.run w).2

namespace MakesFolders

variable {α β : Type} {allowed : Path → List String → Prop}

theorem pure (a : α) : MakesFolders allowed (Pure.pure a : Script α) :=
  fun w => .refl _ w

theorem bind {s : Script α} {f : α → Script β} (hs : MakesFolders allowed s)
    (hf : ∀ a, MakesFolders allowed (f a)) : MakesFolders allowed (s >>= f) := by
  intro w
  have hw := hs w
  obtain ⟨e, v, he, hr⟩ | ⟨a, v, ha, hr⟩ := run_bind_cases s f w
  · rw [hr]
    rwa [he] at hw
  · rw [hr]
    rw [ha] at hw
    have hv := hf a v
    rw [hw.workingFolder] at hv
    exact hw.trans hv

theorem mono {wider : Path → List String → Prop} {s : Script α} (hs : MakesFolders allowed s)
    (hw : ∀ cwd place, allowed cwd place → wider cwd place) : MakesFolders wider s :=
  fun w => ⟨(hs w).1, (hs w).2.mono (hw _)⟩

end MakesFolders

theorem run_isFolder (p : Path) (w : World) :
    (isFolder p).run w =
      (.ok (isUsable p && w.disk.entry? w.workingFolder p == some .folder), w) := by
  unfold isFolder entry?
  by_cases hu : isUsable p = true
  · simp only [hu, if_true]
    rfl
  · simp only [hu]
    rfl

theorem scriptMakeFolder_makes (p : Path) : MakesFolders (OnTheWay p) (Script.makeFolder p) := by
  intro w
  unfold Script.makeFolder
  split
  · change Grown _ w (w.changing (w.disk.makeFolder w.workingFolder p)).2
    cases h : w.disk.makeFolder w.workingFolder p with
    | error f => exact .refl _ w
    | ok d =>
      refine ⟨rfl, (Disk.grows_makeFolder h).mono ?_⟩
      rintro place rfl
      exact onTheWay_self p w.workingFolder
  · exact .refl _ w

theorem makeFolder_makes (p : Path) : MakesFolders (OnTheWay p) (makeFolder p) := by
  refine (scriptMakeFolder_makes p).bind fun result => ?_
  split
  · exact .pure _
  · exact .pure _
  · refine .bind (fun w => ?_) fun _ => .pure _
    rw [run_isFolder]
    exact .refl _ w

theorem makeFolders_makes (root : Path.Root) (names : List String) :
    MakesFolders (OnTheWay ⟨root, names.reverse⟩) (makeFolders root names) := by
  induction names with
  | nil => exact (makeFolder_makes ⟨root, []⟩).bind fun _ => .pure _
  | cons name above ih =>
    have own := makeFolder_makes ⟨root, (name :: above).reverse⟩
    have begins : (⟨root, above.reverse⟩ : Path).Begins ⟨root, (name :: above).reverse⟩ :=
      ⟨rfl, by simp⟩
    refine own.bind fun result => ?_
    split
    -- the folders above are missing, and their places are on the way as well
    · refine (ih.mono fun _ _ => onTheWay_of_begins begins).bind fun result => ?_
      split
      · exact own.bind fun _ => .pure _
      · exact .pure _
    · exact .pure _

theorem ensureFolder_makes (p : Path) : MakesFolders (OnTheWay p) (ensureFolder p) := by
  have hm := makeFolders_makes p.root p.names.reverse
  rw [List.reverse_reverse] at hm
  refine hm.bind fun result => ?_
  split
  · exact .pure _
  · exact fun w => .refl _ w

theorem run_makeFolder_of_folder {p : Path} {w : World} (hu : isUsable p = true)
    (h : w.disk.entry? w.workingFolder p = some .folder) :
    (makeFolder p).run w = (.ok (.ok ()), w) := by
  have hm := run_makeFolder hu w
  rw [Disk.makeFolder_of_entry h] at hm
  have hi := run_isFolder p w
  rw [hu, h] at hi
  unfold makeFolder
  rw [run_bind_of_ok hm]
  exact run_bind_of_ok hi _

/-- Making folders starts with the last one, and ends there if that can be made. -/
theorem makeFolders_eq (p : Path) : ∃ next, next (.ok ()) = pure (.ok ()) ∧
    makeFolders p.root p.names.reverse = makeFolder p >>= next := by
  cases hn : p.names.reverse with
  | nil =>
    have hp : (⟨p.root, []⟩ : Path) = p := by
      rw [← List.reverse_eq_nil_iff.mp hn]
    rw [makeFolders, hp]
    exact ⟨_, rfl, rfl⟩
  | cons name above =>
    have hp : (⟨p.root, (name :: above).reverse⟩ : Path) = p := by
      rw [← hn, List.reverse_reverse]
    rw [makeFolders, hp]
    exact ⟨_, rfl, rfl⟩

theorem run_ensureFolder_of_folder {p : Path} {w : World} (hu : isUsable p = true)
    (h : w.disk.entry? w.workingFolder p = some .folder) :
    (ensureFolder p).run w = (.ok (), w) := by
  obtain ⟨next, hn, hs⟩ := makeFolders_eq p
  have made : (makeFolders p.root p.names.reverse).run w = (.ok (.ok ()), w) := by
    rw [hs, run_bind_of_ok (run_makeFolder_of_folder hu h), hn]
    rfl
  exact run_bind_of_ok made _

/-- The only failures are those of a path that cannot be used, and of a folder that cannot be
made. -/
theorem ensureFolder_only {possible : Failure → Prop} (p : Path)
    (hb : isUsable p = false → possible .badName)
    (ho : ∀ message cause, possible (.obstacle ⟨.folder, message, cause⟩)) :
    (ensureFolder p).Only (fun _ => True) possible := by
  have single (q : Path) (hq : isUsable q = false → possible .badName) :
      (makeFolder q).Only (fun _ => True) possible := by
    have made : (Script.makeFolder q).Only (fun _ => True) possible := by
      unfold Script.makeFolder
      split
      · exact .request trivial
      · exact .fail (hq (by simp [*]))
    refine made.bind fun result => ?_
    split
    · exact .pure _
    · exact .pure _
    · refine Only.bind ?_ fun _ => .pure _
      exact (Only.entry trivial).bind fun _ => .pure _
  have all (names : List String)
      (hn : isUsable ⟨p.root, names.reverse⟩ = false → possible .badName) :
      (makeFolders p.root names).Only (fun _ => True) possible := by
    induction names with
    | nil => exact (single _ hn).bind fun _ => .pure _
    | cons name above ih =>
      -- a path above one that can be used can be used
      have higher : isUsable ⟨p.root, above.reverse⟩ = false → possible .badName := by
        intro hf
        apply hn
        simp only [isUsable] at hf ⊢
        simp only [List.reverse_cons, List.all_append, hf, Bool.false_and]
      refine (single _ hn).bind fun result => ?_
      split
      · refine (ih higher).bind fun result => ?_
        split
        · exact (single _ hn).bind fun _ => .pure _
        · exact .pure _
      · exact .pure _
  refine (all _ (by simpa using hb)).bind fun result => ?_
  split
  · exact .pure _
  · exact .fail (ho _ _)

theorem ensureFolder_unexpected (p : Path) :
    (ensureFolder p).Only (fun _ => True) Unexpected :=
  ensureFolder_only p (fun _ => trivial) fun _ _ => rfl

/-! ### The stages -/

/-- Everything before the question whether a file may be replaced. -/
def approach (source : Path) (settings : Settings) : Script Target := do
  let _ ← languageOf source
  let target ← targetOf source settings
  log .debug .generation s!"Test file target: {target.file}"
  ensureFolder target.folder
  return target

/-- The question, unless the answer is forced. -/
def permit (force : Bool) (confirm : Path → Script Bool) (target : Target) : Script Unit :=
  if force then return else protect target.file confirm

/-- Everything before the write: the target and the text to be written. -/
def compose (source : Path) (settings : Settings) (force : Bool) (confirm : Path → Script Bool) :
    Script (Target × String) := do
  let target ← approach source settings
  permit force confirm target
  return (target, ← contents source target)

/-- What comes after the write. -/
def finish (settings : Settings) (opens : Option Bool) (target : Target) : Script Target := do
  if opens.getD settings.opens.isTruthy then Editor.display target.file settings.editor
  return target

theorem generate_eq (source : Path) (settings : Settings) (force : Bool) (opens : Option Bool)
    (confirm : Path → Script Bool) :
    generate source settings force opens confirm = (do
      let (target, text) ← compose source settings force confirm
      save target.file text
      finish settings opens target) := by
  unfold generate compose approach permit finish
  cases force <;> simp

/-! ### Up to the question -/

theorem run_languageOf {source : Path} {language : Language}
    (h : Language.ofPath source = .ok language) (w : World) :
    (languageOf source).run w = (.ok language, w) := by
  rw [languageOf, h]
  rfl

theorem run_languageOf_error {source : Path} {name : String}
    (h : Language.ofPath source = .error name) (w : World) :
    (languageOf source).run w = (.error (.unsupported name), w) := by
  rw [languageOf, h]
  rfl

theorem run_targetOf (source : Path) (settings : Settings) (w : World) :
    (targetOf source settings).run w =
      (ofExcept .notAPath (Target.ofSource w.workingFolder source settings)).run w :=
  rfl

theorem run_approach {source : Path} {settings : Settings} {language : Language} {target : Target}
    {w : World} (hl : Language.ofPath source = .ok language)
    (ht : Target.ofSource w.workingFolder source settings = .ok target) :
    ∃ records, (approach source settings).run w =
      (ensureFolder target.folder >>= fun _ => pure target).run { w with records } := by
  have hr : (targetOf source settings).run w = (.ok target, w) := by
    rw [run_targetOf, ht]
    rfl
  obtain ⟨records, hg⟩ :=
    run_log .debug .generation s!"Test file target: {target.file}" w
  refine ⟨records, ?_⟩
  unfold approach
  rw [run_bind_of_ok (run_languageOf hl w), run_bind_of_ok hr, run_bind_of_ok hg]

theorem approach_cases (source : Path) (settings : Settings) (w : World) :
    (∃ e, (approach source settings).run w = (.error e, w)) ∨
    ∃ language target records, Language.ofPath source = .ok language ∧
      Target.ofSource w.workingFolder source settings = .ok target ∧
      (approach source settings).run w =
        (ensureFolder target.folder >>= fun _ => pure target).run { w with records } := by
  cases hl : Language.ofPath source with
  | error name =>
    left
    unfold approach
    exact ⟨_, run_bind_of_error (run_languageOf_error hl w) _⟩
  | ok language =>
    cases ht : Target.ofSource w.workingFolder source settings with
    | ok target =>
      obtain ⟨records, hr⟩ := run_approach hl ht
      exact Or.inr ⟨language, target, records, rfl, rfl, hr⟩
    | error e =>
      have hr : (targetOf source settings).run w = (.error (.notAPath e), w) := by
        rw [run_targetOf, ht]
        rfl
      left
      unfold approach
      refine ⟨.notAPath e, ?_⟩
      rw [run_bind_of_ok (run_languageOf hl w), run_bind_of_error hr]

theorem approach_eq_ok {source : Path} {settings : Settings} {target : Target} {w v : World}
    (h : (approach source settings).run w = (.ok target, v)) :
    (∃ language, Language.ofPath source = .ok language) ∧
      Target.ofSource w.workingFolder source settings = .ok target := by
  obtain ⟨e, he⟩ | ⟨language, aim, records, hl, ht, hr⟩ := approach_cases source settings w
  · cases h.symm.trans he
  · rw [hr] at h
    obtain ⟨⟨⟩, u, -, hp⟩ := run_bind_eq_ok h
    cases hp
    exact ⟨⟨language, hl⟩, ht⟩

/-- The places of the folders that the target's folder leads through. -/
def OnTheWayToTarget (source : Path) (settings : Settings) (cwd : Path) (place : List String) :
    Prop :=
  ∃ target, Target.ofSource cwd source settings = .ok target ∧ OnTheWay target.folder cwd place

/-- Up to the question nothing changes but the disk, which grows, and the records. -/
theorem approach_grows {source : Path} {settings : Settings} {result : Except Failure Target}
    {w v : World} (hv : (approach source settings).run w = (result, v)) :
    v = { w with disk := v.disk, records := v.records } ∧
      w.disk.Grows (OnTheWayToTarget source settings w.workingFolder) v.disk := by
  obtain ⟨e, he⟩ | ⟨language, target, records, -, ht, hr⟩ := approach_cases source settings w
  · have hw : v = w := (Prod.mk.inj (hv.symm.trans he)).2
    rw [hw]
    exact ⟨rfl, .refl _⟩
  · have hm := (ensureFolder_makes target.folder).bind (fun _ => .pure target) { w with records }
    rw [← hr, hv] at hm
    obtain ⟨same, grown⟩ := hm
    have hw : v = { w with disk := v.disk, records } := same
    refine ⟨?_, grown.mono fun place way => ⟨target, ht, way⟩⟩
    rw [hw]

theorem approach_unexpected (source : Path) (settings : Settings) :
    (approach source settings).Only (fun _ => True) Unexpected := by
  have language : (languageOf source).Only (fun _ => True) Unexpected :=
    .ofExcept (fun _ => trivial) _
  have target : (targetOf source settings).Only (fun _ => True) Unexpected :=
    (Only.request trivial).bind fun _ => .ofExcept (fun _ => trivial) _
  refine language.bind fun _ => target.bind fun target => (Only.request trivial).bind fun _ => ?_
  exact (ensureFolder_unexpected _).bind fun _ => .pure _

/-! ### The question -/

theorem run_present (p : Path) (w : World) :
    (present p).run w = (.ok (isUsable p && (w.disk.entry? w.workingFolder p).isSome), w) := by
  unfold present entry?
  by_cases hu : isUsable p = true
  · simp only [hu, if_true]
    rfl
  · simp only [hu]
    rfl

/-- The path is one that can be used, and leads to something. -/
def Occupied (w : World) (p : Path) : Prop :=
  isUsable p = true ∧ (w.disk.entry? w.workingFolder p).isSome = true

theorem run_protect_of_free {p : Path} {w : World} (h : ¬Occupied w p)
    (confirm : Path → Script Bool) : (protect p confirm).run w = (.ok (), w) := by
  have hf : (isUsable p && (w.disk.entry? w.workingFolder p).isSome) = false := by
    rw [Bool.eq_false_iff, ne_eq, Bool.and_eq_true]
    exact h
  have hp := run_present p w
  rw [hf] at hp
  exact run_bind_of_ok hp _

def settle (p : Path) (answer : Bool) : Script Unit :=
  if answer then log .info .files s!"Overwriting {p}"
  else fail (.obstacle ⟨.fileExists, s!"Unit test file {p} already exists.", none⟩)

theorem run_protect_of_occupied {p : Path} {w : World} (h : Occupied w p)
    (confirm : Path → Script Bool) :
    (protect p confirm).run w = (confirm p >>= settle p).run w := by
  have hp := run_present p w
  rw [h.1, h.2] at hp
  exact run_bind_of_ok hp _

theorem settle_looks (p : Path) (answer : Bool) :
    (settle p answer).Only Looks fun _ => True := by
  unfold settle
  split
  · exact looks_log _ _ _
  · exact .fail trivial

theorem settle_eq_ok {p : Path} {answer : Bool} {w v : World}
    (h : (settle p answer).run w = (.ok (), v)) : answer = true := by
  cases answer with
  | true => rfl
  | false => cases h

section

variable {confirm : Path → Script Bool}

theorem permit_disk (hc : ∀ p v, ((confirm p).run v).2.disk = v.disk) (force : Bool)
    (target : Target) (w : World) : ((permit force confirm target).run w).2.disk = w.disk := by
  unfold permit
  split
  · rfl
  · by_cases ho : Occupied w target.file
    · rw [run_protect_of_occupied ho, run_bind_disk (fun _ => (settle_looks _ _).looks_disk), hc]
    · rw [run_protect_of_free ho]

theorem permit_eq_ok {force : Bool} {target : Target} {w v : World}
    (h : (permit force confirm target).run w = (.ok (), v)) :
    force = true ∨ ¬Occupied w target.file ∨
      Occupied w target.file ∧ ((confirm target.file).run w).1 = .ok true := by
  cases force with
  | true => exact Or.inl rfl
  | false =>
    by_cases ho : Occupied w target.file
    · right; right
      change (protect target.file confirm).run w = (.ok (), v) at h
      rw [run_protect_of_occupied ho] at h
      obtain ⟨answer, u, hr, hs⟩ := run_bind_eq_ok h
      rw [settle_eq_ok hs] at hr
      exact ⟨ho, by rw [hr]⟩
    · exact Or.inr (Or.inl ho)

end

/-! ### The prompt -/

/-- The first line of the input says yes. -/
def Accepts (input : List Char) : Prop :=
  ∃ line, (World.firstLine input).1 = some line ∧ Text.lower (Text.strip line) ∈ ["y", "yes"]

instance (input : List Char) : Decidable (Accepts input) :=
  match h : (World.firstLine input).1 with
  | none => isFalse (by simp [Accepts, h])
  | some line =>
    decidable_of_iff (Text.lower (Text.strip line) ∈ ["y", "yes"]) (by simp [Accepts, h])

def prompt (p : Path) : String :=
  s!"{p} already exists. Overwrite? [y/N] "

theorem run_confirm (p : Path) (w : World) :
    (confirm p).run w = (.ok (decide (Accepts w.input)),
      { w with input := (World.firstLine w.input).2, output := w.output ++ prompt p }) := by
  have hq : (request (.question (prompt p))).run w = (.ok (World.firstLine w.input).1,
      { w with input := (World.firstLine w.input).2, output := w.output ++ prompt p }) := rfl
  refine (run_bind_of_ok hq _).trans ?_
  split
  · simp [Accepts, *]
  · simp [Accepts, *]

theorem confirm_disk (p : Path) (w : World) : ((confirm p).run w).2.disk = w.disk := by
  rw [run_confirm]

/-! ### Rendering, writing and opening -/

theorem readSource_readsAt (p : Path) : (readSource p).Only (ReadsAt p) Unexpected := by
  have read : (Script.read p).Only (ReadsAt p) Unexpected := .read rfl trivial
  refine read.bind fun result => ?_
  split
  · exact .pure _
  · exact (Only.request (show Log.Topic.source ≠ .command by decide)).bind fun _ => .fail rfl

theorem exportsOf_readsAt (p : Path) (dialect : Source.Dialect) :
    (exportsOf p dialect).Only (ReadsAt p) Unexpected := by
  have log (level) (topic : Log.Topic) (message) (h : topic ≠ .command) :
      (log level topic message).Only (ReadsAt p) Unexpected := .request h
  have undecodable {α : Type} (x : Except Text.Utf8.Fault α) :
      (ofExcept .undecodable x).Only (ReadsAt p) Unexpected := .ofExcept (fun _ => trivial) x
  refine (readSource_readsAt p).bind fun bytes => ?_
  dsimp only
  split
  · refine (log _ _ _ (by decide)).bind fun _ => ?_
    refine (Only.forM _ fun _ => log _ _ _ (by decide)).bind fun _ => ?_
    exact (undecodable _).bind fun _ => (log _ _ _ (by decide)).bind fun _ => .pure _
  · refine (Only.forM _ fun _ => log _ _ _ (by decide)).bind fun _ => ?_
    exact (undecodable _).bind fun _ => (log _ _ _ (by decide)).bind fun _ => .pure _

theorem contents_readsAt (source : Path) (target : Target) :
    (contents source target).Only (ReadsAt source) Unexpected := by
  have language : (languageOf source).Only (ReadsAt source) Unexpected :=
    .ofExcept (fun _ => trivial) _
  exact language.bind fun _ => (exportsOf_readsAt _ _).bind fun _ => .pure _

theorem contents_looks (source : Path) (target : Target) :
    (contents source target).Only Looks Unexpected :=
  (contents_readsAt source target).mono (looks_of_readsAt source) fun _ he => he

/-- The request has to do with launching a command. -/
def Opens : Request → Prop
  | .variable _ => True
  | .launch _ => True
  | .record _ => True
  | _ => False

theorem answer_of_opens {r : Request} (h : Opens r) (w : World) :
    ∃ launches records, (w.answer r).2 = { w with launches, records } := by
  cases r with
  | «variable» name => exact ⟨w.launches, w.records, rfl⟩
  | launch words => exact ⟨w.launches ++ [words], w.records, rfl⟩
  | record r =>
    simp only [World.answer]
    split
    · exact ⟨w.launches, _, rfl⟩
    · exact ⟨w.launches, w.records, rfl⟩
  | _ => exact h.elim

theorem run_of_opens {α : Type} {possible : Failure → Prop} {s : Script α}
    (h : s.Only Opens possible) (w : World) :
    ∃ launches records, (s.run w).2 = { w with launches, records } := by
  induction h generalizing w with
  | done a => exact ⟨w.launches, w.records, rfl⟩
  | fail _ => exact ⟨w.launches, w.records, rfl⟩
  | @ask r next hr _ ih =>
    obtain ⟨_, _, hf⟩ := answer_of_opens hr w
    obtain ⟨launches, records, hn⟩ := ih (w.answer r).1 (w.answer r).2
    refine ⟨launches, records, ?_⟩
    rw [run, hn, hf]

theorem display_opens (p : Path) (setting : Value) :
    (Editor.display p setting).Only Opens Unexpected := by
  have environment : ∀ name, (Editor.environment name).Only Opens Unexpected := fun name =>
    (Only.request trivial).bind fun reply => by
      split <;> exact .pure _
  have warn : (Editor.display.warn p).Only Opens Unexpected := .request trivial
  have start : ∀ words, (Editor.start words p).Only Opens Unexpected := fun words => by
    unfold Editor.start
    split
    · exact .request trivial
    · exact .fail trivial
  have launch : ∀ command, (Editor.launch command p).Only Opens Unexpected := fun command =>
    (Only.ofExcept (fun _ => trivial) _).bind fun words => (start words).bind fun reply => by
      split
      · exact .pure _
      · exact .fail rfl
  have command : (Editor.command setting).Only Opens Unexpected :=
    (environment _).bind fun _ => (environment _).bind fun _ => .pure _
  refine command.bind fun value => ?_
  split
  · split
    · exact warn
    · exact launch _
  · split
    · exact .fail trivial
    · exact warn

theorem finish_opens (settings : Settings) (opens : Option Bool) (target : Target) :
    (finish settings opens target).Only Opens Unexpected := by
  unfold finish
  split
  · exact (display_opens _ _).bind fun _ => .pure _
  · exact .pure _

theorem run_finish (settings : Settings) (opens : Option Bool) (target : Target) (w : World) :
    ∃ launches records, ((finish settings opens target).run w).2 = { w with launches, records } :=
  run_of_opens (finish_opens settings opens target) w

theorem run_save_of_unusable {p : Path} (hu : isUsable p = false) (text : String) (w : World) :
    (save p text).run w = (.error .badName, w) := by
  have refused : (Script.write p (Text.Utf8.encode text)).run w = (.error .badName, w) := by
    unfold Script.write
    rw [hu]
    rfl
  exact run_bind_of_error refused _

theorem run_save {p : Path} {text : String} {w : World} {d : Disk} (hu : isUsable p = true)
    (hd : w.disk.write w.workingFolder p (Text.Utf8.encode text) = .ok d) :
    ∃ records, (save p text).run w = (.ok (), { w with disk := d, records }) := by
  have hw := run_write hu (Text.Utf8.encode text) w
  rw [hd] at hw
  obtain ⟨records, hr⟩ := run_log .info .files s!"Wrote {p}" { w with disk := d }
  exact ⟨records, (run_bind_of_ok hw _).trans hr⟩

theorem save_cases (p : Path) (text : String) (w : World) :
    (∃ e, (save p text).run w = (.error e, w)) ∨
      ∃ d records, isUsable p = true ∧
        w.disk.write w.workingFolder p (Text.Utf8.encode text) = .ok d ∧
        (save p text).run w = (.ok (), { w with disk := d, records }) := by
  cases hu : isUsable p with
  | true =>
    cases hd : w.disk.write w.workingFolder p (Text.Utf8.encode text) with
    | error f =>
      have hw := run_write hu (Text.Utf8.encode text) w
      rw [hd] at hw
      exact Or.inl ⟨_, run_bind_of_ok hw _⟩
    | ok d =>
      obtain ⟨records, hr⟩ := run_save hu hd
      exact Or.inr ⟨d, records, rfl, rfl, hr⟩
  | false => exact Or.inl ⟨.badName, run_save_of_unusable hu text w⟩

theorem save_only {possible : Failure → Prop} (p : Path) (text : String)
    (hb : isUsable p = false → possible .badName)
    (ho : ∀ message cause, possible (.obstacle ⟨.unknown, message, cause⟩)) :
    (save p text).Only (fun _ => True) possible := by
  have written : (Script.write p (Text.Utf8.encode text)).Only (fun _ => True) possible := by
    unfold Script.write
    split
    · exact .request trivial
    · exact .fail (hb (by simp [*]))
  refine written.bind fun result => ?_
  split
  · exact .request trivial
  · exact .fail (ho _ _)

theorem save_unexpected (p : Path) (text : String) :
    (save p text).Only (fun _ => True) Unexpected :=
  save_only p text (fun _ => trivial) fun _ _ => rfl

/-! ### The whole generation -/

section

variable {source : Path} {settings : Settings} {force : Bool} {confirm : Path → Script Bool}
  {w : World}

theorem compose_eq_ok {target : Target} {text : String} {u : World}
    (h : (compose source settings force confirm).run w = (.ok (target, text), u)) :
    ∃ v x, (approach source settings).run w = (.ok target, v) ∧
      (permit force confirm target).run v = (.ok (), x) ∧
      (contents source target).run x = (.ok text, u) := by
  obtain ⟨aim, v, hv, h⟩ := run_bind_eq_ok h
  obtain ⟨⟨⟩, x, hx, h⟩ := run_bind_eq_ok h
  obtain ⟨rendered, y, hy, h⟩ := run_bind_eq_ok h
  cases h
  exact ⟨v, x, hv, hx, hy⟩

/-- Before the write the disk only grows: neither the question nor the rendering touches it. -/
theorem compose_grows (hc : ∀ p v, ((confirm p).run v).2.disk = v.disk)
    {result : Except Failure (Target × String)} {u : World}
    (hu : (compose source settings force confirm).run w = (result, u)) :
    w.disk.Grows (OnTheWayToTarget source settings w.workingFolder) u.disk := by
  obtain ⟨⟨_, v⟩, hv⟩ : ∃ approached, (approach source settings).run w = approached := ⟨_, rfl⟩
  have kept : ((compose source settings force confirm).run w).2.disk =
      ((approach source settings).run w).2.disk := by
    unfold compose
    refine run_bind_disk (fun target v => ?_) _ w
    rw [run_bind_disk (fun _ x => ?_), permit_disk hc]
    exact ((contents_looks source target).bind fun _ => .pure _).looks_disk x
  rw [hu, hv] at kept
  have hd : u.disk = v.disk := kept
  rw [hd]
  exact (approach_grows hv).2

/-- A generation stops before the write, at the write, or goes on to the editor, which has no part
in what is on the disk. -/
theorem generate_cases {opens : Option Bool} {outcome : Except Failure Target} {v : World}
    (hr : (generate source settings force opens confirm).run w = (outcome, v)) :
    (∃ e, (compose source settings force confirm).run w = (.error e, v) ∧ outcome = .error e) ∨
    ∃ target text u, (compose source settings force confirm).run w = (.ok (target, text), u) ∧
      ((∃ e, (save target.file text).run u = (.error e, v) ∧ outcome = .error e ∧ v = u) ∨
      ∃ x, (save target.file text).run u = (.ok (), x) ∧
        (finish settings opens target).run x = (outcome, v) ∧ isUsable target.file = true ∧
        u.disk.write w.workingFolder target.file (Text.Utf8.encode text) = .ok v.disk ∧
        v = { u with disk := v.disk, launches := v.launches, records := v.records }) := by
  rw [generate_eq] at hr
  obtain ⟨e, x, hs, hb⟩ | ⟨⟨target, text⟩, u, hs, hb⟩ :=
    run_bind_cases (compose source settings force confirm) _ w
  · obtain ⟨rfl, rfl⟩ := Prod.mk.inj (hr.symm.trans hb)
    exact Or.inl ⟨e, hs, rfl⟩
  · -- all that is left is the write and the editor, in the working folder of the start
    refine Or.inr ⟨target, text, u, hs, ?_⟩
    have hu : u.workingFolder = w.workingFolder := by
      rw [← run_workingFolder (compose source settings force confirm) w, hs]
    have hb := hr.symm.trans hb
    obtain ⟨e, he⟩ | ⟨d, records, hp, hd, hx⟩ := save_cases target.file text u
    · rw [run_bind_of_error he] at hb
      obtain ⟨rfl, rfl⟩ := Prod.mk.inj hb
      exact Or.inl ⟨e, he, rfl, rfl⟩
    · rw [run_bind_of_ok hx] at hb
      obtain ⟨launches, logged, hf⟩ := run_finish settings opens target { u with disk := d, records }
      rw [← hb] at hf
      have hv : v = { u with disk := d, launches, records := logged } := hf
      refine Or.inr ⟨_, hx, hb.symm, hp, ?_, ?_⟩
      · rw [← hu, hd, hv]
      · rw [hv]

/-- The only failure that is no error comes from the question. -/
theorem generate_refused {opens : Option Bool} {e : Failure} {v : World} (he : ¬Unexpected e)
    (hr : (generate source settings force opens confirm).run w = (.error e, v)) :
    ∃ target x, (approach source settings).run w = (.ok target, x) ∧
      (permit force confirm target).run x = (.error e, v) := by
  obtain ⟨_, hv, ho⟩ | ⟨target, text, u, hu, hw⟩ := generate_cases hr
  · cases ho
    unfold compose at hv
    obtain ⟨_, x, hs, hb⟩ | ⟨target, x, hs, hb⟩ := run_bind_cases (approach source settings) _ w
    · cases hb.symm.trans hv
      exact absurd ((approach_unexpected source settings).of_run_error (by rw [hs])) he
    · rw [hb] at hv
      refine ⟨target, x, hs, ?_⟩
      obtain ⟨_, y, ht, hb⟩ | ⟨⟨⟩, y, ht, hb⟩ := run_bind_cases (permit force confirm target)
        (fun _ => do return (target, ← contents source target)) x
      · cases hb.symm.trans hv
        exact ht
      · have rendered : (do return (target, ← contents source target) : Script _).Only Looks
          Unexpected := (contents_looks source target).bind fun _ => .pure _
        exact absurd (rendered.of_run_error (by rw [← hb, hv])) he
  · obtain ⟨_, hs, ho, -⟩ | ⟨x, -, hx, -, -, -⟩ := hw
    · cases ho
      exact absurd ((save_unexpected target.file text).of_run_error (by rw [hs])) he
    · exact absurd ((finish_opens settings opens target).of_run_error (by rw [hx])) he

end

end Scaffold.Generation
