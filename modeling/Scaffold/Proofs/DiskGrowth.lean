import Scaffold.Disk

/-!
# What happens to a disk

A path that leads somewhere leads to the place its names spell once double dots are taken away, on
any disk. A disk grows when folders come into being where nothing was; paths that led somewhere
before lead to the same place afterwards. A new folder makes a disk grow at one place, and a
written file changes it at one place.
-/

namespace Scaffold

/-- The path starts another one, name by name. -/
def Path.Begins (q p : Path) : Prop :=
  q.root = p.root ∧ q.names <+: p.names

theorem Path.Begins.refl (p : Path) : p.Begins p :=
  ⟨rfl, List.prefix_rfl⟩

namespace Disk

/-! ### Following names -/

theorem follow_append (d : Disk) (here names more : List String) :
    d.follow here (names ++ more) = (d.follow here names).bind fun place => d.follow place more := by
  induction names generalizing here with
  | nil => rfl
  | cons name names ih =>
    simp only [List.cons_append, follow]
    cases d.get? here with
    | none => rfl
    | some e =>
      cases e with
      | folder => exact ih _
      | file contents => rfl

/-- Only from a folder does a name lead anywhere. -/
theorem get?_of_follow_cons {d : Disk} {here place : List String} {name : String}
    {names : List String} (h : d.follow here (name :: names) = .ok place) :
    d.get? here = some .folder := by
  rw [follow] at h
  cases hg : d.get? here with
  | none => simp [hg] at h
  | some e =>
    cases e with
    | folder => rfl
    | file contents => simp [hg] at h

theorem follow_eq_climb {d : Disk} {here names place : List String}
    (h : d.follow here names = .ok place) :
    place = (names.foldl Path.climb here.reverse).reverse := by
  induction names generalizing here with
  | nil =>
    cases h
    simp
  | cons name names ih =>
    have hf := get?_of_follow_cons h
    rw [follow, hf] at h
    rw [ih h, List.foldl_cons, Path.climb]
    split <;> simp [List.tail_reverse]

theorem locate_eq_resolve {d : Disk} {cwd p : Path} {place : List String}
    (h : d.locate cwd p = .ok place) : place = cwd.resolve p :=
  follow_eq_climb h

/-- Paths lead where they led as long as no folder has gone. -/
theorem follow_of_folders {d d' : Disk}
    (h : ∀ place, d.get? place = some .folder → d'.get? place = some .folder)
    {here names place : List String} (hp : d.follow here names = .ok place) :
    d'.follow here names = .ok place := by
  induction names generalizing here with
  | nil => exact hp
  | cons name names ih =>
    have hf := get?_of_follow_cons hp
    rw [follow, hf] at hp
    rw [follow, h here hf]
    exact ih hp

/-! ### Growing -/

/-- Nothing has changed but for new folders, all of them at places where they are allowed. -/
def Grows (allowed : List String → Prop) (d d' : Disk) : Prop :=
  ∀ place, d'.get? place = d.get? place ∨
    d.get? place = none ∧ d'.get? place = some .folder ∧ allowed place

namespace Grows

variable {allowed : List String → Prop} {d d' d'' : Disk}

theorem refl (d : Disk) : Grows allowed d d :=
  fun _ => Or.inl rfl

theorem trans (h : Grows allowed d d') (h' : Grows allowed d' d'') : Grows allowed d d'' := by
  intro place
  rcases h place, h' place with ⟨hp | ⟨hn, hf, ha⟩, hp' | ⟨hn', hf', ha'⟩⟩
  · exact Or.inl (hp'.trans hp)
  · exact Or.inr ⟨hp ▸ hn', hf', ha'⟩
  · exact Or.inr ⟨hn, hp'.trans hf, ha⟩
  · rw [hf] at hn'
    cases hn'

theorem mono {wider : List String → Prop} (h : Grows allowed d d')
    (hw : ∀ place, allowed place → wider place) : Grows wider d d' := by
  intro place
  rcases h place with hp | ⟨hn, hf, ha⟩
  · exact Or.inl hp
  · exact Or.inr ⟨hn, hf, hw place ha⟩

theorem get?_of_some (h : Grows allowed d d') {place : List String} {e : Entry}
    (he : d.get? place = some e) : d'.get? place = some e := by
  rcases h place with hp | ⟨hn, -, -⟩
  · exact hp.trans he
  · rw [he] at hn
    cases hn

/-- No file comes, goes or changes. -/
theorem get?_file_iff (h : Grows allowed d d') (place : List String) (contents : Bytes) :
    d'.get? place = some (.file contents) ↔ d.get? place = some (.file contents) := by
  rcases h place with hp | ⟨hn, hf, -⟩
  · rw [hp]
  · simp [hn, hf]

theorem locate (h : Grows allowed d d') {cwd p : Path} {place : List String}
    (hp : d.locate cwd p = .ok place) : d'.locate cwd p = .ok place :=
  follow_of_folders (fun _ => h.get?_of_some) hp

end Grows

/-! ### Operations -/

theorem entry?_eq_some_iff {d : Disk} {cwd p : Path} {e : Entry} :
    d.entry? cwd p = some e ↔ d.locate cwd p = .ok (cwd.resolve p) ∧
      d.get? (cwd.resolve p) = some e := by
  unfold entry?
  cases h : d.locate cwd p with
  | error f => simp
  | ok place => simp [locate_eq_resolve h]

theorem Grows.entry_eq_some {allowed : List String → Prop} {d d' : Disk} (h : Grows allowed d d')
    {cwd p : Path} {e : Entry} (he : d.entry? cwd p = some e) : d'.entry? cwd p = some e := by
  rw [entry?_eq_some_iff] at *
  exact ⟨h.locate he.1, h.get?_of_some he.2⟩

theorem read_eq_ok_iff {d : Disk} {cwd p : Path} {contents : Bytes} :
    d.read cwd p = .ok contents ↔ d.entry? cwd p = some (.file contents) := by
  unfold Disk.read Disk.entry?
  cases h : d.locate cwd p with
  | error f => simp [bind, Except.bind]
  | ok place =>
    simp only [bind, Except.bind]
    cases hg : d.get? place with
    | none => simp [throw, throwThe, MonadExceptOf.throw]
    | some e => cases e <;> simp [throw, throwThe, MonadExceptOf.throw, pure, Except.pure]

theorem makeFolder_eq_ok {d d' : Disk} {cwd p : Path} (h : d.makeFolder cwd p = .ok d') :
    d.get? (cwd.resolve p) = none ∧ d' = d.put (cwd.resolve p) .folder := by
  unfold Disk.makeFolder at h
  cases hl : d.locate cwd p with
  | error f => simp [hl, bind, Except.bind] at h
  | ok place =>
    obtain rfl := locate_eq_resolve hl
    simp only [hl, bind, Except.bind] at h
    cases hg : d.get? (cwd.resolve p) with
    | some e => simp [hg, throw, throwThe, MonadExceptOf.throw] at h
    | none =>
      simp only [hg, pure, Except.pure, Except.ok.injEq] at h
      exact ⟨rfl, h.symm⟩

theorem makeFolder_of_entry {d : Disk} {cwd p : Path} {e : Entry} (h : d.entry? cwd p = some e) :
    d.makeFolder cwd p = .error .taken := by
  obtain ⟨hl, hg⟩ := entry?_eq_some_iff.mp h
  simp [Disk.makeFolder, hl, hg, bind, Except.bind, throw, throwThe, MonadExceptOf.throw]

theorem ne_top_of_get? {d : Disk} {place : List String} (h : d.get? place ≠ some .folder) :
    place ≠ [] := by
  rintro rfl
  exact h rfl

theorem grows_makeFolder {d d' : Disk} {cwd p : Path} (h : d.makeFolder cwd p = .ok d') :
    Grows (· = cwd.resolve p) d d' := by
  obtain ⟨hn, rfl⟩ := makeFolder_eq_ok h
  have hf : d.get? (cwd.resolve p) ≠ some .folder := by simp [hn]
  have ht := ne_top_of_get? hf
  intro place
  by_cases hp : place = cwd.resolve p
  · right
    subst hp
    exact ⟨hn, by simp [get?_put, ht], rfl⟩
  · left
    rw [get?_put, if_neg hp]
    cases place <;> rfl

/-- A write changes one place, where no folder stood, and the path leads there. -/
theorem write_eq_ok {d d' : Disk} {cwd p : Path} {contents : Bytes}
    (h : d.write cwd p contents = .ok d') :
    d.locate cwd p = .ok (cwd.resolve p) ∧ d.get? (cwd.resolve p) ≠ some .folder ∧
      ∀ place, d'.get? place =
        if place = cwd.resolve p then some (.file contents) else d.get? place := by
  unfold Disk.write at h
  cases hl : d.locate cwd p with
  | error f => simp [hl, bind, Except.bind] at h
  | ok place =>
    obtain rfl := locate_eq_resolve hl
    simp only [hl, bind, Except.bind] at h
    have hn : d.get? (cwd.resolve p) ≠ some .folder := by
      intro hf
      simp [hf, throw, throwThe, MonadExceptOf.throw] at h
    have hd : d' = d.put (cwd.resolve p) (.file contents) := by
      split at h
      · exact absurd ‹_› hn
      · exact (Except.ok.inj h).symm
    refine ⟨rfl, hn, fun place => ?_⟩
    have ht := ne_top_of_get? hn
    rw [hd, get?_put]
    cases place with
    | nil => simp [ht.symm, get?]
    | cons name names => simp

theorem get?_folder_of_write {d d' : Disk} {cwd p : Path} {contents : Bytes}
    (h : d.write cwd p contents = .ok d') {place : List String}
    (hf : d.get? place = some .folder) : d'.get? place = some .folder := by
  obtain ⟨-, hn, hg⟩ := write_eq_ok h
  rw [hg, if_neg]
  · exact hf
  · rintro rfl
    exact hn hf

theorem locate_of_write {d d' : Disk} {cwd p : Path} {contents : Bytes}
    (h : d.write cwd p contents = .ok d') : d'.locate cwd p = .ok (cwd.resolve p) :=
  follow_of_folders (fun _ => get?_folder_of_write h) (write_eq_ok h).1

end Disk

end Scaffold
