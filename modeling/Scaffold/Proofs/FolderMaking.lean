import Scaffold.Proofs.Regeneration

/-!
# When folders can be made

Names that lead nowhere lead up to a place where there is nothing, or a file. So folders can be made
wherever no file stands on the way to them: the first attempt finds the folder above or misses it,
and in the second case the folders above are made before the next attempt. In the end there are
folders at all places on the way, and nothing else has changed.
-/

namespace Scaffold

namespace Disk

variable {d d' : Disk} {cwd p q : Path} {place : List String} {places : List String → Prop}

theorem follow_eq_error {here names : List String} {f : Fault}
    (h : d.follow here names = .error f) :
    ∃ front name rest place, names = front ++ name :: rest ∧ d.follow here front = .ok place ∧
      (f = .missing ∧ d.get? place = none ∨
        f = .notFolder ∧ ∃ bytes, d.get? place = some (.file bytes)) := by
  induction names generalizing here with
  | nil => cases h
  | cons name names ih =>
    rw [follow] at h
    cases hg : d.get? here with
    | none =>
      rw [hg] at h
      cases h
      exact ⟨[], name, names, here, rfl, rfl, Or.inl ⟨rfl, hg⟩⟩
    | some e =>
      rw [hg] at h
      cases e with
      | file bytes =>
        cases h
        exact ⟨[], name, names, here, rfl, rfl, Or.inr ⟨rfl, bytes, hg⟩⟩
      | folder =>
        obtain ⟨front, next, rest, place, rfl, hf, hp⟩ := ih h
        refine ⟨name :: front, next, rest, place, rfl, ?_, hp⟩
        rw [follow, hg]
        exact hf

/-- From where a path starts, its names are followed one by one. -/
theorem locate_of_start {root : Path.Root} {start : List String}
    (h : d.locate cwd ⟨root, []⟩ = .ok start) (names : List String) :
    d.locate cwd ⟨root, names⟩ = d.follow start names := by
  have names_eq := Path.names_join_below cwd ⟨root, []⟩ names
  rw [List.nil_append] at names_eq
  rw [locate] at h
  rw [locate, names_eq, follow_append, h]
  rfl

/-- The path starts at a folder. -/
def Rooted (d : Disk) (cwd : Path) (root : Path.Root) : Prop :=
  d.entry? cwd ⟨root, []⟩ = some .folder

theorem locate_eq_error {f : Fault} (hr : d.Rooted cwd p.root) (h : d.locate cwd p = .error f) :
    ∃ q : Path, q.Begins p.parent ∧
      (f = .missing ∧ d.get? (cwd.resolve q) = none ∨
        f = .notFolder ∧ ∃ bytes, d.get? (cwd.resolve q) = some (.file bytes)) := by
  obtain ⟨start, -⟩ := entry?_eq_some_iff.mp hr
  have followed : d.follow _ p.names = .error f := (locate_of_start start p.names).symm.trans h
  obtain ⟨front, name, rest, place, hn, hf, hp⟩ := follow_eq_error followed
  have reached := locate_eq_resolve ((locate_of_start start front).trans hf)
  refine ⟨⟨p.root, front⟩, ⟨rfl, ?_⟩, reached ▸ hp⟩
  rw [Path.parent, hn, List.dropLast_append_of_ne_nil (List.cons_ne_nil name rest)]
  exact List.prefix_append _ _

/-- A path that leads somewhere leads through folders. -/
theorem folder_of_begins_parent (h : d.locate cwd p = .ok place) (hn : p.names ≠ [])
    (hq : q.Begins p.parent) : d.get? (cwd.resolve q) = some .folder := by
  obtain ⟨root, more, hm⟩ := hq
  obtain ⟨name, rest, hs⟩ : ∃ name rest, p.names = q.names ++ name :: rest := by
    rw [← List.dropLast_concat_getLast hn]
    change q.names ++ more = p.names.dropLast at hm
    rw [← hm, List.append_assoc]
    obtain ⟨name, rest, hr⟩ := List.exists_cons_of_ne_nil
      (List.append_ne_nil_of_right_ne_nil more (List.cons_ne_nil (p.names.getLast hn) []))
    exact ⟨name, rest, by rw [hr]⟩
  have split : p = ⟨q.root, q.names ++ name :: rest⟩ := by
    rw [← hs, root]
    rfl
  rw [split] at h
  exact (entry?_eq_some_iff.mp (folder_of_locate h)).2

theorem folder_of_begins (h : d.entry? cwd p = some .folder) (hq : q.Begins p) :
    d.get? (cwd.resolve q) = some .folder := by
  obtain ⟨root, more, hm⟩ := hq
  have split : p = ⟨q.root, q.names ++ more⟩ := by
    rw [hm, root]
  cases more with
  | nil =>
    obtain rfl : p = q := by simpa using split
    exact (entry?_eq_some_iff.mp h).2
  | cons name rest =>
    rw [split] at h
    exact (entry?_eq_some_iff.mp (folder_of_below (Option.isSome_of_eq_some h))).2

theorem makeFolder_of_locate (hl : d.locate cwd p = .ok (cwd.resolve p))
    (hn : d.get? (cwd.resolve p) = none) :
    d.makeFolder cwd p = .ok (d.put (cwd.resolve p) .folder) := by
  simp only [Disk.makeFolder, hl, bind, Except.bind, hn]
  rfl

theorem makeFolder_of_error {f : Fault} (hl : d.locate cwd p = .error f) :
    d.makeFolder cwd p = .error f := by
  simp only [Disk.makeFolder, hl, bind, Except.bind]

/-- The disk has grown just so far that there are folders at all of the places. -/
def Filled (places : List String → Prop) (d d' : Disk) : Prop :=
  d.Grows places d' ∧ ∀ place, places place → d'.get? place = some .folder

theorem Filled.get?_of_not (h : d.Filled places d') (hn : ¬places place) :
    d'.get? place = d.get? place := by
  rcases h.1 place with kept | ⟨-, -, allowed⟩
  · exact kept
  · exact absurd allowed hn

end Disk

namespace Generation

open Script

/-- The path can be used, it starts at a folder, and no file stands on the way to it. -/
structure Clear (w : World) (p : Path) : Prop where
  usable : isUsable p = true
  rooted : w.disk.Rooted w.workingFolder p.root
  free : ∀ place, OnTheWay p w.workingFolder place → ∀ bytes, w.disk.get? place ≠ some (.file bytes)

variable {w v : World} {p q : Path} {place : List String}

theorem Clear.of_begins (h : Clear w p) (hq : q.Begins p) : Clear w q where
  usable := by
    obtain ⟨-, more, hm⟩ := hq
    have usable := h.usable
    rw [isUsable, ← hm, List.all_append, Bool.and_eq_true] at usable
    exact usable.1
  rooted := hq.1 ▸ h.rooted
  free := fun place way => h.free place (onTheWay_of_begins hq way)

theorem Clear.grown {allowed : List String → Prop} (h : Clear w p) (hg : Grown allowed w v) :
    Clear v p where
  usable := h.usable
  rooted := by
    rw [Disk.Rooted, hg.workingFolder]
    exact hg.2.entry_eq_some h.rooted
  free := by
    intro place way bytes hb
    rw [hg.workingFolder] at way
    exact h.free place way bytes ((hg.2.get?_file_iff place bytes).mp hb)

theorem run_makeFolder_of_located (h : Clear w p)
    (hl : w.disk.locate w.workingFolder p = .ok place) :
    ∃ v, (makeFolder p).run w = (.ok (.ok ()), v) := by
  obtain rfl := Disk.locate_eq_resolve hl
  cases hg : w.disk.get? (w.workingFolder.resolve p) with
  | none =>
    have hm := run_makeFolder h.usable w
    rw [Disk.makeFolder_of_locate hl hg] at hm
    exact ⟨_, run_bind_of_ok hm _⟩
  | some e =>
    cases e with
    | file bytes => exact absurd hg (h.free _ (onTheWay_self p _) bytes)
    | folder =>
      have there := Disk.entry?_eq_some_iff.mpr ⟨hl, hg⟩
      exact ⟨w, run_makeFolder_of_folder h.usable there⟩

/-- An attempt succeeds, or it fails for want of a folder above and changes nothing. -/
theorem run_makeFolder_of_clear (h : Clear w p) :
    (∃ v, (makeFolder p).run w = (.ok (.ok ()), v)) ∨
      (makeFolder p).run w = (.ok (.error .missing), w) := by
  cases hl : w.disk.locate w.workingFolder p with
  | ok place => exact Or.inl (run_makeFolder_of_located h hl)
  | error f =>
    right
    obtain rfl : f = .missing := by
      obtain ⟨q, hq, ⟨hf, -⟩ | ⟨-, bytes, hb⟩⟩ := Disk.locate_eq_error h.rooted hl
      · exact hf
      · have begins : q.Begins p := ⟨hq.1, hq.2.trans (List.dropLast_prefix p.names)⟩
        exact absurd hb (h.free _ ⟨q, begins, rfl⟩ bytes)
    have hm := run_makeFolder h.usable w
    rw [Disk.makeFolder_of_error hl] at hm
    exact run_bind_of_ok hm _

theorem run_makeFolders_of_clear {root : Path.Root} {names : List String}
    (h : Clear w ⟨root, names.reverse⟩) : ∃ v, (makeFolders root names).run w = (.ok (.ok ()), v) := by
  induction names with
  | nil => exact ⟨w, run_bind_of_ok (run_makeFolder_of_folder h.usable h.rooted) _⟩
  | cons name above ih =>
    rw [makeFolders]
    obtain ⟨v, made⟩ | missed := run_makeFolder_of_clear h
    · exact ⟨v, run_bind_of_ok made _⟩
    · -- once the folders above are there, the second attempt finds its place
      have begins : (⟨root, above.reverse⟩ : Path).Begins ⟨root, (name :: above).reverse⟩ :=
        ⟨rfl, by simp⟩
      obtain ⟨v, made⟩ := ih (h.of_begins begins)
      have grown := makeFolders_makes root above w
      rw [made] at grown
      obtain ⟨u, last⟩ := makeFolders_ends made
      obtain ⟨located, folder⟩ := Disk.entry?_eq_some_iff.mp (makeFolder_leaves last).2
      have below : v.disk.locate v.workingFolder ⟨root, (name :: above).reverse⟩ =
          v.disk.follow (v.workingFolder.resolve ⟨root, above.reverse⟩) [name] := by
        have names_eq := Path.names_join_below v.workingFolder ⟨root, above.reverse⟩ [name]
        rw [Disk.locate] at located
        rw [Disk.locate, List.reverse_cons, names_eq, Disk.follow_append, located]
        rfl
      rw [Disk.follow, folder] at below
      obtain ⟨x, again⟩ := run_makeFolder_of_located (h.grown grown) below
      rw [run_bind_of_ok missed]
      refine ⟨x, (run_bind_of_ok made _).trans ?_⟩
      exact run_bind_of_ok again _

theorem filled_of_folder {d d' : Disk} {cwd : Path} (hg : d.Grows (OnTheWay p cwd) d')
    (hf : d'.entry? cwd p = some .folder) : d.Filled (OnTheWay p cwd) d' := by
  refine ⟨hg, ?_⟩
  rintro place ⟨q, hq, rfl⟩
  exact Disk.folder_of_begins hf hq

theorem ensureFolder_of_clear (h : Clear w p) :
    ∃ v, (ensureFolder p).run w = (.ok (), v) ∧ v = { w with disk := v.disk } ∧
      w.disk.Filled (OnTheWay p w.workingFolder) v.disk := by
  have clear : Clear w ⟨p.root, p.names.reverse.reverse⟩ := by
    rw [List.reverse_reverse]
    exact h
  obtain ⟨v, made⟩ := run_makeFolders_of_clear clear
  have ensured : (ensureFolder p).run w = (.ok (), v) := run_bind_of_ok made _
  have grown := ensureFolder_makes p w
  rw [ensured] at grown
  have folder := (ensureFolder_leaves ensured).2
  rw [grown.workingFolder] at folder
  exact ⟨v, ensured, grown.1, filled_of_folder grown.2 folder⟩

/-- Where the folder could be made, no file was in the way. -/
theorem free_of_filled {d d' : Disk} {cwd : Path} (h : d.Filled (OnTheWay p cwd) d')
    (hw : OnTheWay p cwd place) (bytes : Bytes) : d.get? place ≠ some (.file bytes) := by
  intro hb
  cases (h.1.get?_of_some hb).symm.trans (h.2 place hw)

end Generation

end Scaffold
