import Mathlib.Data.List.Induction
import Scaffold.Proofs.Escapes
import Scaffold.Proofs.UnknownKeys

/-!
# Which configuration is used

Two files are asked for a configuration: the one in the working folder and, where that is blank, the
one at the root of the project, which is the nearest folder above the source that holds a marker. A
file that is there but has no value stops the search. Whatever else the disk holds has no influence;
in particular no folder above the nearest marked one is looked at.
-/

namespace Scaffold

theorem Disk.read_of_folder {d : Disk} {cwd p : Path} (h : d.entry? cwd p = some .folder) :
    d.read cwd p = .error .isFolder := by
  obtain ⟨hl, hg⟩ := Disk.entry?_eq_some_iff.mp h
  simp only [Disk.read, hl, hg, bind, Except.bind]
  rfl

open Script (Holds)
open Generation (Occupied)

variable {w w' : World} {p : Path} {v : Value} {bytes : Bytes}

theorem Script.Holds.occupied (h : Holds w p bytes) : Occupied w p :=
  ⟨h.1, by rw [h.2]; rfl⟩

theorem Script.Holds.unique {bytes' : Bytes} (h : Holds w p bytes) (h' : Holds w p bytes') :
    bytes = bytes' := by
  have same := h.2.symm.trans h'.2
  cases same
  rfl

theorem Generation.Occupied.cases (h : Occupied w p) :
    w.disk.entry? w.workingFolder p = some .folder ∨ ∃ bytes, Holds w p bytes := by
  obtain ⟨e, he⟩ := Option.isSome_iff_exists.mp h.2
  cases e with
  | folder => exact Or.inl he
  | file bytes => exact Or.inr ⟨bytes, h.1, he⟩

namespace Configuration

open Script

/-! ### What a configuration file says -/

/-- The contents are a text, and the text is a document with this value. -/
def Parses (bytes : Bytes) (v : Value) : Prop :=
  ∃ text, Text.Utf8.decodeStream bytes = .ok text ∧ Yaml.load text = .ok v

/-- There is a file at the path, and it has this value. -/
def Gives (w : World) (p : Path) (v : Value) : Prop :=
  ∃ bytes, Holds w p bytes ∧ Parses bytes v

/-- Nothing is at the path, or a file whose value counts as not given. -/
def Blank (w : World) (p : Path) : Prop :=
  ¬Occupied w p ∨ ∃ v, Gives w p v ∧ v.isTruthy = false

/-- Something is at the path, but it has no value: it is no file, no text or no document. -/
def Broken (w : World) (p : Path) : Prop :=
  Occupied w p ∧ ¬∃ v, Gives w p v

/-- What a text says is settled without looking at anything else. -/
theorem fst_run_valueOf_congr (p : Path) (bytes : Bytes) (w w' : World) :
    ((valueOf p bytes).run w).1 = ((valueOf p bytes).run w').1 := by
  have silent : (valueOf p bytes).Only (fun _ => False) fun _ => True := by
    refine (Only.ofExcept (fun _ => trivial) _).bind fun text => ?_
    split
    · exact .pure _
    · exact .fail trivial
    · exact .fail trivial
  exact silent.run_alike (fun _ _ => True) (fun _ hr => hr.elim) trivial

theorem valueOf_eq_ok_iff (p : Path) (bytes : Bytes) (w : World) (v : Value) :
    ((valueOf p bytes).run w).1 = .ok v ↔
      ∃ parsed, Parses bytes parsed ∧ parsed.orElse (.map []) = v := by
  unfold valueOf Parses
  cases ht : Text.Utf8.decodeStream bytes with
  | error f =>
    apply iff_of_false
    · intro h
      cases h
    · simp
  | ok text =>
    rw [run_bind_of_ok (show (ofExcept _ (.ok text)).run w = (.ok text, w) from rfl)]
    simp only [Except.ok.injEq, exists_eq_left']
    cases hl : Yaml.load text with
    | ok parsed =>
      simp only [run_pure, Except.ok.injEq]
      constructor
      · exact fun h => ⟨parsed, rfl, h⟩
      · rintro ⟨_, rfl, h⟩
        exact h
    | error f =>
      apply iff_of_false
      · intro h
        cases f <;> cases h
      · simp

theorem fst_run_read_of_absent (h : ¬Occupied w p) : ((read p).run w).1 = .ok (.map []) := by
  have absent : (isUsable p && (w.disk.entry? w.workingFolder p).isSome) = false := by
    rw [Bool.eq_false_iff, ne_eq, Bool.and_eq_true]
    exact h
  unfold read
  rw [run_bind_of_ok (Generation.run_present p w), absent]
  rfl

theorem run_read_of_occupied (h : Occupied w p) :
    (read p).run w = (match w.disk.read w.workingFolder p with
      | .ok contents => valueOf p contents
      | .error f => fail (.obstacle
          ⟨.unknown, s!"Failed to read configuration {p}: {f.message p}",
            some (.disk f)⟩)).run w := by
  unfold read
  rw [run_bind_of_ok (Generation.run_present p w), h.1, h.2]
  exact run_bind_of_ok (run_read h.1 w) _

theorem fst_run_read_of_file (h : Holds w p bytes) :
    ((read p).run w).1 = ((valueOf p bytes).run w).1 := by
  rw [run_read_of_occupied h.occupied, Disk.read_eq_ok_iff.mpr h.2]

theorem fst_run_read_of_folder (h : isUsable p = true)
    (he : w.disk.entry? w.workingFolder p = some .folder) :
    ((read p).run w).1 = .error (.obstacle
      ⟨.unknown, s!"Failed to read configuration {p}: {Disk.Fault.isFolder.message p}",
        some (.disk .isFolder)⟩) := by
  have occupied : Occupied w p := ⟨h, by rw [he]; rfl⟩
  rw [run_read_of_occupied occupied, Disk.read_of_folder he]
  rfl

theorem Gives.occupied (h : Gives w p v) : Occupied w p := by
  obtain ⟨bytes, holds, -⟩ := h
  exact holds.occupied

theorem gives_iff_of_holds (h : Holds w p bytes) (v : Value) : Gives w p v ↔ Parses bytes v := by
  constructor
  · rintro ⟨bytes', h', parses⟩
    rwa [h.unique h']
  · exact fun parses => ⟨bytes, h, parses⟩

theorem not_gives_of_folder (he : w.disk.entry? w.workingFolder p = some .folder) :
    ¬Gives w p v := by
  rintro ⟨bytes, holds, -⟩
  cases he.symm.trans holds.2

/-- Reading gives the value of the file, or the empty map where the file is blank. -/
theorem read_eq_ok_iff (w : World) (p : Path) (v : Value) :
    ((read p).run w).1 = .ok v ↔
      Gives w p v ∧ v.isTruthy = true ∨ Blank w p ∧ v = .map [] := by
  by_cases ho : Occupied w p
  · rcases ho.cases with he | ⟨bytes, holds⟩
    · rw [fst_run_read_of_folder ho.1 he]
      apply iff_of_false
      · intro h
        cases h
      · rintro (⟨gives, -⟩ | ⟨absent | ⟨v, gives, -⟩, -⟩)
        · exact not_gives_of_folder he gives
        · exact absent ho
        · exact not_gives_of_folder he gives
    · rw [fst_run_read_of_file holds, valueOf_eq_ok_iff]
      constructor
      · rintro ⟨parsed, parses, rfl⟩
        have gives := (gives_iff_of_holds holds parsed).mpr parses
        unfold Value.orElse
        cases ht : parsed.isTruthy with
        | true => exact Or.inl ⟨gives, ht⟩
        | false => exact Or.inr ⟨Or.inr ⟨parsed, gives, ht⟩, rfl⟩
      · rintro (⟨gives, ht⟩ | ⟨absent | ⟨parsed, gives, ht⟩, rfl⟩)
        · exact ⟨v, (gives_iff_of_holds holds v).mp gives, by simp [Value.orElse, ht]⟩
        · exact absurd ho absent
        · exact ⟨parsed, (gives_iff_of_holds holds parsed).mp gives, by simp [Value.orElse, ht]⟩
  · rw [fst_run_read_of_absent ho]
    constructor
    · intro h
      exact Or.inr ⟨Or.inl ho, (Except.ok.inj h).symm⟩
    · rintro (⟨gives, -⟩ | ⟨-, rfl⟩)
      · exact absurd gives.occupied ho
      · rfl

theorem read_eq_empty_iff (w : World) (p : Path) :
    ((read p).run w).1 = .ok (.map []) ↔ Blank w p := by
  rw [read_eq_ok_iff]
  constructor
  · rintro (⟨-, ht⟩ | ⟨blank, -⟩)
    · cases ht
    · exact blank
  · exact fun blank => Or.inr ⟨blank, rfl⟩

theorem broken_iff (w : World) (p : Path) :
    Broken w p ↔ ¬Blank w p ∧ ¬∃ v, Gives w p v ∧ v.isTruthy = true := by
  constructor
  · rintro ⟨occupied, none⟩
    refine ⟨?_, fun ⟨v, gives, _⟩ => none ⟨v, gives⟩⟩
    rintro (absent | ⟨v, gives, -⟩)
    · exact absent occupied
    · exact none ⟨v, gives⟩
  · rintro ⟨blank, none⟩
    refine ⟨Classical.byContradiction fun absent => blank (Or.inl absent), ?_⟩
    rintro ⟨v, gives⟩
    cases ht : v.isTruthy with
    | true => exact none ⟨v, gives, ht⟩
    | false => exact blank (Or.inr ⟨v, gives, ht⟩)

theorem read_eq_error_iff (w : World) (p : Path) :
    (∃ f, ((read p).run w).1 = .error f) ↔ Broken w p := by
  rw [broken_iff]
  cases hr : ((read p).run w).1 with
  | error f =>
    apply iff_of_true ⟨f, rfl⟩
    constructor
    · intro blank
      rw [(read_eq_empty_iff w p).mpr blank] at hr
      cases hr
    · rintro ⟨v, given⟩
      rw [(read_eq_ok_iff w p v).mpr (Or.inl given)] at hr
      cases hr
  | ok v =>
    apply iff_of_false
    · rintro ⟨f, hf⟩
      cases hf
    · rintro ⟨blank, none⟩
      rcases (read_eq_ok_iff w p v).mp hr with given | ⟨hb, -⟩
      · exact none ⟨v, given⟩
      · exact blank hb

/-- The path leads to the same thing in both worlds, if it can be used at all. -/
def Alike (w w' : World) (p : Path) : Prop :=
  isUsable p = true → w.disk.entry? w.workingFolder p = w'.disk.entry? w'.workingFolder p

theorem Alike.occupied_iff (h : Alike w w' p) : Occupied w p ↔ Occupied w' p := by
  unfold Occupied
  apply and_congr_right
  intro hu
  rw [h hu]

theorem Alike.fst_run_read (h : Alike w w' p) : ((read p).run w).1 = ((read p).run w').1 := by
  by_cases ho : Occupied w p
  · rcases ho.cases with he | ⟨bytes, holds⟩
    · rw [fst_run_read_of_folder ho.1 he, fst_run_read_of_folder ho.1 ((h ho.1).symm.trans he)]
    · have holds' : Holds w' p bytes := ⟨ho.1, (h ho.1).symm.trans holds.2⟩
      rw [fst_run_read_of_file holds, fst_run_read_of_file holds', fst_run_valueOf_congr]
  · rw [fst_run_read_of_absent ho, fst_run_read_of_absent fun ho' => ho (h.occupied_iff.mpr ho')]

/-! ### The root of the project -/

/-- The folder holds one of the files that mark a project. -/
def Marked (w : World) (folder : Path) : Prop :=
  ∃ marker ∈ markers, Occupied w (folder.join marker)

def isMarked (w : World) (folder : Path) : Bool :=
  (markers.map folder.join).any fun p =>
    isUsable p && (w.disk.entry? w.workingFolder p).isSome

theorem isMarked_iff (w : World) (folder : Path) : isMarked w folder = true ↔ Marked w folder := by
  simp [isMarked, Marked, Occupied, List.any_map]

theorem run_anyPresent (ps : List Path) (w : World) :
    (firstMarked.anyPresent ps).run w =
      (.ok (ps.any fun p => isUsable p && (w.disk.entry? w.workingFolder p).isSome), w) := by
  induction ps with
  | nil => rfl
  | cons p ps ih =>
    rw [firstMarked.anyPresent, run_bind_of_ok (Generation.run_present p w)]
    cases hp : isUsable p && (w.disk.entry? w.workingFolder p).isSome with
    | true => simp [hp]
    | false => simpa [hp] using ih

theorem run_firstMarked (folders : List Path) (w : World) :
    (firstMarked folders).run w = (.ok (folders.find? (isMarked w)), w) := by
  induction folders with
  | nil => rfl
  | cons folder folders ih =>
    rw [firstMarked, run_bind_of_ok (run_anyPresent _ w), List.find?_cons]
    cases hm : isMarked w folder with
    | true =>
      rw [isMarked] at hm
      simp [hm]
    | false =>
      rw [isMarked] at hm
      simpa [hm] using ih

/-- The folder lies above the place. -/
def Above (folder place : List String) : Prop :=
  folder <+: place ∧ folder ≠ place

/-- On the way up from the place the folder is reached before any other folder that is marked. -/
def Reached (w : World) (place folder : List String) : Prop :=
  Above folder place ∧
    ∀ nearer, Above folder nearer → Above nearer place → ¬Marked w ⟨.single, nearer⟩

/-- The folder is the nearest one above the place that is marked. -/
def IsRoot (w : World) (place folder : List String) : Prop :=
  Reached w place folder ∧ Marked w ⟨.single, folder⟩

theorem Above.length_lt {folder place : List String} (h : Above folder place) :
    folder.length < place.length := by
  have shorter := h.1.length_le
  have other : folder.length ≠ place.length := fun same => h.2 (h.1.eq_of_length same)
  omega

theorem above_concat_iff (folder place : List String) (name : String) :
    Above folder (place ++ [name]) ↔ folder = place ∨ Above folder place := by
  unfold Above
  rw [List.prefix_concat_iff]
  constructor
  · rintro ⟨rfl | above, other⟩
    · exact absurd rfl other
    · by_cases same : folder = place
      · exact Or.inl same
      · exact Or.inr ⟨above, same⟩
  · rintro (rfl | ⟨above, -⟩)
    · exact ⟨Or.inr (List.prefix_refl _), by simp⟩
    · refine ⟨Or.inr above, ?_⟩
      rintro rfl
      exact absurd above.length_le (by simp)

/-- One step up: the folder just above is reached at once, the others only past it. -/
theorem reached_concat_iff (w : World) (folder place : List String) (name : String) :
    Reached w (place ++ [name]) folder ↔
      folder = place ∨ ¬Marked w ⟨.single, place⟩ ∧ Reached w place folder := by
  unfold Reached
  simp only [above_concat_iff]
  constructor
  · rintro ⟨rfl | above, unmarked⟩
    · exact Or.inl rfl
    · refine Or.inr ⟨unmarked place above (Or.inl rfl), above, ?_⟩
      intro nearer below above'
      exact unmarked nearer below (Or.inr above')
  · rintro (rfl | ⟨unmarked, above, nearest⟩)
    · refine ⟨Or.inl rfl, ?_⟩
      rintro nearer below (rfl | above)
      · exact absurd rfl below.2
      · have := below.length_lt
        have := above.length_lt
        omega
    · refine ⟨Or.inr above, ?_⟩
      rintro nearer below (rfl | above')
      · exact unmarked
      · exact nearest nearer below above'

theorem parents_concat (root : Path.Root) (place : List String) (name : String) :
    (⟨root, place ++ [name]⟩ : Path).parents = ⟨root, place⟩ :: (⟨root, place⟩ : Path).parents := by
  have taken (n : Nat) (hn : n ≤ place.length) : (place ++ [name]).take n = place.take n :=
    List.take_append_of_le_length hn
  simp only [Path.parents, List.length_append, List.length_singleton, List.range_succ,
    List.reverse_append, List.reverse_singleton, List.singleton_append, List.map_cons]
  rw [taken _ (Nat.le_refl _), List.take_length]
  congr 1
  apply List.map_congr_left
  intro n hn
  rw [List.mem_reverse, List.mem_range] at hn
  rw [taken n (Nat.le_of_lt hn)]

theorem find?_parents_iff (w : World) (place : List String) (folder : Path) :
    (⟨.single, place⟩ : Path).parents.find? (isMarked w) = some folder ↔
      ∃ names, folder = ⟨.single, names⟩ ∧ IsRoot w place names := by
  unfold IsRoot
  induction place using List.reverseRecOn with
  | nil =>
    apply iff_of_false
    · simp [Path.parents]
    · rintro ⟨names, -, ⟨above, -⟩, -⟩
      exact absurd above.length_lt (by simp)
  | append_singleton place name ih =>
    simp only [reached_concat_iff]
    rw [parents_concat, List.find?_cons]
    cases hm : isMarked w ⟨.single, place⟩ with
    | true =>
      have marked := (isMarked_iff w _).mp hm
      simp only [Option.some.injEq, marked, not_true_eq_false, false_and, or_false]
      constructor
      · rintro rfl
        exact ⟨place, rfl, rfl, marked⟩
      · rintro ⟨_, rfl, rfl, -⟩
        rfl
    | false =>
      have unmarked : ¬Marked w ⟨.single, place⟩ := by
        rw [← isMarked_iff, hm]
        simp
      simp only [unmarked, not_false_eq_true, true_and]
      rw [ih]
      constructor
      · rintro ⟨names, hf, reached, marked⟩
        exact ⟨names, hf, Or.inr reached, marked⟩
      · rintro ⟨names, hf, rfl | reached, marked⟩
        · exact absurd marked unmarked
        · exact ⟨names, hf, reached, marked⟩

/-- Only the folders up to the root decide which one it is. -/
theorem find?_parents_congr {place : List String}
    (h : ∀ names, Reached w place names →
      (Marked w ⟨.single, names⟩ ↔ Marked w' ⟨.single, names⟩)) :
    (⟨.single, place⟩ : Path).parents.find? (isMarked w) =
      (⟨.single, place⟩ : Path).parents.find? (isMarked w') := by
  induction place using List.reverseRecOn with
  | nil => rfl
  | append_singleton place name ih =>
    simp only [reached_concat_iff] at h
    have first : isMarked w ⟨.single, place⟩ = isMarked w' ⟨.single, place⟩ := by
      rw [Bool.eq_iff_iff, isMarked_iff, isMarked_iff]
      exact h place (Or.inl rfl)
    rw [parents_concat, List.find?_cons, List.find?_cons, ← first]
    cases hm : isMarked w ⟨.single, place⟩ with
    | true => rfl
    | false =>
      apply ih
      intro names reached
      refine h names (Or.inr ⟨?_, reached⟩)
      rw [← isMarked_iff, hm]
      simp

/-! ### The search -/

variable {source : Path}

/-- The configuration file of a folder, given by its names from the top. -/
def fileIn (folder : List String) : Path :=
  (⟨.single, folder⟩ : Path).join fileName

theorem fst_run_find_of_ok (h : ((read fileName).run w).1 = .ok v) (ht : v.isTruthy = true)
    (source : Path) : ((find source).run w).1 = .ok v := by
  unfold find
  rw [Command.fst_run_bind_of_found (read_looks fileName) h, if_pos ht]
  rfl

theorem fst_run_find_of_error {f : Failure} (h : ((read fileName).run w).1 = .error f)
    (source : Path) : ((find source).run w).1 = .error f := by
  unfold find
  rw [Command.fst_run_bind_of_looks (read_looks fileName), h]
  rfl

theorem fst_run_find_of_blank (h : Blank w fileName) (source : Path) :
    ((find source).run w).1 =
      if isUsable source = true then
        match (⟨.single, w.workingFolder.resolve source⟩ : Path).parents.find? (isMarked w) with
        | some root => ((read (root.join fileName)).run w).1
        | none => .ok (.map [])
      else .error .badName := by
  have here := (read_eq_empty_iff w fileName).mpr h
  unfold find
  rw [Command.fst_run_bind_of_found (read_looks fileName) here]
  have empty : ¬(Value.map []).isTruthy = true := by decide
  rw [if_neg empty]
  by_cases hu : isUsable source = true
  · have resolved : (resolved source).run w =
        (.ok ⟨.single, w.workingFolder.resolve source⟩, w) := by
      unfold resolved
      rw [if_pos hu]
      rfl
    rw [if_pos hu, run_bind_of_ok resolved, projectRoot, run_bind_of_ok (run_firstMarked _ w)]
    cases (⟨.single, w.workingFolder.resolve source⟩ : Path).parents.find? (isMarked w) <;> rfl
  · have unresolved : (resolved source).run w = (.error .badName, w) := by
      unfold resolved
      rw [if_neg hu]
      rfl
    rw [if_neg hu, run_bind_of_error unresolved]

/-- The value that the search for a configuration comes to. -/
inductive Used (w : World) (source : Path) : Value → Prop where
  | here {v : Value} (hv : Gives w fileName v) (ht : v.isTruthy = true) : Used w source v
  | project {folder : List String} {v : Value} (hb : Blank w fileName)
      (hu : isUsable source = true) (hr : IsRoot w (w.workingFolder.resolve source) folder)
      (hv : Gives w (fileIn folder) v) (ht : v.isTruthy = true) : Used w source v
  | nothing (hb : Blank w fileName) (hu : isUsable source = true)
      (hn : ∀ folder, IsRoot w (w.workingFolder.resolve source) folder →
        Blank w (fileIn folder)) : Used w source (.map [])

/-- The search comes to no value: it meets a file that has none, or the source has no place. -/
inductive Stopped (w : World) (source : Path) : Prop where
  | here (hb : Broken w fileName) : Stopped w source
  | project {folder : List String} (hb : Blank w fileName) (hu : isUsable source = true)
      (hr : IsRoot w (w.workingFolder.resolve source) folder) (hv : Broken w (fileIn folder)) :
      Stopped w source
  | nowhere (hb : Blank w fileName) (hu : isUsable source = false) : Stopped w source

/-- Where the search goes on to the project, its root decides, if there is one. -/
theorem fst_run_find_of_project (hb : Blank w fileName) (hu : isUsable source = true) :
    (∃ folder, IsRoot w (w.workingFolder.resolve source) folder ∧
      ((find source).run w).1 = ((read (fileIn folder)).run w).1) ∨
    (∀ folder, ¬IsRoot w (w.workingFolder.resolve source) folder) ∧
      ((find source).run w).1 = .ok (.map []) := by
  rw [fst_run_find_of_blank hb, if_pos hu]
  cases hf : (⟨.single, w.workingFolder.resolve source⟩ : Path).parents.find? (isMarked w) with
  | some root =>
    obtain ⟨folder, rfl, hr⟩ := (find?_parents_iff w _ root).mp hf
    exact Or.inl ⟨folder, hr, rfl⟩
  | none =>
    refine Or.inr ⟨fun folder hr => ?_, rfl⟩
    rw [(find?_parents_iff w _ _).mpr ⟨folder, rfl, hr⟩] at hf
    cases hf

theorem IsRoot.unique {place folder folder' : List String} (h : IsRoot w place folder)
    (h' : IsRoot w place folder') : folder = folder' := by
  have found := (find?_parents_iff w place _).mpr ⟨folder, rfl, h⟩
  have found' := (find?_parents_iff w place _).mpr ⟨folder', rfl, h'⟩
  have same := Option.some.inj (found.symm.trans found')
  exact congrArg Path.names same

theorem find_eq_ok_of_used (h : Used w source v) : ((find source).run w).1 = .ok v := by
  cases h with
  | here hv ht =>
    exact fst_run_find_of_ok ((read_eq_ok_iff w fileName v).mpr (Or.inl ⟨hv, ht⟩)) ht source
  | @project folder _ hb hu hr hv ht =>
    obtain ⟨folder', hr', run⟩ | ⟨none, -⟩ := fst_run_find_of_project hb hu
    · rw [run, hr'.unique hr, read_eq_ok_iff]
      exact Or.inl ⟨hv, ht⟩
    · exact absurd hr (none folder)
  | nothing hb hu hn =>
    obtain ⟨folder, hr, run⟩ | ⟨-, run⟩ := fst_run_find_of_project hb hu
    · rw [run, read_eq_empty_iff]
      exact hn folder hr
    · exact run

theorem find_eq_error_of_stopped (h : Stopped w source) :
    ∃ f, ((find source).run w).1 = .error f := by
  cases h with
  | here hb =>
    obtain ⟨f, hf⟩ := (read_eq_error_iff w fileName).mpr hb
    exact ⟨f, fst_run_find_of_error hf source⟩
  | @project folder hb hu hr hv =>
    obtain ⟨folder', hr', run⟩ | ⟨none, -⟩ := fst_run_find_of_project hb hu
    · rw [run, hr'.unique hr]
      exact (read_eq_error_iff w _).mpr hv
    · exact absurd hr (none folder)
  | nowhere hb hu =>
    rw [fst_run_find_of_blank hb, if_neg (by simp [hu])]
    exact ⟨_, rfl⟩

/-- Each file on the way has a value that counts, is blank or is broken. -/
theorem used_or_stopped (w : World) (source : Path) :
    (∃ v, Used w source v) ∨ Stopped w source := by
  have split (p : Path) :
      (∃ v, Gives w p v ∧ v.isTruthy = true) ∨ Blank w p ∨ Broken w p := by
    by_cases given : ∃ v, Gives w p v ∧ v.isTruthy = true
    · exact Or.inl given
    · by_cases blank : Blank w p
      · exact Or.inr (Or.inl blank)
      · exact Or.inr (Or.inr ((broken_iff w p).mpr ⟨blank, given⟩))
  obtain ⟨v, hv, ht⟩ | hb | hb := split fileName
  · exact Or.inl ⟨v, .here hv ht⟩
  · cases hu : isUsable source with
    | false => exact Or.inr (.nowhere hb hu)
    | true =>
      by_cases root : ∃ folder, IsRoot w (w.workingFolder.resolve source) folder
      · obtain ⟨folder, hr⟩ := root
        obtain ⟨v, hv, ht⟩ | blank | broken := split (fileIn folder)
        · exact Or.inl ⟨v, .project hb hu hr hv ht⟩
        · refine Or.inl ⟨_, .nothing hb hu fun folder' hr' => ?_⟩
          rwa [hr'.unique hr]
        · exact Or.inr (.project hb hu hr broken)
      · exact Or.inl ⟨_, .nothing hb hu fun folder hr => absurd ⟨folder, hr⟩ root⟩
  · exact Or.inr (.here hb)

theorem find_eq_ok_iff (w : World) (source : Path) (v : Value) :
    ((find source).run w).1 = .ok v ↔ Used w source v := by
  refine ⟨fun h => ?_, find_eq_ok_of_used⟩
  obtain ⟨v', used⟩ | stopped := used_or_stopped w source
  · rw [find_eq_ok_of_used used] at h
    cases h
    exact used
  · obtain ⟨f, hf⟩ := find_eq_error_of_stopped stopped
    rw [hf] at h
    cases h

theorem find_eq_error_iff (w : World) (source : Path) :
    (∃ f, ((find source).run w).1 = .error f) ↔ Stopped w source := by
  refine ⟨fun ⟨f, h⟩ => ?_, find_eq_error_of_stopped⟩
  obtain ⟨v, used⟩ | stopped := used_or_stopped w source
  · rw [find_eq_ok_of_used used] at h
    cases h
  · exact stopped

/-! ### What the search does not depend on -/

/-- The worlds do not differ in what the search looks at: the file in the working folder and, where
that is blank, the markers up to the root of the project and the file at this root. -/
structure SameSearch (w w' : World) (source : Path) : Prop where
  workingFolder : w.workingFolder = w'.workingFolder
  here : Alike w w' fileName
  markers : Blank w fileName → ∀ folder, Reached w (w.workingFolder.resolve source) folder →
    ∀ marker ∈ Configuration.markers,
      (Occupied w ((⟨.single, folder⟩ : Path).join marker) ↔
        Occupied w' ((⟨.single, folder⟩ : Path).join marker))
  root : Blank w fileName → ∀ folder, IsRoot w (w.workingFolder.resolve source) folder →
    Alike w w' (fileIn folder)

theorem SameSearch.fst_run_find (h : SameSearch w w' source) :
    ((find source).run w').1 = ((find source).run w).1 := by
  have here := h.here.fst_run_read
  by_cases hb : Blank w fileName
  · have hb' : Blank w' fileName := by
      rwa [← read_eq_empty_iff, ← here, read_eq_empty_iff]
    have same := find?_parents_congr fun folder reached =>
      exists_congr fun marker => and_congr_right fun hm => h.markers hb folder reached marker hm
    rw [fst_run_find_of_blank hb, fst_run_find_of_blank hb', ← h.workingFolder, ← same]
    cases hf : (⟨.single, w.workingFolder.resolve source⟩ : Path).parents.find? (isMarked w) with
    | none => rfl
    | some root =>
      obtain ⟨folder, rfl, hr⟩ := (find?_parents_iff w _ root).mp hf
      have read := (h.root hb folder hr).fst_run_read
      unfold fileIn at read
      simp only [read]
  · cases hr : ((read fileName).run w).1 with
    | error f =>
      rw [fst_run_find_of_error hr, fst_run_find_of_error (here.symm.trans hr)]
    | ok v =>
      have ht := (((read_eq_ok_iff w fileName v).mp hr).resolve_right fun h => hb h.1).2
      rw [fst_run_find_of_ok hr ht, fst_run_find_of_ok (here.symm.trans hr) ht]

/-- Settings are loaded from the value of the configuration file in the working folder, if that
counts as given; where the file is blank, from the value of the one at the root of the project,
which is the nearest marked folder above the source; and from the empty map where there is no such
folder or its file is blank too. A file that is there and has no value stops the loading in either
place, and so does a source whose path no file can have, where its place is asked for. Worlds that
differ in nothing that the search looks at cannot be told apart by the outcome. -/
theorem nearest_configuration_is_used (source : Path) (language : Language) (w : World) :
    (∀ raw, ((find source).run w).1 = .ok raw ↔ Used w source raw) ∧
    ((∃ f, ((find source).run w).1 = .error f) ↔ Stopped w source) ∧
    (((load source language none).run w).1 = ((find source).run w).1.bind fun raw =>
      (Settings.interpret raw language).2.mapError .unorderable) ∧
    ∀ w', SameSearch w w' source →
      ((load source language none).run w').1 = ((load source language none).run w).1 := by
  have loaded (w : World) : ((load source language none).run w).1 =
      ((find source).run w).1.bind fun raw =>
        (Settings.interpret raw language).2.mapError .unorderable :=
    fst_run_load source language none w
  refine ⟨find_eq_ok_iff w source, find_eq_error_iff w source, loaded w, ?_⟩
  intro w' same
  rw [loaded w, loaded w', same.fst_run_find]

/-- A project in a project. The outer one has a configuration of the given text, the inner one has
one of its own, and the file in the working folder is empty. -/
def nestedProject (outer : String) : World where
  disk := ⟨[(["proj"], .folder), (["proj", "package.json"], .file []),
    (["proj", "config.yaml"], .file (Text.Utf8.encode outer)), (["proj", "lib"], .folder),
    (["proj", "lib", "tsconfig.json"], .file []),
    (["proj", "lib", "config.yaml"], .file (Text.Utf8.encode "suffix: unit\n")),
    (["proj", "lib", "src"], .folder), (["proj", "app"], .folder),
    (["proj", "app", "config.yaml"], .file [])]⟩
  workingFolder := ⟨.single, ["proj", "app"]⟩

theorem read_of_agrees {raw : Value}
    (h : ((read p).run w).1.toOption.any (agrees 2 raw) = true) :
    ((read p).run w).1 = .ok raw :=
  @value_of_agrees p (some p) w raw h

/-- The outer configuration is not even a document, and any other in its place would change
nothing. -/
theorem nestedProject_configured :
    ((find (.ofString "../lib/src/m.ts")).run (nestedProject "a: [")).1 =
      .ok (.map [(.text "suffix", .text "unit")]) ∧
    ((load (.ofString "../lib/src/m.ts") .typescript none).run (nestedProject "suffix: far")).1 =
      ((load (.ofString "../lib/src/m.ts") .typescript none).run (nestedProject "a: [")).1 := by
  let source : Path := .ofString "../lib/src/m.ts"
  let w := nestedProject "a: ["
  obtain ⟨used, -, -, same⟩ := nearest_configuration_is_used source .typescript w
  have blank : Blank w fileName :=
    (read_eq_empty_iff w fileName).mp (read_of_agrees (by decide +kernel))
  have found : (⟨.single, w.workingFolder.resolve source⟩ : Path).parents.find? (isMarked w) =
      some ⟨.single, ["proj", "lib"]⟩ := by decide +kernel
  obtain ⟨folder, hf, root⟩ := (find?_parents_iff w _ _).mp found
  cases hf
  have gives : Gives w (fileIn ["proj", "lib"]) (.map [(.text "suffix", .text "unit")]) := by
    have read : ((read (fileIn ["proj", "lib"])).run w).1 =
        .ok (.map [(.text "suffix", .text "unit")]) := read_of_agrees (by decide +kernel)
    rcases (read_eq_ok_iff _ _ _).mp read with ⟨gives, -⟩ | ⟨-, other⟩
    · exact gives
    · simp at other
  constructor
  · exact (used _).mpr (.project blank (by decide) root gives rfl)
  · refine same _ ⟨rfl, fun _ => rfl, ?_, ?_⟩
    · intro _ folder reached marker hm
      -- the way up is `src`, without a marker, and then `lib`, with one
      have place : w.workingFolder.resolve source = ["proj", "lib"] ++ ["src"] ++ ["m.ts"] := by
        decide +kernel
      rw [place, reached_concat_iff, reached_concat_iff] at reached
      rcases reached with rfl | ⟨-, rfl | ⟨unmarked, -⟩⟩
      · simp only [markers, List.mem_cons, List.not_mem_nil, or_false] at hm
        rcases hm with rfl | rfl <;> exact Iff.rfl
      · simp only [markers, List.mem_cons, List.not_mem_nil, or_false] at hm
        rcases hm with rfl | rfl <;> exact Iff.rfl
      · exact absurd root.2 unmarked
    · intro _ folder root'
      rw [root'.unique root]
      exact fun _ => rfl

/-- A project with a marker and a configuration that is not a document. In the working folder there
is none. -/
def brokenProject : World where
  disk := ⟨[(["proj"], .folder), (["proj", "package.json"], .file []),
    (["proj", "config.yaml"], .file (Text.Utf8.encode "suffix: [unit\n")),
    (["proj", "src"], .folder)]⟩
  workingFolder := ⟨.single, ["proj", "src"]⟩

/-- The configuration of the project has no value, and yet the search does not come to the empty
map. -/
theorem brokenProject_stops_loading :
    ¬Occupied brokenProject fileName ∧ IsRoot brokenProject ["proj", "src", "m.ts"] ["proj"] ∧
      (¬∃ v, Gives brokenProject (fileIn ["proj"]) v) ∧
      ((find (.ofString "m.ts")).run brokenProject).1 ≠ .ok (.map []) ∧
      ∃ f, ((load (.ofString "m.ts") .typescript none).run brokenProject).1 = .error f := by
  have absent : ¬Occupied brokenProject fileName := by
    unfold Occupied
    decide +kernel
  have found : (⟨.single, ["proj", "src", "m.ts"]⟩ : Path).parents.find? (isMarked brokenProject) =
      some ⟨.single, ["proj"]⟩ := by decide +kernel
  obtain ⟨folder, hf, root⟩ := (find?_parents_iff brokenProject _ _).mp found
  cases hf
  have unread : ((read (fileIn ["proj"])).run brokenProject).1.isOk = false := by decide +kernel
  have place : brokenProject.workingFolder.resolve (.ofString "m.ts") =
      ["proj", "src", "m.ts"] := by decide +kernel
  have broken : Broken brokenProject (fileIn ["proj"]) := by
    apply (read_eq_error_iff _ _).mp
    cases hr : ((read (fileIn ["proj"])).run brokenProject).1 with
    | error f => exact ⟨f, rfl⟩
    | ok v =>
      rw [hr] at unread
      cases unread
  have stopped : Stopped brokenProject (.ofString "m.ts") :=
    .project (Or.inl absent) (by decide) (place ▸ root) broken
  obtain ⟨f, hf⟩ := find_eq_error_of_stopped stopped
  refine ⟨absent, root, broken.2, ?_, f, ?_⟩
  · rw [hf]
    simp
  · have loaded := fst_run_load (.ofString "m.ts") .typescript none brokenProject
    rw [loaded]
    change ((find (.ofString "m.ts")).run brokenProject).1.bind _ = _
    rw [hf]
    rfl

end Configuration

end Scaffold
