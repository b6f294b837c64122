import Scaffold.Proofs.TargetPaths

/-!
# Ways from one place to another

Resolved paths are the nodes of a tree, and each name of a way moves by one edge at most: double
dots go up, any other name goes down. `between` goes up to the last name that start and goal share
and then down, which is the way along the tree; no other way can have fewer names. A specifier is
this way written out, and reading it as a path gives the names back.
-/

namespace Scaffold.Path

/-! ### What two lists of names share -/

theorem common_le (a b : List String) : common a b ≤ a.length ∧ common a b ≤ b.length := by
  induction a generalizing b with
  | nil => simp [common]
  | cons x a ih =>
    cases b with
    | nil => simp [common]
    | cons y b =>
      have := ih b
      simp only [common, List.length_cons]
      split <;> omega

theorem take_common (a b : List String) : a.take (common a b) = b.take (common a b) := by
  induction a generalizing b with
  | nil => simp [common]
  | cons x a ih =>
    cases b with
    | nil => simp [common]
    | cons y b =>
      by_cases h : x = y
      · simp [common, h, ih b]
      · simp [common, h]

theorem length_le_common {other a b : List String} (ha : other <+: a) (hb : other <+: b) :
    other.length ≤ common a b := by
  induction other generalizing a b with
  | nil => simp
  | cons x other ih =>
    obtain ⟨restA, rfl⟩ := ha
    obtain ⟨restB, rfl⟩ := hb
    have := ih (List.prefix_append other restA) (List.prefix_append other restB)
    simp only [List.cons_append, common, beq_self_eq_true, if_true, List.length_cons]
    omega

theorem common_self (a : List String) : common a a = a.length := by
  have := length_le_common (List.prefix_refl a) (List.prefix_refl a)
  have := common_le a a
  omega

theorem common_le_append (a b : List String) (x : String) : common a b ≤ common (a ++ [x]) b := by
  have shared : a.take (common a b) <+: b := take_common a b ▸ List.take_prefix _ _
  have begun : a.take (common a b) <+: a ++ [x] :=
    (List.take_prefix _ _).trans (List.prefix_append a [x])
  have := length_le_common begun shared
  have := common_le a b
  simp only [List.length_take] at *
  omega

theorem common_append_le (a b : List String) (x : String) :
    common (a ++ [x]) b ≤ common a b + 1 := by
  induction a generalizing b with
  | nil =>
    have := (common_le [x] b).1
    simpa [common] using this
  | cons y a ih =>
    cases b with
    | nil => simp [common]
    | cons z b =>
      have := ih b
      simp only [List.cons_append, common]
      split <;> omega

/-! ### Going up and down -/

theorem foldl_climb_of_names {names : List String} (h : ".." ∉ names) (reversed : List String) :
    names.foldl climb reversed = names.reverse ++ reversed := by
  induction names generalizing reversed with
  | nil => rfl
  | cons name names ih =>
    have hn : name ≠ ".." := fun he => h (he ▸ List.mem_cons_self)
    rw [List.foldl_cons, ih fun hm => h (List.mem_cons_of_mem name hm)]
    simp [climb, hn]

theorem foldl_climb_up (n : Nat) (reversed : List String) :
    (List.replicate n "..").foldl climb reversed = reversed.drop n := by
  induction n generalizing reversed with
  | zero => rfl
  | succ n ih => simp [List.replicate_succ, climb, ih, List.drop_tail]

theorem mem_foldl_climb {names reversed : List String} {name : String}
    (h : name ∈ names.foldl climb reversed) : name ∈ reversed ∨ name ∈ names ∧ name ≠ ".." := by
  induction names generalizing reversed with
  | nil => exact Or.inl h
  | cons first names ih =>
    rcases ih h with hm | ⟨hm, hn⟩
    · unfold climb at hm
      split at hm
      · exact Or.inl (List.mem_of_mem_tail hm)
      · rcases List.mem_cons.mp hm with rfl | hm
        · exact Or.inr ⟨List.mem_cons_self, by simp_all⟩
        · exact Or.inl hm
    · exact Or.inr ⟨List.mem_cons_of_mem first hm, hn⟩

theorem mem_normalize {names : List String} {name : String} (h : name ∈ normalize names) :
    name ∈ names ∧ name ≠ ".." := by
  simpa using mem_foldl_climb (List.mem_reverse.mp h)

theorem up_not_mem_resolve (cwd p : Path) : ".." ∉ cwd.resolve p :=
  fun h => (mem_normalize h).2 rfl

theorem normalize_append {start : List String} (h : ".." ∉ start) (way : List String) :
    normalize (start ++ way) = (way.foldl climb start.reverse).reverse := by
  rw [normalize, List.foldl_append, foldl_climb_of_names h, List.append_nil]

theorem normalize_append_between {start goal : List String} (hs : ".." ∉ start)
    (hg : ".." ∉ goal) : normalize (start ++ between start goal) = goal := by
  -- going up leaves what is shared, and the rest of the goal is put behind it
  have down : ".." ∉ goal.drop (common start goal) := fun h => hg (List.mem_of_mem_drop h)
  have up : (start.reverse.drop (start.length - common start goal)).reverse =
      start.take (common start goal) := by
    have := common_le start goal
    rw [List.drop_reverse, List.reverse_reverse]
    congr 1
    omega
  rw [normalize_append hs, between, List.foldl_append, foldl_climb_up, foldl_climb_of_names down,
    List.reverse_append, List.reverse_reverse, up, take_common, List.take_append_drop]

/-! ### No shorter way -/

theorem length_between (start goal : List String) :
    (between start goal).length =
      (start.length - common start goal) + (goal.length - common start goal) := by
  simp [between]

/-- One name of a way brings the goal nearer by one at most. -/
theorem length_between_climb (reversed goal : List String) (name : String) :
    (between reversed.reverse goal).length ≤
      (between (climb reversed name).reverse goal).length + 1 := by
  by_cases hn : name = ".."
  · cases reversed with
    -- at the top double dots stay where they are
    | nil => simp [climb, hn]
    | cons x rest =>
      have := common_le_append rest.reverse goal x
      simp only [climb, hn, beq_self_eq_true, if_true, List.tail_cons, List.reverse_cons,
        length_between, List.length_append, List.length_singleton]
      omega
  · have := common_append_le reversed.reverse goal name
    have := common_le reversed.reverse goal
    simp only [climb, hn, beq_iff_eq, if_false, List.reverse_cons, length_between,
      List.length_append, List.length_singleton]
    omega

theorem length_between_le_of_foldl {way reversed goal : List String}
    (h : way.foldl climb reversed = goal.reverse) :
    (between reversed.reverse goal).length ≤ way.length := by
  induction way generalizing reversed with
  | nil =>
    have hr : reversed.reverse = goal := by
      rw [show reversed = goal.reverse from h, List.reverse_reverse]
    simp [hr, length_between, common_self]
  | cons name way ih =>
    have := ih h
    have := length_between_climb reversed goal name
    simp only [List.length_cons]
    omega

theorem length_between_le {start goal way : List String} (hs : ".." ∉ start)
    (h : normalize (start ++ way) = goal) : (between start goal).length ≤ way.length := by
  rw [normalize_append hs] at h
  have := length_between_le_of_foldl (List.reverse_eq_iff.mp h)
  rwa [List.reverse_reverse] at this

/-! ### Ways as texts -/

/-- The names are such as a path can have that is read from a text: not empty, no single dot, and
without a slash. -/
def Proper (p : Path) : Prop :=
  ∀ name ∈ p.names, isName name.toList = true ∧ '/' ∉ name.toList

theorem proper_ofString (s : String) : (ofString s).Proper := by
  intro name hn
  refine ⟨?_, plain_ofString s name hn⟩
  simp only [ofString, List.mem_map, List.mem_filter] at hn
  obtain ⟨piece, ⟨-, hp⟩, rfl⟩ := hn
  rwa [String.toList_ofList]

theorem Proper.parent {p : Path} (h : p.Proper) : p.parent.Proper :=
  fun name hn => h name (List.dropLast_subset _ hn)

theorem Proper.join {p q : Path} (hp : p.Proper) (hq : q.Proper) : (p.join q).Proper := by
  unfold Path.join
  split
  · exact hq
  · intro name hn
    rcases List.mem_append.mp hn with hn | hn
    · exact hp name hn
    · exact hq name hn

theorem Proper.resolve {cwd p : Path} (hc : cwd.Proper) (hp : p.Proper) :
    ∀ name ∈ cwd.resolve p, isName name.toList = true ∧ '/' ∉ name.toList :=
  fun name hn => hc.join hp name (mem_normalize hn).1

theorem pieces_eq_splitOn (cs : List Char) : pieces cs = cs.splitOn '/' := by
  induction cs with
  | nil => rfl
  | cons c cs ih =>
    rw [List.splitOn_cons_eq_if_modifyHead, ← ih]
    by_cases hc : c = '/'
    · simp [hc, pieces_cons_slash]
    · obtain ⟨p, ps, hp⟩ := List.exists_cons_of_ne_nil (pieces_ne_nil cs)
      simp [hc, pieces_cons hc hp, hp]

theorem names_ofString_intercalate {names : List String} (hn : names ≠ [])
    (h : ∀ name ∈ names, isName name.toList = true ∧ '/' ∉ name.toList) :
    (ofString ("/".intercalate names)).names = names := by
  have slashes : ∀ name ∈ names.map String.toList, '/' ∉ name := by
    simpa using fun name hm => (h name hm).2
  have kept : (names.map String.toList).filter isName = names.map String.toList := by
    rw [List.filter_eq_self]
    simpa using fun name hm => (h name hm).1
  have text : ("/".intercalate names).toList = ['/'].intercalate (names.map String.toList) :=
    String.toList_intercalate
  change ((pieces ("/".intercalate names).toList).filter isName).map String.ofList = names
  rw [text, pieces_eq_splitOn, List.splitOn_intercalate _ slashes (by simpa using hn), kept]
  simp

theorem names_ofString_here (s : String) : (ofString ("./" ++ s)).names = (ofString s).names := by
  have hp : pieces ("./" ++ s).toList = ['.'] :: pieces s.toList := by
    rw [String.toList_append]
    exact pieces_cons (by decide) (pieces_cons_slash _)
  simp only [ofString, hp, List.filter_cons_of_neg (show ¬isName ['.'] = true by decide)]

theorem specifier_of_between_nil {cwd module folder : Path}
    (h : between (cwd.resolve folder) (cwd.resolve module) = []) :
    specifier cwd module folder = "." := by
  simp [specifier, h]

theorem specifier_of_between {cwd module folder : Path}
    (h : between (cwd.resolve folder) (cwd.resolve module) ≠ []) :
    specifier cwd module folder =
      let way := "/".intercalate (between (cwd.resolve folder) (cwd.resolve module))
      if way.startsWith "." then way else "./" ++ way := by
  unfold specifier
  cases hb : between (cwd.resolve folder) (cwd.resolve module) with
  | nil => exact absurd hb h
  | cons name names => rfl

theorem specifier_cases {cwd module folder : Path}
    (h : between (cwd.resolve folder) (cwd.resolve module) ≠ []) :
    let way := "/".intercalate (between (cwd.resolve folder) (cwd.resolve module))
    specifier cwd module folder = way ∨ specifier cwd module folder = "./" ++ way := by
  rw [specifier_of_between h]
  dsimp only
  split
  · exact Or.inl rfl
  · exact Or.inr rfl

theorem between_eq_nil_iff (start goal : List String) : between start goal = [] ↔ start = goal := by
  constructor
  · intro h
    have hl := length_between start goal
    have := common_le start goal
    have shared := take_common start goal
    rw [h, List.length_nil] at hl
    rwa [List.take_of_length_le (by omega), List.take_of_length_le (by omega)] at shared
  · rintro rfl
    simp [between, common_self]

theorem names_between {start goal : List String}
    (h : ∀ name ∈ goal, isName name.toList = true ∧ '/' ∉ name.toList) :
    ∀ name ∈ between start goal, isName name.toList = true ∧ '/' ∉ name.toList := by
  intro name hn
  rcases List.mem_append.mp hn with hn | hn
  · rw [List.eq_of_mem_replicate hn]
    decide
  · exact h name (List.mem_of_mem_drop hn)

/-- Read as a path, a specifier has the names of the way that it stands for. -/
theorem names_ofString_specifier {cwd module : Path} (hc : cwd.Proper) (hm : module.Proper)
    (folder : Path) :
    (ofString (specifier cwd module folder)).names =
      between (cwd.resolve folder) (cwd.resolve module) := by
  by_cases hb : between (cwd.resolve folder) (cwd.resolve module) = []
  · rw [specifier_of_between_nil hb, hb]
    decide
  · have back := names_ofString_intercalate hb (names_between (hc.resolve hm))
    rcases specifier_cases hb with hs | hs
    · rw [hs, back]
    · rw [hs, names_ofString_here, back]

/-- A specifier leads from the folder back to the module, and has no more names than any other way
that does. It is a single dot where folder and module are the same place. Elsewhere it is a run of
double dots, one for each name of the folder behind those it shares with the module, and then names
to go down to. -/
theorem specifier_leads_back {cwd module : Path} (hc : cwd.Proper) (hm : module.Proper)
    (folder : Path) :
    let start := cwd.resolve folder
    let goal := cwd.resolve module
    let text := specifier cwd module folder
    normalize (start ++ (ofString text).names) = goal ∧
    (∀ way, normalize (start ++ way) = goal → (ofString text).names.length ≤ way.length) ∧
    (start = goal → text = ".") ∧
    (start ≠ goal → ∃ shared names : List String,
      shared <+: start ∧ shared <+: goal ∧
      (∀ other, other <+: start → other <+: goal → other.length ≤ shared.length) ∧
      (∀ name ∈ names, name ≠ "." ∧ name ≠ "..") ∧
      let way := "/".intercalate (List.replicate (start.length - shared.length) ".." ++ names)
      (text = way ∨ text = "./" ++ way)) := by
  intro start goal text
  have hs : ".." ∉ start := up_not_mem_resolve cwd folder
  have hg : ".." ∉ goal := up_not_mem_resolve cwd module
  have hn : (ofString text).names = between start goal := names_ofString_specifier hc hm folder
  rw [hn]
  refine ⟨normalize_append_between hs hg, fun way h => length_between_le hs h, ?_, ?_⟩
  · intro same
    exact specifier_of_between_nil ((between_eq_nil_iff _ _).mpr same)
  · intro differ
    have hl : (start.take (common start goal)).length = common start goal :=
      List.length_take_of_le (common_le start goal).1
    refine ⟨start.take (common start goal), goal.drop (common start goal), List.take_prefix _ _,
      take_common start goal ▸ List.take_prefix _ _, ?_, ?_, ?_⟩
    · intro other ha hb
      rw [hl]
      exact length_le_common ha hb
    · intro name hd
      have hm' := List.mem_of_mem_drop hd
      refine ⟨?_, fun he => hg (he ▸ hm')⟩
      rintro rfl
      exact absurd (hc.resolve hm _ hm').1 (by decide)
    · rw [hl]
      exact specifier_cases (mt (between_eq_nil_iff _ _).mp differ)

theorem specifier_leads_back_to_sibling :
    let cwd := ofString "/work/proj"
    let module := ofString "src/..//lib/./m"
    let folder := ofString "lib/tests/unit"
    cwd.Proper ∧ module.Proper ∧ cwd.resolve folder ≠ cwd.resolve module ∧
      normalize (cwd.resolve folder ++ (ofString (specifier cwd module folder)).names) =
        cwd.resolve module := by
  intro cwd module folder
  have hc : cwd.Proper := proper_ofString _
  have hm : module.Proper := proper_ofString _
  exact ⟨hc, hm, by decide, (specifier_leads_back hc hm folder).1⟩

example : specifier (ofString "/work/proj") (ofString "src/..//lib/./m")
    (ofString "lib/tests/unit") = "../../m" := by
  decide +kernel

end Scaffold.Path
