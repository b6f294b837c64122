import Scaffold.Proofs.RelativeWays

/-!
# What the import of a test refers to

The specifier of a target is the way from the folder of the test to the place named by the stem of
the source. That place may also be a folder, and the test may lie in it. Then the way ends where
the test is or above it, and the specifier is made of dots only: it names a folder and not the
source. Stems that are dots themselves have no place of their own. With every other stem and every
other folder the specifier ends in the stem.
-/

namespace Scaffold

namespace Path

/-! ### The end of a way -/

theorem between_of_prefix {start goal : List String} (h : goal <+: start) :
    between start goal = List.replicate (start.length - goal.length) ".." := by
  have := length_le_common h (List.prefix_refl goal)
  have := common_le start goal
  have all : common start goal = goal.length := by omega
  simp [between, all]

theorem getLast?_between {start base : List String} {stem : String}
    (h : ¬base ++ [stem] <+: start) : (between start (base ++ [stem])).getLast? = some stem := by
  have hl : common start (base ++ [stem]) ≤ base.length := by
    refine Nat.le_of_not_lt fun hlt => ?_
    have := common_le start (base ++ [stem])
    simp only [List.length_append, List.length_singleton] at this
    have whole : start.take (common start (base ++ [stem])) = base ++ [stem] := by
      rw [take_common, List.take_of_length_le (by simp; omega)]
    exact h (whole ▸ List.take_prefix _ _)
  rw [between, List.drop_append_of_le_length hl, ← List.append_assoc, List.getLast?_concat]

theorem up_of_getLast?_between {start goal : List String} (hg : ".." ∉ goal)
    (h : (between start goal).getLast? = some "..") : ∀ name ∈ between start goal, name = ".." := by
  unfold between at h ⊢
  dsimp only at h ⊢
  cases hd : (goal.drop (common start goal)).getLast? with
  | none =>
    rw [List.getLast?_eq_none_iff.mp hd, List.append_nil]
    exact fun name hn => List.eq_of_mem_replicate hn
  | some last =>
    rw [List.getLast?_append, hd, Option.some_or, Option.some.injEq] at h
    exact absurd (List.mem_of_mem_drop (List.mem_of_getLast? hd)) (h ▸ hg)

theorem common_append (base a b : List String) :
    common (base ++ a) (base ++ b) = base.length + common a b := by
  induction base with
  | nil => simp
  | cons name base ih =>
    simp only [List.cons_append, common, beq_self_eq_true, if_true, ih, List.length_cons]
    omega

theorem between_append (base a b : List String) :
    between (base ++ a) (base ++ b) = between a b := by
  simp [between, common_append, Nat.add_sub_add_left]

theorem between_of_head?_ne {names : List String} {stem : String} (h : names.head? ≠ some stem) :
    between names [stem] = List.replicate names.length ".." ++ [stem] := by
  cases names with
  | nil => rfl
  | cons name names =>
    have hn : name ≠ stem := by simpa using h
    simp [between, common, hn]

theorem intercalate_up (n : Nat) (name : String) :
    "/".intercalate (List.replicate n ".." ++ [name]) =
      String.join (List.replicate n "../") ++ name := by
  induction n with
  | zero => simp [String.intercalate_singleton, String.join_nil]
  | succ n ih =>
    rw [List.replicate_succ, List.replicate_succ, List.cons_append,
      String.intercalate_cons_of_ne_nil (by simp), ih, String.join_cons, String.append_assoc]
    rfl

theorem resolve_below (cwd p : Path) {names : List String} (h : ".." ∉ names) :
    cwd.resolve ⟨p.root, p.names ++ names⟩ = cwd.resolve p ++ names := by
  rw [resolve, names_join_below, normalize, List.foldl_append, foldl_climb_of_names h]
  simp [resolve, normalize]

/-! ### Stems -/

theorem splitName_stem_subset (name : List Char) : (splitName name).1 ⊆ name := by
  unfold splitName
  dsimp only
  split
  · exact fun _ h => h
  · exact fun _ h => List.mem_of_mem_take h

theorem Proper.plain {p : Path} (h : p.Proper) : p.Plain :=
  fun name hn => (h name hn).2

theorem slash_not_mem_stem {p : Path} (h : p.Proper) : '/' ∉ p.stem.toList := by
  intro hs
  rw [stem, String.toList_ofList] at hs
  exact h.plain.name (splitName_stem_subset _ hs)

theorem stem_ne_empty {p : Path} {language : Language} (h : Language.ofPath p = .ok language) :
    p.stem ≠ "" := by
  obtain ⟨c, cs, back, hs, -⟩ := splitName_of_extension (Language.splitName_ne_nil h)
  simp [stem, hs, ← String.toList_inj]

theorem ofString_of_no_slash {s : String} (hs : '/' ∉ s.toList) (he : s ≠ "") (hd : s ≠ ".") :
    ofString s = ⟨.none, [s]⟩ := by
  have root : rootOf s.toList = .none := by
    cases hc : s.toList with
    | nil => rfl
    | cons c cs =>
      refine rootOf_cons ?_ cs
      rintro rfl
      exact hs (hc ▸ List.mem_cons_self)
  have name : isName s.toList = true := by
    have empty : s.toList ≠ [] := fun h => he (String.toList_inj.mp h)
    have dot : s.toList ≠ ['.'] := fun h => hd (String.toList_inj.mp h)
    simp [isName, empty, dot]
  simp [ofString, root, pieces_of_no_slash hs, name]

end Path

namespace Target

open Scaffold.Path (ofString)

theorem ofSource_of_text {settings : Settings} {text : String} (h : settings.folder = .text text)
    (cwd source : Path) :
    ofSource cwd source settings =
      .ok {
        binding := Identifier.ofName source.stem
        specifier := Path.specifier cwd (source.parent.join (ofString source.stem))
          (source.parent.join (ofString text))
        folder := source.parent.join (ofString text)
        file := (source.parent.join (ofString text)).join
          (ofString (fileName source settings.suffix)) } := by
  simp only [ofSource, h, folderFor, bind, Except.bind, pure, Except.pure]

/-- The specifier ends in the stem of the source, and it is not made of dots only. -/
def NamesSource (source : Path) (text : String) : Prop :=
  (ofString text).names.getLast? = some source.stem ∧ ¬∀ name ∈ (ofString text).names, name = ".."

/-- The folder is the one that is called like the source without its extension, or lies in it. -/
def Shadowed (cwd source folder : Path) : Prop :=
  cwd.resolve source.parent ++ [source.stem] <+: cwd.resolve folder

variable {cwd source : Path} {language : Language}

theorem resolve_module (hs : source.Proper) (hl : Language.ofPath source = .ok language)
    (hd : source.stem ≠ ".") (hu : source.stem ≠ "..") :
    cwd.resolve (source.parent.join (ofString source.stem)) =
      cwd.resolve source.parent ++ [source.stem] := by
  have stem := Path.ofString_of_no_slash (Path.slash_not_mem_stem hs) (Path.stem_ne_empty hl) hd
  rw [Path.join_relative (by rw [stem]), stem]
  exact Path.resolve_below cwd source.parent (by simpa using Ne.symm hu)

theorem names_specifier (hc : cwd.Proper) (hs : source.Proper) (folder : Path) :
    (ofString (Path.specifier cwd (source.parent.join (ofString source.stem)) folder)).names =
      Path.between (cwd.resolve folder)
        (cwd.resolve (source.parent.join (ofString source.stem))) :=
  Path.names_ofString_specifier hc (hs.parent.join (Path.proper_ofString _)) folder

/-- With a stem that is dots the specifier cannot name the source. -/
theorem not_namesSource_of_dots (hc : cwd.Proper) (hs : source.Proper)
    (h : source.stem = "." ∨ source.stem = "..") (folder : Path) :
    ¬NamesSource source
      (Path.specifier cwd (source.parent.join (ofString source.stem)) folder) := by
  rintro ⟨last, mixed⟩
  rcases h with h | h
  · have name := (Path.proper_ofString _ _ (List.mem_of_getLast? last)).1
    rw [h] at name
    exact absurd name (by decide)
  · rw [names_specifier hc hs, h] at last mixed
    exact mixed (Path.up_of_getLast?_between (Path.up_not_mem_resolve _ _) last)

theorem namesSource_iff (hc : cwd.Proper) (hs : source.Proper)
    (hl : Language.ofPath source = .ok language) (folder : Path) :
    NamesSource source
        (Path.specifier cwd (source.parent.join (ofString source.stem)) folder) ↔
      source.stem ≠ "." ∧ source.stem ≠ ".." ∧ ¬Shadowed cwd source folder := by
  by_cases hd : source.stem = "."
  · exact iff_of_false (not_namesSource_of_dots hc hs (Or.inl hd) folder) fun h => h.1 hd
  by_cases hu : source.stem = ".."
  · exact iff_of_false (not_namesSource_of_dots hc hs (Or.inr hu) folder) fun h => h.2.1 hu
  simp only [ne_eq, hd, hu, not_false_eq_true, true_and]
  unfold NamesSource
  rw [names_specifier hc hs, resolve_module hs hl hd hu]
  constructor
  · rintro ⟨-, mixed⟩ shadowed
    rw [Path.between_of_prefix shadowed] at mixed
    exact mixed fun name hn => List.eq_of_mem_replicate hn
  · intro free
    have last := Path.getLast?_between free
    exact ⟨last, fun dots => hu (dots _ (List.mem_of_getLast? last))⟩

theorem specifier_of_relative (cwd : Path) (hs : source.Proper)
    (hl : Language.ofPath source = .ok language)
    (hd : source.stem ≠ ".") (hu : source.stem ≠ "..") {test : Path} (hr : test.root = .none)
    (ho : ".." ∉ test.names) (hh : test.names.head? ≠ some source.stem) :
    let way := String.join (List.replicate test.names.length "../") ++ source.stem
    Path.specifier cwd (source.parent.join (ofString source.stem)) (source.parent.join test) =
      if way.startsWith "." then way else "./" ++ way := by
  have folder : cwd.resolve (source.parent.join test) =
      cwd.resolve source.parent ++ test.names := by
    rw [Path.join_relative hr]
    exact Path.resolve_below cwd source.parent ho
  have names : Path.between (cwd.resolve (source.parent.join test))
      (cwd.resolve (source.parent.join (ofString source.stem))) =
        List.replicate test.names.length ".." ++ [source.stem] := by
    rw [folder, resolve_module hs hl hd hu, Path.between_append, Path.between_of_head?_ne hh]
  rw [Path.specifier_of_between (by simp [names]), names, Path.intercalate_up]

/-- For every source in a supported language and every text as test folder there is a target. Its
specifier ends in the stem of the source, and does not consist of dots, exactly when the stem is
not dots and the folder does not lie where the source without its extension would. If it does, the
specifier consists of double dots. A relative folder of `n` ordinary names, the first of them not
the stem, is left by `n` times `../`. -/
theorem specifier_names_source_unless_shadowed (hc : cwd.Proper) (hs : source.Proper)
    (hl : Language.ofPath source = .ok language) {settings : Settings} {text : String}
    (hf : settings.folder = .text text) :
    ∃ target, ofSource cwd source settings = .ok target ∧
      (NamesSource source target.specifier ↔
        source.stem ≠ "." ∧ source.stem ≠ ".." ∧ ¬Shadowed cwd source target.folder) ∧
      (source.stem ≠ "." → source.stem ≠ ".." → Shadowed cwd source target.folder →
        ∀ name ∈ (ofString target.specifier).names, name = "..") ∧
      (source.stem ≠ "." → source.stem ≠ ".." → (ofString text).root = .none →
        ".." ∉ (ofString text).names → (ofString text).names.head? ≠ some source.stem →
        if (ofString text).names = [] then
          target.specifier = source.stem ∨ target.specifier = "./" ++ source.stem
        else target.specifier =
          String.join (List.replicate (ofString text).names.length "../") ++ source.stem) := by
  have target := ofSource_of_text hf cwd source
  refine ⟨_, target, ?_, ?_, ?_⟩
  · dsimp only
    exact namesSource_iff hc hs hl _
  · intro hd hu shadowed
    rw [names_specifier hc hs, resolve_module hs hl hd hu, Path.between_of_prefix shadowed]
    exact fun name hn => List.eq_of_mem_replicate hn
  · intro hd hu hr ho hh
    have way := specifier_of_relative cwd hs hl hd hu hr ho hh
    dsimp only at way ⊢
    rw [way]
    cases hn : (ofString text).names with
    | nil =>
      simp only [List.length_nil, List.replicate_zero, String.join_nil, String.empty_append, if_true]
      split
      · exact Or.inl rfl
      · exact Or.inr rfl
    | cons name names =>
      have up : (String.join (List.replicate (name :: names).length "../") ++
          source.stem).startsWith "." = true := by
        rw [String.startsWith_string_iff]
        simp [List.replicate_succ, String.join_cons, String.toList_append]
      rw [if_neg (by simp), if_pos up]

theorem widget_named_from_nested_folder :
    ∃ target, ofSource (ofString "/work/proj") (ofString "src/widget.ts")
        { folder := .text "test/unit" } = .ok target ∧
      NamesSource (ofString "src/widget.ts") target.specifier ∧
      target.specifier = "../../widget" := by
  have stem : (ofString "src/widget.ts").stem = "widget" := by decide
  have names : (ofString "test/unit").names = ["test", "unit"] := by decide
  have accepted : Language.ofPath (ofString "src/widget.ts") = .ok .typescript := rfl
  obtain ⟨target, ht, named, -, way⟩ := specifier_names_source_unless_shadowed
    (Path.proper_ofString "/work/proj") (Path.proper_ofString "src/widget.ts")
    accepted (show ({ folder := .text "test/unit" } : Settings).folder = .text "test/unit" from rfl)
  have folder : target.folder = ofString "src/test/unit" := by
    cases ht
    decide
  refine ⟨target, ht, named.mpr ⟨by decide, by decide, ?_⟩, ?_⟩
  · rw [folder]
    unfold Shadowed
    decide
  · have := way (by decide) (by decide) (by decide) (by decide) (by decide)
    rw [names, stem] at this
    simpa using this

/-- The test of `foo.ts` in the folder `foo` imports the folder itself. -/
theorem foo_not_named_from_foo :
    Language.ofPath (ofString "foo.ts") = .ok .typescript ∧
      ∃ target, ofSource (ofString "/work/proj") (ofString "foo.ts") { folder := .text "foo" } =
          .ok target ∧
        target.specifier = "." ∧ ¬NamesSource (ofString "foo.ts") target.specifier := by
  have text : Path.specifier (ofString "/work/proj")
      ((ofString "foo.ts").parent.join (ofString (ofString "foo.ts").stem))
      ((ofString "foo.ts").parent.join (ofString "foo")) = "." := by decide +kernel
  have accepted : Language.ofPath (ofString "foo.ts") = .ok .typescript := rfl
  have target := ofSource_of_text (show ({ folder := .text "foo" } : Settings).folder = _ from rfl)
    (ofString "/work/proj") (ofString "foo.ts")
  refine ⟨accepted, _, target, text, ?_⟩
  dsimp only
  rw [text]
  unfold NamesSource
  decide

end Target

end Scaffold
