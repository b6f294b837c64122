import Scaffold.Proofs.TargetSpecifiers

/-!
# Specifiers that a loader takes for relative

A loader decides by the first piece of a specifier: single or double dots make it relative,
everything else is the name of a package. A way that goes up starts with double dots, and a way that
goes down gets single dots in front, unless its first name starts with a dot. So a specifier is
taken for the name of a package exactly when the module lies below the folder and the first name on
the way down to it is that of a hidden file or folder.
-/

namespace Scaffold

namespace Path

/-- What loaders do not look up among the packages. -/
def IsRelative (text : String) : Prop :=
  text = "." ∨ text = ".." ∨ text.startsWith "./" = true ∨ text.startsWith "../" = true

/-! ### The first piece of a text -/

theorem head?_pieces_iff {first : List Char} (h : '/' ∉ first) (cs : List Char) :
    (pieces cs).head? = some first ↔ cs = first ∨ first ++ ['/'] <+: cs := by
  induction first generalizing cs with
  | nil =>
    cases cs with
    | nil => simp [pieces]
    | cons c cs =>
      by_cases hc : c = '/'
      · simp [hc, pieces_cons_slash]
      · obtain ⟨p, ps, hp⟩ := List.exists_cons_of_ne_nil (pieces_ne_nil cs)
        simp [pieces_cons hc hp, Ne.symm hc]
  | cons d first ih =>
    have hd : d ≠ '/' := by
      intro he
      simp [he] at h
    have rest : '/' ∉ first := fun hm => h (List.mem_cons_of_mem d hm)
    cases cs with
    | nil => simp [pieces]
    | cons c cs =>
      by_cases hc : c = '/'
      · simp [hc, pieces_cons_slash, hd, Ne.symm hd]
      · obtain ⟨p, ps, hp⟩ := List.exists_cons_of_ne_nil (pieces_ne_nil cs)
        have tail := ih rest cs
        simp only [hp, List.head?_cons, Option.some.injEq] at tail
        by_cases hcd : c = d
        · subst hcd
          simp [pieces_cons hc hp, tail]
        · simp [pieces_cons hc hp, hcd, Ne.symm hcd]

theorem isRelative_iff (text : String) :
    IsRelative text ↔ (pieces text.toList).head? = some ['.'] ∨
      (pieces text.toList).head? = some ['.', '.'] := by
  have dot := head?_pieces_iff (show '/' ∉ ['.'] by decide) text.toList
  have dots := head?_pieces_iff (show '/' ∉ ['.', '.'] by decide) text.toList
  have here : text = "." ↔ text.toList = ['.'] := String.toList_inj.symm
  have above : text = ".." ↔ text.toList = ['.', '.'] := String.toList_inj.symm
  rw [dot, dots, or_or_or_comm, or_assoc, ← here, ← above, IsRelative,
    String.startsWith_string_iff, String.startsWith_string_iff]
  rfl

theorem isRelative_here (text : String) : IsRelative ("./" ++ text) := by
  apply Or.inr
  apply Or.inr
  apply Or.inl
  simp [String.startsWith_string_iff, String.toList_append]

theorem head?_pieces_intercalate {name : String} {names : List String}
    (h : ∀ n ∈ name :: names, '/' ∉ n.toList) :
    (pieces ("/".intercalate (name :: names)).toList).head? = some name.toList := by
  have slashes : ∀ n ∈ (name :: names).map String.toList, '/' ∉ n := by simpa using h
  have text : ("/".intercalate (name :: names)).toList =
      ['/'].intercalate ((name :: names).map String.toList) :=
    String.toList_intercalate
  rw [text, pieces_eq_splitOn, List.splitOn_intercalate _ slashes (by simp)]
  rfl

theorem isRelative_intercalate_iff {name : String} {names : List String}
    (h : ∀ n ∈ name :: names, '/' ∉ n.toList) :
    IsRelative ("/".intercalate (name :: names)) ↔ name = "." ∨ name = ".." := by
  have here : name = "." ↔ name.toList = ['.'] := String.toList_inj.symm
  have above : name = ".." ↔ name.toList = ['.', '.'] := String.toList_inj.symm
  rw [isRelative_iff, head?_pieces_intercalate h, Option.some.injEq, Option.some.injEq, here, above]

theorem startsWith_dot_intercalate_iff {name : String} {names : List String} (h : name ≠ "") :
    ("/".intercalate (name :: names)).startsWith "." = true ↔ name.toList.head? = some '.' := by
  obtain ⟨c, cs, hc⟩ := List.exists_cons_of_ne_nil (mt String.toList_eq_nil_iff.mp h)
  have text : ∃ more, ("/".intercalate (name :: names)).toList = c :: more := by
    rw [String.toList_intercalate]
    cases names with
    | nil => simp [hc]
    | cons other names => simp [List.intercalate_cons_cons, hc]
  obtain ⟨more, hm⟩ := text
  have dot : ".".toList = ['.'] := rfl
  rw [String.startsWith_string_iff, hm, hc, dot]
  simp [List.cons_prefix_cons, eq_comm]

/-! ### Ways by their first name -/

theorem between_start_append (start names : List String) : between start (start ++ names) = names := by
  have := between_append start [] names
  simpa [between, common] using this

/-- A way stays where it is, goes down only, or starts by going up. -/
theorem between_cases (start goal : List String) :
    start = goal ∨ (∃ name names, goal = start ++ name :: names) ∨
      ¬start <+: goal ∧ ∃ names, between start goal = ".." :: names := by
  by_cases hp : start <+: goal
  · obtain ⟨rest, rfl⟩ := hp
    cases rest with
    | nil => exact Or.inl (by simp)
    | cons name names => exact Or.inr (Or.inl ⟨name, names, rfl⟩)
  · right
    right
    refine ⟨hp, ?_⟩
    have hle := common_le start goal
    have hlt : common start goal ≠ start.length := by
      intro he
      apply hp
      have shared := take_common start goal
      rw [he, List.take_length] at shared
      exact shared ▸ List.take_prefix _ _
    obtain ⟨n, hn⟩ : ∃ n, start.length - common start goal = n + 1 :=
      ⟨start.length - common start goal - 1, by omega⟩
    exact ⟨_, by rw [between, hn, List.replicate_succ, List.cons_append]⟩

/-- From the folder one goes down to the module, and first to a name that starts with a dot. -/
def IntoHidden (cwd module folder : Path) : Prop :=
  ∃ name names, cwd.resolve module = cwd.resolve folder ++ name :: names ∧
    name.toList.head? = some '.'

theorem specifier_of_down {cwd module folder : Path} {name : String} {names : List String}
    (hg : cwd.resolve module = cwd.resolve folder ++ name :: names) (hn : name ≠ "") :
    specifier cwd module folder =
      if name.toList.head? = some '.' then "/".intercalate (name :: names)
      else "./" ++ "/".intercalate (name :: names) := by
  have way : between (cwd.resolve folder) (cwd.resolve module) = name :: names := by
    rw [hg, between_start_append]
  rw [specifier_of_between (by simp [way]), way]
  simp only [startsWith_dot_intercalate_iff hn]

theorem isRelative_specifier_iff {cwd module : Path} (hc : cwd.Proper) (hm : module.Proper)
    (folder : Path) :
    IsRelative (specifier cwd module folder) ↔ ¬IntoHidden cwd module folder := by
  have proper := hc.resolve hm
  rcases between_cases (cwd.resolve folder) (cwd.resolve module) with same | ⟨name, names, down⟩ |
    ⟨apart, names, up⟩
  · rw [specifier_of_between_nil ((between_eq_nil_iff _ _).mpr same)]
    apply iff_of_true (Or.inl rfl)
    intro ⟨name, names, hg, _⟩
    rw [same] at hg
    simp at hg
  · have kept : ∀ n ∈ name :: names, isName n.toList = true ∧ '/' ∉ n.toList := by
      intro n hn
      apply proper
      rw [down]
      exact List.mem_append_right _ hn
    have named := (kept name List.mem_cons_self).1
    have nonempty : name ≠ "" := by
      intro he
      rw [he] at named
      exact absurd named (by decide)
    rw [specifier_of_down down nonempty]
    by_cases hidden : name.toList.head? = some '.'
    · -- dots alone would be relative, but a name on the way down is never one of them
      rw [if_pos hidden]
      apply iff_of_false
      · rw [isRelative_intercalate_iff fun n hn => (kept n hn).2]
        intro dots
        rcases dots with he | he
        · rw [he] at named
          exact absurd named (by decide)
        · have below : name ∈ cwd.resolve module := by
            rw [down]
            simp
          exact up_not_mem_resolve cwd module (he ▸ below)
      · intro h
        exact h ⟨name, names, down, hidden⟩
    · rw [if_neg hidden]
      apply iff_of_true (isRelative_here _)
      intro ⟨other, others, hg, hh⟩
      rw [down, List.append_cancel_left_eq, List.cons.injEq] at hg
      exact hidden (hg.1 ▸ hh)
  · have first : "/".intercalate (".." :: names) |>.startsWith "." := by
      rw [startsWith_dot_intercalate_iff (by decide)]
      rfl
    have slashes : ∀ n ∈ ".." :: names, '/' ∉ n.toList := by
      intro n hn
      exact (names_between proper n (up ▸ hn)).2
    rw [specifier_of_between (by simp [up]), up]
    simp only [first, if_true]
    apply iff_of_true
    · rw [isRelative_intercalate_iff slashes]
      exact Or.inr rfl
    · intro ⟨name, others, hg, _⟩
      exact apart ⟨name :: others, hg.symm⟩

/-! ### Folders below that of the source -/

theorem length_foldl_climb_le (names reversed : List String) :
    (names.foldl climb reversed).length ≤ reversed.length + names.length := by
  induction names generalizing reversed with
  | nil => simp
  | cons name names ih =>
    have rest := ih (climb reversed name)
    have step : (climb reversed name).length ≤ reversed.length + 1 := by
      by_cases hn : name = ".."
      · simp [climb, hn]
        omega
      · simp [climb, hn]
    simp only [List.foldl_cons, List.length_cons]
    omega

theorem length_resolve_below_le (cwd p : Path) (names : List String) :
    (cwd.resolve ⟨p.root, p.names ++ names⟩).length ≤ (cwd.resolve p).length + names.length := by
  have := length_foldl_climb_le names ((cwd.join p).names.foldl climb [])
  rw [resolve, names_join_below, normalize, List.foldl_append]
  simpa [resolve, normalize] using this

theorem root_ofString_of_no_slash {s : String} (h : '/' ∉ s.toList) : (ofString s).root = .none := by
  simp only [ofString]
  cases hc : s.toList with
  | nil => rfl
  | cons c cs =>
    apply rootOf_cons
    intro he
    simp [hc, he] at h

theorem length_names_ofString_le {s : String} (h : '/' ∉ s.toList) :
    (ofString s).names.length ≤ 1 := by
  have := List.length_filter_le isName [s.toList]
  simpa [ofString, pieces_of_no_slash h] using this

end Path

namespace Target

open Scaffold.Path (ofString IsRelative IntoHidden)

variable {cwd source : Path}

theorem not_intoHidden_of_below (cwd : Path) (hs : source.Proper) {test : Path}
    (hr : test.root = .none) (ho : ".." ∉ test.names) (hn : test.names ≠ []) :
    ¬IntoHidden cwd (source.parent.join (ofString source.stem)) (source.parent.join test) := by
  intro ⟨name, names, hg, _⟩
  have slash := Path.slash_not_mem_stem hs
  have short := Path.length_names_ofString_le slash
  have root := Path.root_ofString_of_no_slash slash
  have module := Path.length_resolve_below_le cwd source.parent (ofString source.stem).names
  have folder := congrArg List.length (Path.resolve_below cwd source.parent ho)
  have lengths := congrArg List.length hg
  have := List.length_pos_iff.mpr hn
  rw [Path.join_relative root, Path.join_relative hr] at lengths
  simp only [List.length_append, List.length_cons] at lengths folder
  omega

/-- For every source, of whatever language, and every text as test folder there is a target. Its
specifier is relative exactly when the way from the folder to the module does not start by going
down into something hidden; a way that does is written without anything in front. In a relative
folder of ordinary names the specifier is always relative. -/
theorem specifier_is_relative_unless_hidden (hc : cwd.Proper) (hs : source.Proper)
    {settings : Settings} {text : String} (hf : settings.folder = .text text) :
    ∃ target, ofSource cwd source settings = .ok target ∧
      (IsRelative target.specifier ↔
        ¬IntoHidden cwd (source.parent.join (ofString source.stem)) target.folder) ∧
      (∀ name names, name.toList.head? = some '.' →
        cwd.resolve (source.parent.join (ofString source.stem)) =
          cwd.resolve target.folder ++ name :: names →
        target.specifier = "/".intercalate (name :: names)) ∧
      ((ofString text).root = .none → ".." ∉ (ofString text).names → (ofString text).names ≠ [] →
        IsRelative target.specifier) := by
  have target := ofSource_of_text hf cwd source
  have module := hs.parent.join (Path.proper_ofString source.stem)
  have relative := Path.isRelative_specifier_iff hc module (source.parent.join (ofString text))
  refine ⟨_, target, ?_⟩
  dsimp only
  refine ⟨relative, ?_, ?_⟩
  · intro name names hidden down
    have nonempty : name ≠ "" := by
      intro he
      simp [he] at hidden
    rw [Path.specifier_of_down down nonempty, if_pos hidden]
  · intro hr ho hn
    rw [relative]
    exact not_intoHidden_of_below cwd hs hr ho hn

/-- A hidden source in a hidden folder, with its test in a folder below. -/
theorem hiddenSource_imported_from_below :
    Language.ofPath (ofString ".storybook/.main.ts") = .ok .typescript ∧
      ∃ target, ofSource (ofString "/work/proj") (ofString ".storybook/.main.ts")
          { folder := .text ".tests" } = .ok target ∧
        IsRelative target.specifier := by
  have accepted : Language.ofPath (ofString ".storybook/.main.ts") = .ok .typescript := rfl
  obtain ⟨target, ht, -, -, below⟩ := specifier_is_relative_unless_hidden
    (Path.proper_ofString "/work/proj") (Path.proper_ofString ".storybook/.main.ts")
    (show ({ folder := .text ".tests" } : Settings).folder = .text ".tests" from rfl)
  exact ⟨accepted, target, ht, below (by decide) (by decide) (by decide)⟩

/-- The test of `.eslintrc.js` beside it imports a package of that name. -/
theorem hiddenSource_taken_for_package :
    Language.ofPath (ofString ".eslintrc.js") = .ok .javascript ∧
      ∃ target, ofSource (ofString "/work/proj") (ofString ".eslintrc.js")
          { folder := .text "." } = .ok target ∧
        target.specifier = ".eslintrc" ∧ ¬IsRelative target.specifier := by
  have text : Path.specifier (ofString "/work/proj")
      ((ofString ".eslintrc.js").parent.join (ofString (ofString ".eslintrc.js").stem))
      ((ofString ".eslintrc.js").parent.join (ofString ".")) = ".eslintrc" := by decide +kernel
  have accepted : Language.ofPath (ofString ".eslintrc.js") = .ok .javascript := rfl
  have target := ofSource_of_text (show ({ folder := .text "." } : Settings).folder = _ from rfl)
    (ofString "/work/proj") (ofString ".eslintrc.js")
  refine ⟨accepted, _, target, text, ?_⟩
  dsimp only
  rw [text, Path.isRelative_iff]
  decide

end Target

end Scaffold
