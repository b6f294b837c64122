import Scaffold.Options
import Scaffold.Proofs.DiskGrowth
import Scaffold.Target

/-!
# Where targets lie

A source that is named on the command line has no slash within a name. If its extension is that of
a language, the name of its test starts with a character that is no slash and ends in the
extension, so the test lies below its folder whatever the suffix is. A path to something can only
lead through folders; hence where the test exists, so does the folder.
-/

namespace Scaffold

namespace Path

/-! ### Pieces between slashes -/

theorem pieces_cons_slash (cs : List Char) : pieces ('/' :: cs) = [] :: pieces cs := by
  rw [pieces, if_pos (by simp)]

theorem pieces_cons {c : Char} (h : c ≠ '/') {cs p : List Char} {ps : List (List Char)}
    (hp : pieces cs = p :: ps) : pieces (c :: cs) = (c :: p) :: ps := by
  rw [pieces, if_neg (by simpa using h), hp]

theorem pieces_ne_nil (cs : List Char) : pieces cs ≠ [] := by
  induction cs with
  | nil => simp [pieces]
  | cons c cs ih =>
    obtain ⟨p, ps, hp⟩ := List.exists_cons_of_ne_nil ih
    by_cases hc : c = '/'
    · simp [hc, pieces_cons_slash]
    · simp [pieces_cons hc hp]

theorem slash_not_mem_pieces {cs piece : List Char} (h : piece ∈ pieces cs) : '/' ∉ piece := by
  induction cs generalizing piece with
  | nil => simp_all [pieces]
  | cons c cs ih =>
    by_cases hc : c = '/'
    · rw [hc, pieces_cons_slash] at h
      rcases List.mem_cons.mp h with rfl | h
      · simp
      · exact ih h
    · obtain ⟨p, ps, hp⟩ := List.exists_cons_of_ne_nil (pieces_ne_nil cs)
      rw [pieces_cons hc hp] at h
      rw [hp] at ih
      rcases List.mem_cons.mp h with rfl | h
      · simp [Ne.symm hc, ih]
      · exact ih (List.mem_cons_of_mem p h)

theorem pieces_of_no_slash {cs : List Char} (h : '/' ∉ cs) : pieces cs = [cs] := by
  induction cs with
  | nil => rfl
  | cons c cs ih =>
    rw [List.mem_cons, not_or] at h
    exact pieces_cons (Ne.symm h.1) (ih h.2)

/-- What is put behind a text and holds no slash goes to the last piece. -/
theorem pieces_append (cs : List Char) {ds : List Char} (h : '/' ∉ ds) :
    ∃ front last, pieces (cs ++ ds) = front ++ [last ++ ds] := by
  induction cs with
  | nil => exact ⟨[], [], pieces_of_no_slash h⟩
  | cons c cs ih =>
    obtain ⟨front, last, hp⟩ := ih
    by_cases hc : c = '/'
    · refine ⟨[] :: front, last, ?_⟩
      rw [hc, List.cons_append, pieces_cons_slash, hp, List.cons_append]
    · cases front with
      | nil => exact ⟨[], c :: last, pieces_cons hc hp⟩
      | cons p front => exact ⟨(c :: p) :: front, last, pieces_cons hc hp⟩

/-- No name of the path holds a slash. -/
def Plain (p : Path) : Prop :=
  ∀ name ∈ p.names, '/' ∉ name.toList

theorem plain_ofString (s : String) : (ofString s).Plain := by
  intro name hn
  simp only [ofString, List.mem_map, List.mem_filter] at hn
  obtain ⟨piece, ⟨hp, -⟩, rfl⟩ := hn
  rw [String.toList_ofList]
  exact slash_not_mem_pieces hp

theorem Plain.name {p : Path} (h : p.Plain) : '/' ∉ p.name.toList := by
  unfold Path.name
  cases hn : p.names.getLast? with
  | none => simp [List.getLastD_eq_getLast?, hn]
  | some name =>
    rw [List.getLastD_eq_getLast?, hn]
    exact h name (List.mem_of_getLast? hn)

theorem rootOf_cons {c : Char} (h : c ≠ '/') (cs : List Char) : rootOf (c :: cs) = .none := by
  unfold rootOf
  split <;> simp_all

/-- A text that does not start with a slash and has a last piece which is a name. -/
theorem ofString_relative {s : String} {c : Char} {cs ds : List Char} (hs : s.toList = c :: cs ++ ds)
    (hc : c ≠ '/') (hd : '/' ∉ ds) (hl : 2 ≤ ds.length) :
    (ofString s).root = .none ∧ (ofString s).names ≠ [] := by
  obtain ⟨front, last, hp⟩ := pieces_append (c :: cs) hd
  constructor
  · change rootOf s.toList = .none
    rw [hs]
    exact rootOf_cons hc _
  · have name : isName (last ++ ds) = true := by
      have long : 2 ≤ (last ++ ds).length := by
        rw [List.length_append]
        omega
      simp only [isName, Bool.and_eq_true, bne_iff_ne]
      constructor
      · intro h
        simp [h] at long
      · intro h
        simp [h] at long
    simp only [ofString, hs, hp, ne_eq, List.map_eq_nil_iff, List.filter_append]
    simp [name]

/-! ### Stem and extension -/

/-- A name with an extension has characters on both sides of the dot. -/
theorem splitName_of_extension {name : List Char} (h : (splitName name).2 ≠ []) :
    ∃ c stem back, splitName name = (c :: stem, '.' :: back) ∧ c ∈ name ∧ back ≠ [] ∧
      back ⊆ name := by
  unfold splitName at h ⊢
  dsimp only at h ⊢
  split at h
  · exact absurd rfl h
  · rename_i hn
    rw [if_neg hn]
    rw [Bool.or_eq_true, not_or] at hn
    obtain ⟨hb, hs⟩ := hn
    have hs' := mt List.isEmpty_iff.mpr hs
    obtain ⟨c, stem, hcs⟩ := List.exists_cons_of_ne_nil hs'
    refine ⟨c, stem, _, by rw [hcs], ?_, ?_, ?_⟩
    · have : c ∈ name.take (name.length - (name.reverse.takeWhile (· != '.')).length - 1) := by
        rw [hcs]
        exact List.mem_cons_self
      exact List.mem_of_mem_take this
    · rw [ne_eq, List.reverse_eq_nil_iff]
      exact mt List.isEmpty_iff.mpr hb
    · intro x hx
      rw [List.mem_reverse] at hx
      exact List.mem_reverse.mp ((List.takeWhile_sublist _).subset hx)

theorem join_relative {p : Path} (h : p.root = .none) (q : Path) :
    q.join p = ⟨q.root, q.names ++ p.names⟩ := by
  simp [join, isAbsolute, h]

/-- Seen from anywhere, a path below a folder goes through the folder first. -/
theorem names_join_below (cwd folder : Path) (names : List String) :
    (cwd.join ⟨folder.root, folder.names ++ names⟩).names = (cwd.join folder).names ++ names := by
  unfold join isAbsolute
  split
  · rfl
  · exact (List.append_assoc _ _ _).symm

end Path

theorem Language.extension_ne_empty {p : Path} {language : Language}
    (h : Language.ofPath p = .ok language) : p.extension ≠ "" := by
  intro he
  -- the equation of `ofPath` itself takes long to state
  delta Language.ofPath at h
  simp only [he] at h
  cases h

theorem Language.splitName_ne_nil {p : Path} {language : Language}
    (h : Language.ofPath p = .ok language) : (Path.splitName p.name.toList).2 ≠ [] := by
  intro hn
  apply Language.extension_ne_empty h
  rw [Path.extension, hn]

/-! ### Targets -/

namespace Target

theorem ofSource_eq_ok {cwd source : Path} {settings : Settings} {target : Target}
    (h : ofSource cwd source settings = .ok target) :
    target.file = target.folder.join (Path.ofString (fileName source settings.suffix)) := by
  unfold ofSource at h
  cases hf : folderFor source settings.folder with
  | error e => simp [hf, bind, Except.bind] at h
  | ok folder =>
    simp only [hf, bind, Except.bind, pure, Except.pure, Except.ok.injEq] at h
    have file := congrArg Target.file h
    have folder := congrArg Target.folder h
    simp only at file folder
    rw [← file, ← folder]

/-- The test lies below its folder, by at least one name. -/
theorem file_below_folder {cwd source : Path} {settings : Settings} {target : Target}
    {language : Language} (hp : source.Plain) (hl : Language.ofPath source = .ok language)
    (h : ofSource cwd source settings = .ok target) :
    ∃ name names, target.file = ⟨target.folder.root, target.folder.names ++ name :: names⟩ := by
  obtain ⟨c, stem, back, hs, hc, hb, hi⟩ :=
    Path.splitName_of_extension (Language.splitName_ne_nil hl)
  have hn := hp.name
  have hd : '/' ∉ '.' :: back := by
    rw [List.mem_cons, not_or]
    exact ⟨by decide, fun hm => hn (hi hm)⟩
  have hlen : 2 ≤ ('.' :: back).length := by
    have := List.length_pos_iff.mpr hb
    rw [List.length_cons]
    omega
  have ht : (fileName source settings.suffix).toList =
      c :: (stem ++ ['.'] ++ settings.suffix.format.toList) ++ '.' :: back := by
    simp [fileName, Path.stem, Path.extension, hs]
  have hr := Path.ofString_relative ht (fun e => hn (e ▸ hc)) hd hlen
  obtain ⟨name, names, hnames⟩ := List.exists_cons_of_ne_nil hr.2
  refine ⟨name, names, ?_⟩
  rw [ofSource_eq_ok h, Path.join_relative hr.1, hnames]

end Target

theorem Disk.folder_of_locate {d : Disk} {cwd folder : Path} {name : String}
    {names place : List String}
    (h : d.locate cwd ⟨folder.root, folder.names ++ name :: names⟩ = .ok place) :
    d.entry? cwd folder = some .folder := by
  rw [locate, Path.names_join_below, follow_append] at h
  unfold entry? locate
  cases hf : d.follow [] (cwd.join folder).names with
  | error f =>
    rw [hf] at h
    cases h
  | ok place =>
    rw [hf] at h
    exact get?_of_follow_cons h

theorem Disk.folder_of_below {d : Disk} {cwd folder : Path} {name : String} {names : List String}
    (h : (d.entry? cwd ⟨folder.root, folder.names ++ name :: names⟩).isSome = true) :
    d.entry? cwd folder = some .folder := by
  obtain ⟨e, he⟩ := Option.isSome_iff_exists.mp h
  exact folder_of_locate (entry?_eq_some_iff.mp he).1

/-! ### Sources from the command line -/

namespace Options

/-- The source, if there is one so far, has no slash within a name. -/
def Progress.Plain (p : Progress) : Prop :=
  ∀ source, p.source = some source → source.Plain

theorem plain_of_read {p : Progress} (text : String) :
    Progress.Plain { p with source := some (.ofString text) } := by
  intro source h
  cases h
  exact Path.plain_ofString text

theorem turn_source {p q : Progress} {s : Switch} (h : p.turn s = .ok q) : q.source = p.source := by
  cases s with
  | help => cases h
  | config => cases h
  | force =>
    cases h
    rfl
  | opens =>
    cases h
    rfl
  | verbose =>
    cases h
    rfl
  | dryRun =>
    rw [Progress.turn] at h
    split at h <;> cases h
    rfl
  | dumpExports =>
    rw [Progress.turn] at h
    split at h <;> cases h
    rfl

theorem consume_plain {p q : Progress} {tokens : List Token} (hp : p.Plain)
    (h : consume p tokens = .ok q) : q.Plain := by
  fun_induction consume p tokens with
  | case1 p =>
    cases h
    exact hp
  | case4 => cases h
  | case6 => cases h
  | case5 p s rest _ next ht ih =>
    refine ih (fun source hs => hp source ?_) h
    rw [← turn_source ht, hs]
  -- the first argument becomes the source
  | case8 p text rest _ ih => exact ih (plain_of_read text) h
  | case11 p text rest _ ih => exact ih (plain_of_read text) h
  | case13 p text rest _ _ ih => exact ih (plain_of_read text) h
  -- everything else leaves the source alone
  | case2 p text rest ih => exact ih hp h
  | case3 p value rest ih => exact ih hp h
  | case7 p text rest ih => exact ih hp h
  | case9 p text rest _ ih => exact ih hp h
  | case10 p rest _ ih => exact ih hp h
  | case12 p text rest _ ih => exact ih hp h
  | case14 p text rest _ _ ih => exact ih hp h

theorem plain_of_parse {arguments : List String} {o : Options} (h : parse arguments = .ok o) :
    o.source.Plain := by
  unfold parse at h
  cases ht : Token.ofArguments arguments with
  | error f => simp [ht] at h
  | ok tokens =>
    simp only [ht, bind, Except.bind] at h
    cases hc : consume {} tokens with
    | error stop => simp [hc] at h
    | ok p =>
      simp only [hc] at h
      have plain : p.Plain := by
        refine consume_plain ?_ hc
        intro source hs
        cases hs
      unfold Progress.finish at h
      split at h
      · cases h
      · split at h
        · cases h
          exact plain _ ‹_›
        · cases h

end Options

end Scaffold
