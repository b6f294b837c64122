import Scaffold.Proofs.RelativeSpecifiers

/-!
# Tests apart from each other and from their sources

A name with an extension falls into two parts at its last dot, and the name of a test has the same
extension behind its last dot. What stands before that dot is the stem with the same text behind
it, so the name of the source can be read off the name of its test. With a folder that only goes
down, the folder of the source can be read off the place of the test as well: different sources have
tests at different places. And wherever the folder is, the name of a test is longer than that of its
source, so no test is placed over its source.
-/

namespace Scaffold

namespace Path

/-! ### Names at their last dot -/

theorem eq_of_last_dot {a b x y : List Char} (hx : '.' ∉ x) (hy : '.' ∉ y)
    (h : a ++ '.' :: x = b ++ '.' :: y) : a = b ∧ x = y := by
  rcases List.append_eq_append_iff.mp h with ⟨more, hb, hm⟩ | ⟨more, ha, hm⟩
  · cases more with
    | nil => simp_all
    | cons c more =>
      have : '.' ∈ x := by simp [(List.cons.inj hm).2]
      exact absurd this hx
  · cases more with
    | nil => simp_all
    | cons c more =>
      have : '.' ∈ y := by simp [(List.cons.inj hm).2]
      exact absurd this hy

theorem takeWhile_of_no_dot {back : List Char} (h : '.' ∉ back) (rest : List Char) :
    (back.reverse ++ rest).takeWhile (· != '.') = back.reverse ++ rest.takeWhile (· != '.') := by
  apply List.takeWhile_append_of_pos
  intro c hc
  rw [bne_iff_ne]
  rintro rfl
  exact h (List.mem_reverse.mp hc)

theorem splitName_of_dot {back : List Char} (h : '.' ∉ back) (stem : List Char) :
    splitName (stem ++ '.' :: back) =
      if back = [] ∨ stem = [] then (stem ++ '.' :: back, []) else (stem, '.' :: back) := by
  have before : (stem ++ '.' :: back).take ((stem ++ '.' :: back).length - back.length - 1) =
      stem := by
    have : (stem ++ '.' :: back).length - back.length - 1 = stem.length := by
      simp only [List.length_append, List.length_cons]
      omega
    rw [this, List.take_left]
  have after : (stem ++ '.' :: back).reverse.takeWhile (· != '.') = back.reverse := by
    rw [List.reverse_append, List.reverse_cons, List.append_assoc, takeWhile_of_no_dot h]
    simp
  unfold splitName
  simp only [after, List.length_reverse, before, List.isEmpty_reverse, List.reverse_reverse,
    Bool.or_eq_true, List.isEmpty_iff]

theorem splitName_of_no_dot {name : List Char} (h : '.' ∉ name) : splitName name = (name, []) := by
  have all : name.reverse.takeWhile (· != '.') = name.reverse := by
    simpa using takeWhile_of_no_dot h []
  unfold splitName
  simp [all]

/-- A name with an extension is its stem, a dot, and something without a dot. -/
theorem splitName_at_last_dot {name : List Char} (h : (splitName name).2 ≠ []) :
    ∃ stem back, name = stem ++ '.' :: back ∧ splitName name = (stem, '.' :: back) ∧
      '.' ∉ back ∧ stem ≠ [] ∧ back ≠ [] := by
  by_cases hd : '.' ∈ name.reverse
  · obtain ⟨after, before, hn, ha⟩ := List.eq_append_cons_of_mem hd
    have dotless : '.' ∉ after.reverse := fun hm => ha (List.mem_reverse.mp hm)
    have split : name = before.reverse ++ '.' :: after.reverse := by
      rw [← List.reverse_reverse name, hn]
      simp
    rw [split, splitName_of_dot dotless] at h ⊢
    by_cases he : after.reverse = [] ∨ before.reverse = []
    · rw [if_pos he] at h
      exact absurd rfl h
    · rw [if_neg he]
      rw [not_or] at he
      exact ⟨_, _, rfl, rfl, dotless, he.2, he.1⟩
  · rw [splitName_of_no_dot fun hm => hd (List.mem_reverse.mpr hm)] at h
    exact absurd rfl h

/-! ### The place of a source -/

/-- The place of a path from the top, without double dots, and with the slashes in front of it. -/
def absolute (cwd p : Path) : Path :=
  ⟨(cwd.join p).root, cwd.resolve p⟩

theorem names_absolute (cwd p : Path) : (cwd.absolute p).names = cwd.resolve p :=
  rfl

theorem names_eq_parent {p : Path} (h : p.name ≠ "") : p.names = p.parent.names ++ [p.name] := by
  have hn : p.names ≠ [] := by
    intro he
    simp [name, he] at h
  rw [parent, name, List.getLastD_eq_getLast?, List.getLast?_eq_some_getLast hn, Option.getD_some]
  exact (List.dropLast_concat_getLast hn).symm

theorem resolve_eq_parent (cwd : Path) {p : Path} (he : p.name ≠ "") (hu : p.name ≠ "..") :
    cwd.resolve p = cwd.resolve p.parent ++ [p.name] := by
  have down : ".." ∉ [p.name] := by simpa using Ne.symm hu
  rw [← resolve_below cwd p.parent down, ← names_eq_parent he]
  rfl

theorem root_join_of_root_eq (cwd : Path) {p q : Path} (h : p.root = q.root) :
    (cwd.join p).root = (cwd.join q).root := by
  unfold join isAbsolute
  rw [h]
  split
  · exact h
  · rfl

end Path

namespace Target

open Scaffold.Path (ofString)

variable {source a b : Path} {language : Language}

/-! ### Names of sources and of tests -/

theorem name_at_last_dot (hl : Language.ofPath source = .ok language) :
    ∃ back, source.name.toList = source.stem.toList ++ '.' :: back ∧
      source.extension.toList = '.' :: back ∧ '.' ∉ back ∧ back ≠ [] := by
  obtain ⟨stem, back, hn, split, hd, -, hb⟩ :=
    Path.splitName_at_last_dot (Language.splitName_ne_nil hl)
  refine ⟨back, ?_, ?_, hd, hb⟩
  · rw [Path.stem, split, String.toList_ofList]
    exact hn
  · rw [Path.extension, split, String.toList_ofList]

/-- Both sides of the dot hold something, so neither name is made of dots only. -/
theorem length_names (hl : Language.ofPath source = .ok language) (suffix : Value) :
    3 ≤ source.name.toList.length ∧
      source.name.toList.length < (fileName source suffix).toList.length := by
  obtain ⟨back, hn, he, -, hb⟩ := name_at_last_dot hl
  have stem := List.length_pos_iff.mpr (mt String.toList_eq_nil_iff.mp (Path.stem_ne_empty hl))
  have := List.length_pos_iff.mpr hb
  have dot : ".".toList.length = 1 := rfl
  simp only [fileName, String.toList_append, hn, he, List.length_append, List.length_cons]
  omega

theorem fileName_eq_iff {language' : Language} (ha : Language.ofPath a = .ok language)
    (hb : Language.ofPath b = .ok language') (suffix : Value) :
    fileName a suffix = fileName b suffix ↔ a.name = b.name := by
  constructor
  · intro h
    obtain ⟨back, hn, he, hd, -⟩ := name_at_last_dot ha
    obtain ⟨back', hn', he', hd', -⟩ := name_at_last_dot hb
    -- the last dot of either text is that of the extension
    have texts : (a.stem.toList ++ '.' :: suffix.format.toList) ++ '.' :: back =
        (b.stem.toList ++ '.' :: suffix.format.toList) ++ '.' :: back' := by
      have := congrArg String.toList h
      simpa [fileName, he, he'] using this
    obtain ⟨stems, rfl⟩ := Path.eq_of_last_dot hd hd' texts
    rw [← String.toList_inj, hn, hn', List.append_cancel_right stems]
  · intro h
    simp only [fileName, Path.stem, Path.extension, h]

/-! ### Places of tests -/

theorem resolve_source (cwd : Path) (hl : Language.ofPath source = .ok language) :
    cwd.resolve source = cwd.resolve source.parent ++ [source.name] := by
  have long := (length_names hl .null).1
  apply Path.resolve_eq_parent
  · intro he
    simp [he] at long
  · intro he
    simp [he] at long

theorem slash_not_mem_fileName (hp : source.Proper) (hl : Language.ofPath source = .ok language)
    {suffix : Value} (hs : '/' ∉ suffix.format.toList) :
    '/' ∉ (fileName source suffix).toList := by
  obtain ⟨back, hn, he, -⟩ := name_at_last_dot hl
  have name := hp.plain.name
  rw [hn, List.mem_append, not_or, ← he] at name
  simp [fileName, name, hs]

theorem fileName_ne_of_short (hl : Language.ofPath source = .ok language) (suffix : Value)
    {text : String} (h : text.toList.length < 4) : fileName source suffix ≠ text := by
  obtain ⟨long, longer⟩ := length_names hl suffix
  rintro rfl
  omega

theorem ofString_fileName (hp : source.Proper) (hl : Language.ofPath source = .ok language)
    {suffix : Value} (hs : '/' ∉ suffix.format.toList) :
    ofString (fileName source suffix) = ⟨.none, [fileName source suffix]⟩ :=
  Path.ofString_of_no_slash (slash_not_mem_fileName hp hl hs)
    (fileName_ne_of_short hl suffix (by decide)) (fileName_ne_of_short hl suffix (by decide))

theorem resolve_file (cwd folder : Path) (hp : source.Proper)
    (hl : Language.ofPath source = .ok language) {suffix : Value}
    (hs : '/' ∉ suffix.format.toList) :
    cwd.resolve (folder.join (ofString (fileName source suffix))) =
      cwd.resolve folder ++ [fileName source suffix] := by
  rw [ofString_fileName hp hl hs, Path.join_relative rfl]
  apply Path.resolve_below
  rw [List.mem_singleton]
  exact (fileName_ne_of_short hl suffix (by decide)).symm

theorem resolve_file_ne (cwd folder : Path) (hp : source.Proper)
    (hl : Language.ofPath source = .ok language) {suffix : Value}
    (hs : '/' ∉ suffix.format.toList) :
    cwd.resolve (folder.join (ofString (fileName source suffix))) ≠ cwd.resolve source := by
  have longer := (length_names hl suffix).2
  rw [resolve_file cwd folder hp hl hs, resolve_source cwd hl, ne_eq, List.append_singleton_inj]
  rintro ⟨-, names⟩
  rw [names] at longer
  omega

/-- The folder of the source is where that of the test starts, and the name of the source is in the
name of the test. -/
theorem resolve_file_eq_iff (cwd : Path) {language' : Language} (hpa : a.Proper) (hpb : b.Proper)
    (hla : Language.ofPath a = .ok language) (hlb : Language.ofPath b = .ok language')
    {suffix : Value} (hs : '/' ∉ suffix.format.toList) {test : Path} (hr : test.root = .none)
    (ho : ".." ∉ test.names) :
    cwd.resolve ((a.parent.join test).join (ofString (fileName a suffix))) =
        cwd.resolve ((b.parent.join test).join (ofString (fileName b suffix))) ↔
      cwd.resolve a = cwd.resolve b := by
  have folder (p : Path) : cwd.resolve (p.join test) = cwd.resolve p ++ test.names := by
    rw [Path.join_relative hr]
    exact Path.resolve_below cwd p ho
  rw [resolve_file cwd _ hpa hla hs, resolve_file cwd _ hpb hlb hs, resolve_source cwd hla,
    resolve_source cwd hlb, folder, folder, List.append_singleton_inj, List.append_singleton_inj,
    List.append_left_inj, fileName_eq_iff hla hlb]

theorem root_file (cwd : Path) (hp : source.Proper) (hl : Language.ofPath source = .ok language)
    {suffix : Value} (hs : '/' ∉ suffix.format.toList) {test : Path} (hr : test.root = .none) :
    (cwd.join ((source.parent.join test).join (ofString (fileName source suffix)))).root =
      (cwd.join source).root := by
  have relative := Path.root_ofString_of_no_slash (slash_not_mem_fileName hp hl hs)
  apply Path.root_join_of_root_eq
  rw [Path.join_relative relative, Path.join_relative hr]
  rfl

/-- With a suffix that has no slash and any text as test folder, the test of a source is never
placed over the source. With a relative test folder without double dots, the tests of two sources
lie at the same place, with or without the slashes in front, exactly when the sources do. -/
theorem tests_never_collide {settings : Settings} {text : String}
    (hf : settings.folder = .text text) (hs : '/' ∉ settings.suffix.format.toList) (cwd : Path) :
    (∀ (source : Path) (language : Language), source.Proper →
      Language.ofPath source = .ok language →
      ∃ target, ofSource cwd source settings = .ok target ∧
        cwd.resolve target.file ≠ cwd.resolve source ∧
        cwd.absolute target.file ≠ cwd.absolute source) ∧
    ((ofString text).root = .none → ".." ∉ (ofString text).names →
      ∀ (a b : Path) (language language' : Language), a.Proper → b.Proper →
        Language.ofPath a = .ok language → Language.ofPath b = .ok language' →
        ∃ target target', ofSource cwd a settings = .ok target ∧
          ofSource cwd b settings = .ok target' ∧
          (cwd.resolve target.file = cwd.resolve target'.file ↔ cwd.resolve a = cwd.resolve b) ∧
          (cwd.absolute target.file = cwd.absolute target'.file ↔
            cwd.absolute a = cwd.absolute b)) := by
  constructor
  · intro source language hp hl
    have apart := resolve_file_ne cwd (source.parent.join (ofString text)) hp hl hs
    have target := ofSource_of_text hf cwd source
    refine ⟨_, target, ?_⟩
    dsimp only
    refine ⟨apart, fun h => ?_⟩
    have names := congrArg Path.names h
    rw [Path.names_absolute, Path.names_absolute] at names
    exact apart names
  · intro hr ho a b language language' hpa hpb hla hlb
    have places := resolve_file_eq_iff cwd hpa hpb hla hlb hs hr ho
    have rootA := root_file cwd hpa hla hs hr
    have rootB := root_file cwd hpb hlb hs hr
    have target := ofSource_of_text hf cwd a
    have target' := ofSource_of_text hf cwd b
    refine ⟨_, _, target, target', ?_⟩
    dsimp only
    refine ⟨places, ?_⟩
    simp only [Path.absolute, Path.mk.injEq, rootA, rootB, places]

/-- A folder that leads back to the source, and two sources that differ by a dot, under an empty
suffix. -/
theorem dottedSources_apart :
    let cwd := ofString "/work/proj"
    (∃ target, ofSource cwd (ofString "src/m.ts") { folder := .text "../src" } = .ok target ∧
      cwd.resolve target.file ≠ cwd.resolve (ofString "src/m.ts")) ∧
    ∃ target target',
      ofSource cwd (ofString "src/m.ts") { folder := .text "t/./u", suffix := .text "" } =
        .ok target ∧
      ofSource cwd (ofString "src/../src/m..ts") { folder := .text "t/./u", suffix := .text "" } =
        .ok target' ∧
      cwd.absolute target.file ≠ cwd.absolute target'.file := by
  intro cwd
  have accepted : Language.ofPath (ofString "src/m.ts") = .ok .typescript := rfl
  have accepted' : Language.ofPath (ofString "src/../src/m..ts") = .ok .typescript := rfl
  constructor
  · obtain ⟨apart, -⟩ := tests_never_collide
      (show ({ folder := .text "../src" } : Settings).folder = _ from rfl) (by decide) cwd
    obtain ⟨target, ht, places, -⟩ := apart _ _ (Path.proper_ofString "src/m.ts") accepted
    exact ⟨target, ht, places⟩
  · obtain ⟨-, apart⟩ := tests_never_collide
      (show ({ folder := .text "t/./u", suffix := .text "" } : Settings).folder = _ from rfl)
      (by decide) cwd
    obtain ⟨target, target', ht, ht', -, same⟩ := apart (by decide) (by decide) _ _ _ _
      (Path.proper_ofString "src/m.ts") (Path.proper_ofString "src/../src/m..ts") accepted
      accepted'
    exact ⟨target, target', ht, ht', mt same.mp (by decide)⟩

end Target

end Scaffold
