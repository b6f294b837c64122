import Scaffold.Proofs.BindableNames
import Scaffold.Proofs.SurveyedTexts

/-!
# Names that nothing can be bound to

A survey takes names from declarations, from variables and from specifiers, and each of the three
looks at them in its own way. Declarations leave out the empty name, specifiers leave out quoted
names and turn `default` into the flag, and variables leave out nothing. So a surface has an empty
name where a variable or a specifier has one, and a reserved word wherever one is exported that is
neither quoted nor `default`.
-/

namespace Scaffold.Export

open Source (Tree)

theorem reads_iff (n : Tree) (s : String) : reads n s = true ↔ n.text = Text.Utf8.encode s := by
  rw [reads_eq_true_iff, Text.Utf8.decode_eq_ok_iff]

/-- The place exports what the node says under this name. -/
def Place.Names (p : Place) (n : Tree) (s : String) : Prop :=
  n.text = Text.Utf8.encode s ∧
    (p.Declares n ∧ s ≠ "" ∨ p.Introduces n ∨ p.Specifies n ∧ n.kind ≠ "string" ∧ s ≠ "default")

theorem mem_namers_iff (p : Place) (n : Tree) :
    n ∈ p.namers ↔ p.Declares n ∧ reads n "" = false ∨ p.Introduces n ∨
      p.Specifies n ∧ n.kind ≠ "string" ∧ reads n "default" = false := by
  unfold Place.Declares Place.Introduces Place.Specifies
  rw [← role_eq_declaration_iff, ← role_eq_variableStatement_iff, ← role_eq_specifier_iff]
  unfold Place.namers
  cases role p.node with
  | declaration =>
    by_cases he : p.Exported
    · simp [he, declarationNamers, and_assoc]
    · simp [he]
  | variableStatement =>
    by_cases he : p.Exported
    · simp [he, mem_variableNamers_iff]
    · simp [he]
  | specifier => simp [specifierNamers]
  | assignment => simp
  | other => simp

theorem mem_namers_of_text {p : Place} {n : Tree} {s : String} (h : n.text = Text.Utf8.encode s) :
    n ∈ p.namers ↔ p.Names n s := by
  have same (t : String) : reads n t = false ↔ s ≠ t := by
    rw [Bool.eq_false_iff, ne_eq, reads_iff, h]
    exact not_congr ⟨Text.Utf8.encode_inj, fun hs => hs ▸ rfl⟩
  rw [mem_namers_iff, same, same, Place.Names]
  exact (and_iff_right h).symm

theorem mem_names_iff {root : Tree} {surface : Surface} (h : (survey root).2 = .ok surface)
    (s : String) :
    s ∈ surface.names ↔ ∃ address p n, Reaches root address p ∧ p.Names n s := by
  obtain ⟨names, hn, spells⟩ := gather_spells h
  have listed : s ∈ surface.names ↔
      ∃ n ∈ (visited root).flatMap Place.namers, n.text = Text.Utf8.encode s := by
    have texts : (.ok s : Except Text.Utf8.Fault String) ∈ names.map .ok ↔ s ∈ names := by simp
    rw [hn, List.nil_append, ← texts, ← spells, List.mem_map]
    simp only [Text.Utf8.decode_eq_ok_iff]
  rw [listed]
  simp only [List.mem_flatMap, mem_visited_iff]
  constructor
  · intro ⟨n, ⟨p, ⟨address, hp⟩, hm⟩, ht⟩
    exact ⟨address, p, n, hp, (mem_namers_of_text ht).mp hm⟩
  · intro ⟨address, p, n, hp, hs⟩
    exact ⟨n, ⟨p, ⟨address, hp⟩, (mem_namers_of_text hs.1).mpr hs⟩, hs.1⟩

/-! ### Empty names -/

theorem declaredName_of_empty {p : Place} (hk : p.node.kind ∈ declarationKinds) (he : p.Exported)
    (h : ∀ n, p.Declares n → n.text = []) : declaredName p.node = .ok "" := by
  unfold declaredName
  cases hn : p.node.child? "name" with
  | none => rfl
  | some n =>
    by_cases name : n.kind = "identifier" ∨ n.kind = "type_identifier"
    · have text := h n ⟨hk, he, hn, name⟩
      simp only [Bool.or_eq_true, beq_iff_eq, name, if_true, text]
      rfl
    · simp only [Bool.or_eq_true, beq_iff_eq, name, if_false]

theorem finding_of_anonymous {p : Place} (hk : p.node.kind ∈ declarationKinds) (he : p.Exported)
    (h : ∀ n, p.Declares n → n.text = []) :
    finding p = .ok { remarks := [.anonymous p.node.kind] } := by
  have declaration : role p.node = .declaration := (role_eq_declaration_iff p.node).mpr hk
  simp only [finding, declaration, declarationFinding, p.isExported_iff.mpr he,
    declaredName_of_empty hk he h]
  rfl

/-- A surface has an empty name exactly when a variable or an unquoted specifier that the survey
comes to has one. A declaration without a name, or with an empty one, leaves a remark only. -/
theorem empty_name_of_variable_or_specifier (root : Tree) (surface : Surface)
    (h : (survey root).2 = .ok surface) :
    ("" ∈ surface.names ↔ ∃ address p n, Reaches root address p ∧ n.text = [] ∧
      (p.Introduces n ∨ p.Specifies n ∧ n.kind ≠ "string")) ∧
    ∀ address p, Reaches root address p → p.node.kind ∈ declarationKinds → p.Exported →
      (∀ n, p.Declares n → n.text = []) →
        finding p = .ok { remarks := [.anonymous p.node.kind] } := by
  refine ⟨?_, fun address p _ hk he hn => finding_of_anonymous hk he hn⟩
  rw [mem_names_iff h]
  simp [Place.Names, Text.Utf8.encode_empty]

/-- A class without a name, and a variable and a specifier whose names are missing. -/
def namelessModule : Tree :=
  .branch "program" [
    .branch "export_statement" [.branch "class_declaration" [.leaf "class_body" []]],
    .branch "export_statement" [
      .branch "lexical_declaration" [
        .branch "variable_declarator" [(Tree.leaf "identifier" []).under "name"]]],
    .branch "export_specifier" [(Tree.leaf "identifier" []).under "name"]]

theorem survey_namelessModule : (survey namelessModule).2 = .ok ⟨["", ""], false⟩ := by
  rw [survey, visited_eq_filter]
  rfl

theorem namelessModule_has_empty_export :
    ∃ address p n, Reaches namelessModule address p ∧ n.text = [] ∧
      (p.Introduces n ∨ p.Specifies n ∧ n.kind ≠ "string") :=
  (empty_name_of_variable_or_specifier namelessModule _ survey_namelessModule).1.mp (by simp)

theorem namelessModule_has_empty_name :
    ¬∀ surface, (survey namelessModule).2 = .ok surface → ∀ name ∈ surface.names, name ≠ "" := by
  intro named
  exact named _ survey_namelessModule "" (by simp) rfl

/-! ### Reserved words -/

def Reserved (word : String) : Prop :=
  word ∈ Identifier.keywords ∨ word ∈ Identifier.strictWords

instance (word : String) : Decidable (Reserved word) :=
  inferInstanceAs (Decidable (_ ∨ _))

theorem Reserved.ne_empty {word : String} (h : Reserved word) : word ≠ "" := by
  intro empty
  rw [empty] at h
  revert h
  decide

theorem reserved_mem_names_iff {root : Tree} {surface : Surface}
    (h : (survey root).2 = .ok surface) {word : String} (hw : Reserved word) :
    word ∈ surface.names ↔ ∃ address p n, Reaches root address p ∧
      n.text = Text.Utf8.encode word ∧
        (p.Declares n ∨ p.Introduces n ∨ p.Specifies n ∧ n.kind ≠ "string" ∧ word ≠ "default") := by
  rw [mem_names_iff h]
  simp only [Place.Names, hw.ne_empty, ne_eq, not_false_eq_true, and_true]

/-- A reserved word is among the names exactly when a declaration, a variable or an unquoted
specifier exports it, save for `default` in a specifier. Where declarations and variables have
other names, as the grammar makes sure, all names can be bound exactly when no unquoted specifier
exports a reserved word but `default`. A quoted name leaves a remark only. -/
theorem reserved_name_of_unquoted_export (root : Tree) (surface : Surface)
    (h : (survey root).2 = .ok surface) :
    (∀ word, Reserved word → (word ∈ surface.names ↔ ∃ address p n, Reaches root address p ∧
      n.text = Text.Utf8.encode word ∧
        (p.Declares n ∨ p.Introduces n ∨
          p.Specifies n ∧ n.kind ≠ "string" ∧ word ≠ "default"))) ∧
    ((∀ address p n word, Reaches root address p → p.Declares n ∨ p.Introduces n →
        n.text = Text.Utf8.encode word → ¬Reserved word) →
      ((∀ name ∈ surface.names, ¬Reserved name) ↔
        ∀ address p n word, Reaches root address p → p.Specifies n → n.kind ≠ "string" →
          n.text = Text.Utf8.encode word → Reserved word → word = "default")) ∧
    ∀ address p n s, Reaches root address p → p.Specifies n → n.kind = "string" →
      n.text = Text.Utf8.encode s → finding p = .ok { remarks := [.quotedName s] } := by
  refine ⟨fun word hw => reserved_mem_names_iff h hw, fun plain => ?_,
    fun address p n s _ hs hk hn => finding_of_quoted hs hk hn⟩
  constructor
  · intro free address p n word hp hs hk hn hw
    by_contra other
    exact free word ((reserved_mem_names_iff h hw).mpr
      ⟨address, p, n, hp, hn, Or.inr (Or.inr ⟨hs, hk, other⟩)⟩) hw
  · intro only word hm hw
    obtain ⟨address, p, n, hp, hn, source⟩ := (reserved_mem_names_iff h hw).mp hm
    rcases source with declared | introduced | ⟨hs, hk, other⟩
    · exact plain address p n word hp (Or.inl declared) hn hw
    · exact plain address p n word hp (Or.inr introduced) hn hw
    · exact other (only address p n word hp hs hk hn hw)

/-- Specifiers with a reserved word, with `default` and with a quoted word, and a function. -/
def keywordModule : Tree :=
  .branch "program" [
    .branch "export_statement" [
      .branch "export_clause" [
        .branch "export_specifier" [
          (Tree.leaf "identifier" [97]).under "name",
          (Tree.leaf "identifier" [99, 108, 97, 115, 115]).under "alias"],
        .branch "export_specifier" [
          (Tree.leaf "identifier" [98]).under "name",
          (Tree.leaf "identifier" [100, 101, 102, 97, 117, 108, 116]).under "alias"],
        .branch "export_specifier" [
          (Tree.leaf "identifier" [99]).under "name",
          (Tree.leaf "string" [34, 105, 102, 34]).under "alias"]]],
    .branch "export_statement" [
      .branch "function_declaration" [(Tree.leaf "identifier" [102]).under "name"]]]

theorem survey_keywordModule : (survey keywordModule).2 = .ok ⟨["class", "f"], true⟩ := by
  rw [survey, visited_eq_filter]
  rfl

/-- Elsewhere than in specifiers, the name of the function is the only text. -/
theorem keywordModule_declares {address : List Nat} {p : Place} {n : Tree}
    (hp : Reaches keywordModule address p) (hn : p.Declares n ∨ p.Introduces n) :
    n.text = Text.Utf8.encode "f" := by
  have texts : ((visited keywordModule).filter (role ·.node != .specifier)).flatMap Place.texts =
      [(Tree.leaf "identifier" [102]).under "name"] := by
    rw [visited_eq_filter]
    rfl
  have other : role p.node ≠ .specifier := by
    rcases hn with ⟨hk, _⟩ | ⟨hk, _⟩
    · simp [(role_eq_declaration_iff p.node).mpr hk]
    · simp [(role_eq_variableStatement_iff p.node).mpr hk]
  have listed : n ∈ [(Tree.leaf "identifier" [102]).under "name"] := by
    rw [← texts, List.mem_flatMap]
    refine ⟨p, List.mem_filter.mpr ⟨(mem_visited_iff _ p).mpr ⟨address, hp⟩, ?_⟩,
      (mem_texts_iff p n).mpr (hn.imp_right Or.inl)⟩
    simpa using other
  rw [List.mem_singleton.mp listed]
  exact Text.Utf8.decode_eq_ok_iff.mp rfl

theorem keywordModule_exports_reserved :
    ¬∀ address p n word, Reaches keywordModule address p → p.Specifies n → n.kind ≠ "string" →
      n.text = Text.Utf8.encode word → Reserved word → word = "default" := by
  intro only
  have plain : ∀ address p n word, Reaches keywordModule address p →
      p.Declares n ∨ p.Introduces n → n.text = Text.Utf8.encode word → ¬Reserved word := by
    intro address p n word hp hn ht
    rw [Text.Utf8.encode_inj (ht.symm.trans (keywordModule_declares hp hn))]
    decide
  have free := ((reserved_name_of_unquoted_export keywordModule _ survey_keywordModule).2.1 plain).mpr
    only
  exact free "class" (by simp) (by decide)

theorem keywordModule_has_reserved_name :
    ¬∀ surface, (survey keywordModule).2 = .ok surface →
      ∀ name ∈ surface.names, ¬Reserved name := by
  intro free
  exact free _ survey_keywordModule "class" (by simp) (by decide)

end Scaffold.Export
