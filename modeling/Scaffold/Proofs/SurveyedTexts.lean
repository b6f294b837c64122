import Scaffold.Proofs.DefaultFlag
import Scaffold.Proofs.Utf8Forms

/-!
# The texts that a survey reads

A survey reads the names of exported declarations and variables, and of specifiers the exported
name, quoted or not. It reads them as texts one after another in document order, and what it makes
of them comes later; so it fails where the first of them is no text, and nowhere else.
-/

namespace Scaffold.Export

open Source (Tree)
open Text (Utf8.Fault)

/-! ### Names of a place -/

/-- The node names a declaration that is exported. -/
def Place.Declares (p : Place) (n : Tree) : Prop :=
  p.node.kind ∈ declarationKinds ∧ p.Exported ∧ p.node.child? "name" = some n ∧
    (n.kind = "identifier" ∨ n.kind = "type_identifier")

/-- The node names a variable of a statement that is exported. -/
def Place.Introduces (p : Place) (n : Tree) : Prop :=
  p.node.kind ∈ variableKinds ∧ p.Exported ∧
    ∃ d ∈ p.node.children, d.kind = "variable_declarator" ∧ d.named = true ∧
      d.child? "name" = some n ∧ n.kind = "identifier"

/-- The node is the alias of a specifier, or its name where it has no alias. -/
def Place.Specifies (p : Place) (n : Tree) : Prop :=
  p.node.kind = "export_specifier" ∧ (p.node.child? "alias").or (p.node.child? "name") = some n

theorem role_eq_declaration_iff (t : Tree) : role t = .declaration ↔ t.kind ∈ declarationKinds := by
  by_cases h : t.kind ∈ declarationKinds
  · simp [role, h]
  · simp only [role, List.contains_iff_mem, h, if_false, iff_false]
    split_ifs <;> simp

theorem role_eq_variableStatement_iff (t : Tree) :
    role t = .variableStatement ↔ t.kind ∈ variableKinds := by
  by_cases h : t.kind ∈ variableKinds
  · have other : t.kind ∉ declarationKinds := by
      have apart : ∀ kind ∈ variableKinds, kind ∉ declarationKinds := by decide
      exact apart t.kind h
    simp [role, h, other]
  · simp only [role, List.contains_iff_mem, h, if_false, iff_false]
    split_ifs <;> simp

/-- The nodes whose texts are read at a place, in their order. -/
def Place.texts (p : Place) : List Tree :=
  match role p.node with
  | .declaration =>
    if p.Exported then
      (p.node.child? "name").toList.filter fun n =>
        n.kind == "identifier" || n.kind == "type_identifier"
    else []
  | .variableStatement => if p.Exported then variableNamers p.node else []
  | .specifier => (specifierNode? p.node).toList
  | .assignment => []
  | .other => []

theorem mem_variableNamers_iff (t n : Tree) : n ∈ variableNamers t ↔
    ∃ d ∈ t.children, d.kind = "variable_declarator" ∧ d.named = true ∧ d.child? "name" = some n ∧
      n.kind = "identifier" := by
  simp [variableNamers, Tree.namedChildren, Option.filter_eq_some_iff, and_assoc]

theorem mem_texts_iff (p : Place) (n : Tree) :
    n ∈ p.texts ↔ p.Declares n ∨ p.Introduces n ∨ p.Specifies n := by
  unfold Place.Declares Place.Introduces Place.Specifies
  rw [← role_eq_declaration_iff, ← role_eq_variableStatement_iff, ← role_eq_specifier_iff]
  unfold Place.texts
  cases role p.node with
  | declaration =>
    by_cases he : p.Exported
    · simp [he]
    · simp [he]
  | variableStatement =>
    by_cases he : p.Exported
    · simp [he, mem_variableNamers_iff]
    · simp [he]
  | specifier => simp [specifierNode?]
  | assignment => simp
  | other => simp

/-! ### Faults -/

/-- The fault that stands in the way of a result. -/
def faultOf {α : Type} : Except Utf8.Fault α → Option Utf8.Fault
  | .error f => some f
  | .ok _ => none

theorem faultOf_eq_some_iff {α : Type} {x : Except Utf8.Fault α} {f : Utf8.Fault} :
    faultOf x = some f ↔ x = .error f := by
  cases x <;> simp [faultOf]

theorem faultOf_eq_none_iff {α : Type} {x : Except Utf8.Fault α} :
    faultOf x = none ↔ ∃ a, x = .ok a := by
  cases x <;> simp [faultOf]

theorem faultOf_bind_pure {α β : Type} (x : Except Utf8.Fault α) (g : α → β) :
    faultOf (x >>= fun a => pure (g a)) = faultOf x := by
  cases x <;> rfl

def textFault? (n : Tree) : Option Utf8.Fault :=
  faultOf (Text.Utf8.decode n.text)

theorem textFault?_eq_none_iff (n : Tree) :
    textFault? n = none ↔ ∃ s, n.text = Text.Utf8.encode s := by
  simp only [textFault?, faultOf_eq_none_iff, Text.Utf8.decode_eq_ok_iff]

theorem textFault?_eq_some_iff (n : Tree) (f : Utf8.Fault) :
    textFault? n = some f ↔ Text.Utf8.decode n.text = .error f :=
  faultOf_eq_some_iff

theorem faultOf_mapM (nodes : List Tree) :
    faultOf (nodes.mapM fun n => Text.Utf8.decode n.text) = nodes.findSome? textFault? := by
  induction nodes with
  | nil => rfl
  | cons n nodes ih =>
    rw [List.mapM_cons, List.findSome?_cons, ← ih, textFault?]
    cases Text.Utf8.decode n.text with
    | error f => rfl
    | ok s => exact faultOf_bind_pure _ _

/-! ### The fault of a place -/

theorem faultOf_declaredName (t : Tree) :
    faultOf (declaredName t) = ((t.child? "name").toList.filter fun n =>
      n.kind == "identifier" || n.kind == "type_identifier").findSome? textFault? := by
  unfold declaredName
  cases t.child? "name" with
  | none => rfl
  | some n =>
    by_cases hk : (n.kind == "identifier" || n.kind == "type_identifier") = true
    · simp [hk, textFault?]
    · simp [hk, faultOf]

theorem faultOf_declaratorNames (t : Tree) :
    faultOf (declaratorNames t) = (variableNamers t).findSome? textFault? := by
  unfold declaratorNames
  rw [faultOf_mapM, List.filter_filterMap]
  rfl

theorem faultOf_declarationFinding (p : Place) :
    faultOf (declarationFinding p) = (if p.Exported then
      (p.node.child? "name").toList.filter fun n =>
        n.kind == "identifier" || n.kind == "type_identifier"
      else []).findSome? textFault? := by
  unfold declarationFinding
  by_cases he : p.Exported
  · rw [p.isExported_iff.mpr he, if_pos he, ← faultOf_declaredName]
    exact faultOf_bind_pure _ _
  · rw [p.isExported_eq_false he, if_neg he]
    rfl

theorem faultOf_variableFinding (p : Place) :
    faultOf (variableFinding p) =
      (if p.Exported then variableNamers p.node else []).findSome? textFault? := by
  unfold variableFinding
  by_cases he : p.Exported
  · rw [p.isExported_iff.mpr he, if_pos he, ← faultOf_declaratorNames]
    exact faultOf_bind_pure _ _
  · rw [p.isExported_eq_false he, if_neg he]
    rfl

theorem faultOf_specifierFinding (t : Tree) :
    faultOf (specifierFinding t) = (specifierNode? t).toList.findSome? textFault? := by
  unfold specifierFinding
  cases specifierNode? t with
  | none => rfl
  | some n =>
    rw [Option.toList_some, List.findSome?_singleton]
    exact faultOf_bind_pure _ _

theorem faultOf_finding (p : Place) : faultOf (finding p) = p.texts.findSome? textFault? := by
  unfold finding Place.texts
  cases role p.node with
  | declaration => exact faultOf_declarationFinding p
  | variableStatement => exact faultOf_variableFinding p
  | specifier => exact faultOf_specifierFinding p.node
  | assignment => rfl
  | other => rfl

/-! ### The fault of a survey -/

theorem faultOf_gather (places : List Place) (s : Surface) :
    faultOf (gather places s).2 = (places.flatMap Place.texts).findSome? textFault? := by
  induction places generalizing s with
  | nil => rfl
  | cons p places ih =>
    rw [gather, List.flatMap_cons, List.findSome?_append, ← faultOf_finding]
    cases finding p with
    | error f => rfl
    | ok f => exact ih _

theorem faultOf_survey (root : Tree) :
    faultOf (survey root).2 = ((visited root).flatMap Place.texts).findSome? textFault? :=
  faultOf_gather _ _

theorem mem_visited_iff (root : Tree) (p : Place) :
    p ∈ visited root ↔ ∃ address, Reaches root address p := by
  have listed : some p ∈ (addresses root).map (Place.descend ⟨root, []⟩) ↔ p ∈ places root := by
    rw [map_descend_addresses root []]
    simp [places]
  rw [visited_eq_filter, List.mem_filter, ← listed, List.mem_map, p.isOpen_iff]
  constructor
  · intro h
    obtain ⟨⟨address, -, hp⟩, ho⟩ := h
    exact ⟨address, hp, ho⟩
  · intro h
    obtain ⟨address, hp, ho⟩ := h
    exact ⟨⟨address, mem_addresses hp, hp⟩, ho⟩

theorem survey_eq_ok_iff (root : Tree) :
    (∃ surface, (survey root).2 = .ok surface) ↔
      ∀ address p n, Reaches root address p → p.Declares n ∨ p.Introduces n ∨ p.Specifies n →
        ∃ s, n.text = Text.Utf8.encode s := by
  rw [← faultOf_eq_none_iff, faultOf_survey, List.findSome?_eq_none_iff]
  simp only [List.mem_flatMap, mem_visited_iff, mem_texts_iff, textFault?_eq_none_iff]
  constructor
  · intro h address p n hp hn
    exact h n ⟨p, ⟨address, hp⟩, hn⟩
  · intro h n hn
    obtain ⟨p, ⟨address, hp⟩, hn⟩ := hn
    exact h address p n hp hn

theorem survey_eq_error_iff (root : Tree) (fault : Utf8.Fault) :
    (survey root).2 = .error fault ↔
      ∃ before n after, (visited root).flatMap Place.texts = before ++ n :: after ∧
        (∀ m ∈ before, ∃ s, m.text = Text.Utf8.encode s) ∧
        Text.Utf8.decode n.text = .error fault := by
  rw [← faultOf_eq_some_iff, faultOf_survey, List.findSome?_eq_some_iff]
  simp only [textFault?_eq_none_iff, textFault?_eq_some_iff, and_comm]

theorem finding_of_quoted {p : Place} {n : Tree} {s : String} (hs : p.Specifies n)
    (hk : n.kind = "string") (hn : n.text = Text.Utf8.encode s) :
    finding p = .ok { remarks := [.quotedName s] } := by
  obtain ⟨kind, node⟩ := hs
  have specifier : role p.node = .specifier := (role_eq_specifier_iff p.node).mpr kind
  have exported : specifierNode? p.node = some n := node
  have text := Text.Utf8.decode_eq_ok_iff.mpr hn
  simp only [finding, specifier, specifierFinding, exported, text, hk]
  rfl

/-- A survey gives a surface exactly when every text that it reads is one, whatever the bytes of
other nodes are. Otherwise it fails with the fault of the first text in its way. A quoted name is
read although it adds nothing: as a text it leaves a remark only, and else the survey fails. -/
theorem survey_stops_only_at_garbled_text (root : Tree) :
    ((∃ surface, (survey root).2 = .ok surface) ↔
      ∀ address p n, Reaches root address p → p.Declares n ∨ p.Introduces n ∨ p.Specifies n →
        ∃ s, n.text = Text.Utf8.encode s) ∧
    (∀ fault, (survey root).2 = .error fault ↔
      ∃ before n after, (visited root).flatMap Place.texts = before ++ n :: after ∧
        (∀ m ∈ before, ∃ s, m.text = Text.Utf8.encode s) ∧
        Text.Utf8.decode n.text = .error fault) ∧
    ∀ address p n, Reaches root address p → p.Specifies n → n.kind = "string" →
      (∃ s, n.text = Text.Utf8.encode s ∧ finding p = .ok { remarks := [.quotedName s] }) ∨
        ∃ fault, (survey root).2 = .error fault := by
  refine ⟨survey_eq_ok_iff root, survey_eq_error_iff root, fun address p n hp hs hk => ?_⟩
  cases hr : (survey root).2 with
  | error fault => exact Or.inr ⟨fault, rfl⟩
  | ok surface =>
    have all := (survey_eq_ok_iff root).mp ⟨surface, hr⟩
    obtain ⟨s, hn⟩ := all address p n hp (Or.inr (Or.inr hs))
    exact Or.inl ⟨s, hn, finding_of_quoted hs hk hn⟩

/-- A class and, behind it, a specifier, both with names that are no texts. -/
def garbledModule : Tree :=
  .branch "program" [
    .branch "class_declaration" [(Tree.leaf "type_identifier" [254]).under "name"],
    .branch "export_statement" [
      .branch "class_declaration" [(Tree.leaf "type_identifier" [97, 226, 130]).under "name"]],
    .branch "export_specifier" [(Tree.leaf "identifier" [255]).under "name"]]

/-- The name that is not exported is passed over, and that of the specifier is not reached. -/
theorem garbledModule_stops_at_class : (survey garbledModule).2 = .error ⟨226, 1, 2, .truncated⟩ := by
  refine ((survey_stops_only_at_garbled_text garbledModule).2.1 _).mpr
    ⟨[], (Tree.leaf "type_identifier" [97, 226, 130]).under "name",
      [(Tree.leaf "identifier" [255]).under "name"], ?_, by simp, rfl⟩
  rw [visited_eq_filter]
  rfl

/-- A specifier with a quoted name that is no text. -/
def garbledQuote : Tree :=
  .branch "program" [
    .branch "export_specifier" [(Tree.leaf "string" [34, 255, 34]).under "name"]]

theorem garbledQuote_stops_survey :
    (survey garbledQuote).2 = .error ⟨255, 1, 1, .start⟩ ∧
      ¬∃ surface, (survey garbledQuote).2 = .ok surface := by
  have fails : (survey garbledQuote).2 = .error ⟨255, 1, 1, .start⟩ := by
    rw [survey, visited_eq_filter]
    rfl
  refine ⟨fails, fun h => ?_⟩
  obtain ⟨surface, h⟩ := h
  rw [fails] at h
  cases h

end Scaffold.Export
