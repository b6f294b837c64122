import Mathlib.Data.List.Forall2
import Scaffold.Proofs.SurveyNames

/-!
# Syntax that cannot leak into the surface

Most of a tree is of no concern to a survey: bodies, initial values, default expressions and all of
what is not exported. Two trees have the same interface when they differ in such parts only. The
walk then goes through both in lockstep, with stacks that match place by place, and finds the same
at every step; so the surveys are equal, with their remarks and their faults.
-/

namespace Scaffold.Export

open Source (Tree)

/-- The type and the text of the first child under a field. -/
def fieldLabel (t : Tree) (field : String) : Option (String × Bytes) :=
  (t.child? field).map fun n => (n.kind, n.text)

/-- The names of the variables of a statement, one entry for each variable. -/
def declaratorLabels (t : Tree) : List (Option (String × Bytes)) :=
  (t.namedChildren.filter (·.kind == "variable_declarator")).map (fieldLabel · "name")

/-- The places differ at most in parts below them that are no part of what is exported. The nodes
have the same type; all else about them is free, but for what the constructors name. -/
inductive SameInterface : Place → Place → Prop where
  /-- What is declared and not exported may be anything. -/
  | unexported {p q : Place} (hk : q.node.kind = p.node.kind)
      (hr : role p.node = .declaration ∨ role p.node = .variableStatement) (he : ¬p.Exported) :
      SameInterface p q
  | declaration {p q : Place} (hk : q.node.kind = p.node.kind) (hr : role p.node = .declaration)
      (hn : fieldLabel q.node "name" = fieldLabel p.node "name") : SameInterface p q
  | variableStatement {p q : Place} (hk : q.node.kind = p.node.kind)
      (hr : role p.node = .variableStatement)
      (hn : declaratorLabels q.node = declaratorLabels p.node) : SameInterface p q
  | assignment {p q : Place} (hk : q.node.kind = p.node.kind) (hr : role p.node = .assignment)
      (hd : q.node.hasChild "default" = p.node.hasChild "default")
      (he : q.node.hasChild "=" = p.node.hasChild "=") : SameInterface p q
  | specifier {p q : Place} (hk : q.node.kind = p.node.kind) (hr : role p.node = .specifier)
      (ha : fieldLabel q.node "alias" = fieldLabel p.node "alias")
      (hn : fieldLabel q.node "name" = fieldLabel p.node "name") : SameInterface p q
  /-- A node that is passed has children that correspond one by one. -/
  | passed {p q : Place} (hk : q.node.kind = p.node.kind) (hr : role p.node = .other)
      (hc : List.Forall₂ SameInterface p.children q.children) : SameInterface p q

theorem SameInterface.kind {p q : Place} (h : SameInterface p q) : q.node.kind = p.node.kind := by
  cases h <;> assumption

/-! ### Roles -/

theorem role_congr {t u : Tree} (hk : u.kind = t.kind) (ha : isAssignment u = isAssignment t) :
    role u = role t := by
  simp only [role, hk, ha]

theorem isAssignment_congr {t u : Tree} (hk : u.kind = t.kind)
    (hd : u.hasChild "default" = t.hasChild "default") (he : u.hasChild "=" = t.hasChild "=") :
    isAssignment u = isAssignment t := by
  simp only [isAssignment, hk, hd, he]

theorem isAssignment_of_kind_ne {t : Tree} (h : t.kind ≠ "export_statement") :
    isAssignment t = false := by
  simp [isAssignment, h]

/-- An export statement is an assignment or is passed. -/
theorem kind_ne_of_role {t : Tree} (ha : role t ≠ .assignment) (ho : role t ≠ .other) :
    t.kind ≠ "export_statement" := by
  intro hk
  have hr : role t = if isAssignment t then .assignment else .other := by
    simp [role, hk, declarationKinds, variableKinds]
  cases h : isAssignment t with
  | true => exact ha (by simp [hr, h])
  | false => exact ho (by simp [hr, h])

/-- Whether some child has a type can be seen from the types of the children. -/
theorem hasChild_of_children {p q : Place} (h : List.Forall₂ SameInterface p.children q.children)
    (kind : String) : q.node.hasChild kind = p.node.hasChild kind := by
  have kinds : q.children.map (·.node.kind) = p.children.map (·.node.kind) := by
    rw [← List.forall₂_eq_eq_eq, List.forall₂_map_left_iff, List.forall₂_map_right_iff]
    exact h.flip.imp fun _ _ hc => hc.kind
  have seen (r : Place) :
      r.node.hasChild kind = (r.children.map (·.node.kind)).any (· == kind) := by
    simp [Tree.hasChild, Place.children, List.any_map, Function.comp_def]
  rw [seen, seen, kinds]

theorem SameInterface.isAssignment {p q : Place} (h : SameInterface p q) :
    isAssignment q.node = isAssignment p.node := by
  have neither (hk : q.node.kind = p.node.kind) (ha : role p.node ≠ .assignment)
      (ho : role p.node ≠ .other) : Export.isAssignment q.node = Export.isAssignment p.node := by
    have hp := kind_ne_of_role ha ho
    rw [isAssignment_of_kind_ne hp, isAssignment_of_kind_ne (hk ▸ hp)]
  cases h with
  | unexported hk hr _ => rcases hr with hr | hr <;> exact neither hk (by simp [hr]) (by simp [hr])
  | declaration hk hr _ => exact neither hk (by simp [hr]) (by simp [hr])
  | variableStatement hk hr _ => exact neither hk (by simp [hr]) (by simp [hr])
  | specifier hk hr _ _ => exact neither hk (by simp [hr]) (by simp [hr])
  | assignment hk _ hd he => exact isAssignment_congr hk hd he
  | passed hk _ hc =>
    exact isAssignment_congr hk (hasChild_of_children hc "default") (hasChild_of_children hc "=")

theorem SameInterface.role {p q : Place} (h : SameInterface p q) : role q.node = role p.node :=
  role_congr h.kind h.isAssignment

/-! ### What is above -/

/-- The nodes above have the same types, and the same ones of them are assignments. -/
def SameAbove (above others : List Tree) : Prop :=
  List.Forall₂ (fun t u => u.kind = t.kind ∧ isAssignment u = isAssignment t) above others

theorem isExported_congr {p q : Place} (h : SameAbove p.above q.above) :
    q.isExported = p.isExported := by
  obtain ⟨node, above⟩ := p
  obtain ⟨other, others⟩ := q
  cases h with
  | nil => rfl
  | @cons parent mate above others parents rest =>
    obtain ⟨hk, ha⟩ := parents
    unfold Place.isExported
    by_cases ambient : parent.kind = "ambient_declaration"
    · -- under an ambient parent the node above it decides
      rw [exporter?_of_ambient above ambient, exporter?_of_ambient others (hk.trans ambient)]
      cases rest with
      | nil => rfl
      | cons grandparents _ => simp only [List.head?_cons, grandparents.1, grandparents.2]
    · rw [exporter?_of_not_ambient above ambient,
        exporter?_of_not_ambient others (fun h => ambient (hk.symm.trans h))]
      simp only [hk, ha]

/-! ### What one place contributes -/

theorem declaredName_congr {t u : Tree} (h : fieldLabel u "name" = fieldLabel t "name") :
    declaredName u = declaredName t := by
  have labelled : ∀ v : Tree, declaredName v =
      match fieldLabel v "name" with
      | some (kind, text) =>
        if kind == "identifier" || kind == "type_identifier" then Text.Utf8.decode text else .ok ""
      | none => .ok "" := by
    intro v
    unfold declaredName fieldLabel
    cases v.child? "name" <;> rfl
  rw [labelled, labelled, h]

theorem declaratorNames_congr {t u : Tree} (h : declaratorLabels u = declaratorLabels t) :
    declaratorNames u = declaratorNames t := by
  have labelled : ∀ v : Tree, declaratorNames v =
      (((declaratorLabels v).filterMap id).filter (·.1 == "identifier")).mapM fun label =>
        Text.Utf8.decode label.2 := by
    intro v
    have labels : (declaratorLabels v).filterMap id =
        ((v.namedChildren.filter (·.kind == "variable_declarator")).filterMap
          (·.child? "name")).map fun n => (n.kind, n.text) := by
      rw [declaratorLabels, List.filterMap_map, List.map_filterMap]
      rfl
    rw [labels, List.filter_map, List.mapM_map]
    rfl
  rw [labelled, labelled, h]

theorem specifierFinding_congr {t u : Tree} (ha : fieldLabel u "alias" = fieldLabel t "alias")
    (hn : fieldLabel u "name" = fieldLabel t "name") : specifierFinding u = specifierFinding t := by
  have labelled : ∀ v : Tree, specifierFinding v =
      match (fieldLabel v "alias").or (fieldLabel v "name") with
      | none => .ok {}
      | some (kind, bytes) => do
        let text ← Text.Utf8.decode bytes
        return if kind == "string" then { remarks := [.quotedName text] }
          else if text == "default" then { default? := some true }
          else { names := [text] } := by
    intro v
    unfold specifierFinding specifierNode? fieldLabel
    rw [← Option.map_or]
    cases (v.child? "alias").or (v.child? "name") <;> rfl
  rw [labelled, labelled, ha, hn]

/-- The places have the same interface, and what is above them does not tell them apart. -/
structure Matched (p q : Place) : Prop where
  interface : SameInterface p q
  above : SameAbove p.above q.above

theorem Matched.finding {p q : Place} (h : Matched p q) : finding q = finding p := by
  have exported := isExported_congr h.above
  unfold Export.finding
  rw [h.interface.role]
  cases h.interface with
  | unexported hk hr he =>
    have hidden := p.isExported_eq_false he
    rcases hr with hr | hr
    · simp only [hr, declarationFinding, exported, hidden]
      rfl
    · simp only [hr, variableFinding, exported, hidden]
      rfl
  | declaration hk hr hn =>
    simp only [hr, declarationFinding, exported, declaredName_congr hn, hk]
  | variableStatement _ hr hn =>
    simp only [hr, variableFinding, exported, declaratorNames_congr hn]
  | assignment _ hr _ he => simp only [hr, isEquals, he]
  | specifier _ hr ha hn => simp only [hr, specifierFinding_congr ha hn]
  | passed _ hr _ => simp only [hr]

/-! ### The walk in lockstep -/

theorem SameInterface.children {p q : Place} (h : SameInterface p q)
    (hr : Export.role p.node = .other) :
    List.Forall₂ SameInterface p.children q.children := by
  cases h with
  | passed _ _ hc => exact hc
  | unexported _ ho _ => simp [hr] at ho
  | declaration _ ho _ => simp [hr] at ho
  | variableStatement _ ho _ => simp [hr] at ho
  | assignment _ ho _ _ => simp [hr] at ho
  | specifier _ ho _ _ => simp [hr] at ho

/-- Where one walk goes down, so does the other, and the children are matched again. -/
theorem Matched.children {p q : Place} (h : Matched p q) (hr : role p.node = .other) :
    List.Forall₂ Matched p.children q.children := by
  have same := h.interface.children hr
  have above : SameAbove (p.node :: p.above) (q.node :: q.above) :=
    .cons ⟨h.interface.kind, h.interface.isAssignment⟩ h.above
  simp only [Place.children, List.forall₂_map_left_iff, List.forall₂_map_right_iff] at same ⊢
  exact same.imp fun _ _ hc => ⟨hc, above⟩

theorem map_finding_visit {stack others : List Place} (h : List.Forall₂ Matched stack others) :
    (visit others).map finding = (visit stack).map finding := by
  induction stack using visit.induct generalizing others with
  | case1 =>
    cases h
    rfl
  | case2 p stack hr ih =>
    cases h with
    | @cons _ q _ others hp hs =>
      have hq : (role q.node == .other) = true := by rw [hp.interface.role, hr]
      have below := hp.children (by simpa using hr)
      rw [visit, visit, if_pos hr, if_pos hq, List.map_cons, List.map_cons, hp.finding,
        ih (List.rel_append below hs)]
  | case3 p stack hr ih =>
    cases h with
    | @cons _ q _ others hp hs =>
      have hq : ¬(role q.node == .other) = true := by rwa [hp.interface.role]
      rw [visit, visit, if_neg hr, if_neg hq, List.map_cons, List.map_cons, hp.finding, ih hs]

theorem gather_congr {places others : List Place} (h : others.map finding = places.map finding)
    (s : Surface) : gather others s = gather places s := by
  induction places generalizing others s with
  | nil =>
    rw [List.map_nil, List.map_eq_nil_iff] at h
    rw [h]
  | cons p places ih =>
    cases others with
    | nil => cases h
    | cons q others =>
      obtain ⟨hq, hs⟩ := List.cons.inj h
      simp only [gather, hq, ih hs]

/-- Trees with the same interface have the same survey: the same surface or the same fault, and the
same remarks. -/
theorem survey_of_same_interface (t u : Tree) (h : SameInterface ⟨t, []⟩ ⟨u, []⟩) :
    survey u = survey t :=
  gather_congr (map_finding_visit (.cons ⟨h, .nil⟩ .nil)) {}

/-- A module with the same tree in the body of an exported function, in a default expression, in the
value of an exported variable and in a class that is not exported. -/
def wrapping (inner : Tree) : Tree :=
  .branch "program" [
    .branch "export_statement" [
      .branch "function_declaration" [(Tree.leaf "identifier" [97]).under "name", inner]],
    .branch "export_statement" [.mark "default", .branch "arrow_function" [inner]],
    .branch "export_statement" [
      .branch "lexical_declaration" [
        .branch "variable_declarator" [(Tree.leaf "identifier" [98]).under "name", inner]]],
    .branch "class_declaration" [inner]]

/-- A specifier whose name is no text, which the walk would stumble over. -/
def stumblingBlock : Tree :=
  .branch "export_specifier" [(Tree.leaf "identifier" [255]).under "name"]

theorem survey_wrapping_stumblingBlock :
    survey (wrapping stumblingBlock) = survey (wrapping (.mark "=")) := by
  apply survey_of_same_interface
  refine .passed rfl (by decide) (.cons ?_ (.cons ?_ (.cons ?_ (.cons ?_ .nil))))
  · exact .passed rfl (by decide) (.cons (.declaration rfl (by decide) rfl) .nil)
  · exact .assignment rfl (by decide) (by decide) (by decide)
  · exact .passed rfl (by decide) (.cons (.variableStatement rfl (by decide) rfl) .nil)
  · exact .unexported rfl (.inl (by decide)) (by decide)

end Scaffold.Export
