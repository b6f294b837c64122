import Scaffold.Proofs.DocumentOrder

/-!
# The names of a surface

Every place that the walk visits has some nodes that name what it exports, mostly none or one. The
names of the surface are the texts of these nodes, place after place in document order.
-/

namespace Scaffold.Export

open Source (Tree)

/-- The parent, or what stands above it when it is ambient, is an export statement that has
neither `default` nor `=` among its children. -/
def Place.Exported (p : Place) : Prop :=
  ∃ t : Tree,
    ((∃ rest, p.above = t :: rest ∧ t.kind ≠ "ambient_declaration") ∨
      ∃ ambient rest, p.above = ambient :: t :: rest ∧ ambient.kind = "ambient_declaration") ∧
    t.kind = "export_statement" ∧ ∀ c ∈ t.children, c.kind ≠ "default" ∧ c.kind ≠ "="

theorem exporter?_of_ambient {parent : Tree} (above : List Tree)
    (h : parent.kind = "ambient_declaration") : exporter? (parent :: above) = above.head? := by
  simp [exporter?, h]

theorem exporter?_of_not_ambient {parent : Tree} (above : List Tree)
    (h : parent.kind ≠ "ambient_declaration") : exporter? (parent :: above) = some parent := by
  simp [exporter?, h]

theorem exporter?_eq_some_iff (above : List Tree) (t : Tree) :
    exporter? above = some t ↔
      (∃ rest, above = t :: rest ∧ t.kind ≠ "ambient_declaration") ∨
        ∃ ambient rest, above = ambient :: t :: rest ∧ ambient.kind = "ambient_declaration" := by
  constructor
  · intro h
    cases above with
    | nil => simp [exporter?] at h
    | cons parent above =>
      by_cases ha : parent.kind = "ambient_declaration"
      · rw [exporter?_of_ambient above ha, List.head?_eq_some_iff] at h
        obtain ⟨rest, rfl⟩ := h
        exact Or.inr ⟨parent, rest, rfl, ha⟩
      · rw [exporter?_of_not_ambient above ha, Option.some.injEq] at h
        subst h
        exact Or.inl ⟨above, rfl, ha⟩
  · rintro (⟨rest, rfl, ha⟩ | ⟨ambient, rest, rfl, ha⟩)
    · exact exporter?_of_not_ambient rest ha
    · rw [exporter?_of_ambient _ ha, List.head?_cons]

theorem isAssignment_eq_false_iff {t : Tree} (h : t.kind = "export_statement") :
    isAssignment t = false ↔ ∀ c ∈ t.children, c.kind ≠ "default" ∧ c.kind ≠ "=" := by
  simp only [isAssignment, Tree.hasChild, h, beq_self_eq_true, Bool.true_and, Bool.or_eq_false_iff,
    List.any_eq_false, beq_iff_eq]
  exact ⟨fun ⟨hd, he⟩ c hc => ⟨hd c hc, he c hc⟩, fun h => ⟨fun c hc => (h c hc).1, fun c hc => (h c hc).2⟩⟩

theorem Place.isExported_iff (p : Place) : p.isExported = true ↔ p.Exported := by
  simp only [Place.Exported, ← exporter?_eq_some_iff]
  unfold Place.isExported
  cases exporter? p.above with
  | none => simp
  | some t =>
    simp only [Option.some.injEq, exists_eq_left', Bool.and_eq_true, beq_iff_eq,
      Bool.not_eq_eq_eq_not, Bool.not_true]
    exact and_congr_right fun hk => isAssignment_eq_false_iff hk

theorem Place.isExported_eq_false (p : Place) (h : ¬p.Exported) : p.isExported = false :=
  Bool.eq_false_iff.mpr (mt p.isExported_iff.mp h)

instance (p : Place) : Decidable p.Exported :=
  decidable_of_iff _ p.isExported_iff

/-- The text of the node is `s`. -/
def reads (n : Tree) (s : String) : Bool :=
  match Text.Utf8.decode n.text with
  | .ok text => text == s
  | .error _ => false

/-- The name of a declaration, where it has one that is not empty. -/
def declarationNamers (t : Tree) : List Tree :=
  (t.child? "name").toList.filter fun n =>
    (n.kind == "identifier" || n.kind == "type_identifier") && !reads n ""

/-- The names of the variables that are not taken apart. -/
def variableNamers (t : Tree) : List Tree :=
  (t.namedChildren.filter (·.kind == "variable_declarator")).filterMap fun d =>
    (d.child? "name").filter (·.kind == "identifier")

/-- The alias of a specifier, else its name, unless that is quoted or says `default`. -/
def specifierNamers (t : Tree) : List Tree :=
  ((t.child? "alias").or (t.child? "name")).toList.filter fun n =>
    n.kind != "string" && !reads n "default"

/-- The nodes whose texts a place contributes. -/
def Place.namers (p : Place) : List Tree :=
  match role p.node with
  | .declaration => if p.Exported then declarationNamers p.node else []
  | .variableStatement => if p.Exported then variableNamers p.node else []
  | .specifier => specifierNamers p.node
  | .assignment => []
  | .other => []

theorem reads_of_decode {n : Tree} {text : String} (h : Text.Utf8.decode n.text = .ok text)
    (s : String) : reads n s = (text == s) := by
  simp [reads, h]

/-! ### One place -/

/-- The names of a finding are the texts of some nodes, each of which could be read. -/
def Spells (nodes : List Tree) (names : List String) : Prop :=
  nodes.map (fun n => Text.Utf8.decode n.text) = names.map .ok

theorem spells_nil : Spells [] [] :=
  rfl

theorem spells_singleton {n : Tree} {s : String} (h : Text.Utf8.decode n.text = .ok s) :
    Spells [n] [s] := by
  simp [Spells, h]

theorem Spells.append {ns ms : List Tree} {ss ts : List String} (hn : Spells ns ss)
    (hm : Spells ms ts) : Spells (ns ++ ms) (ss ++ ts) := by
  simp only [Spells, List.map_append] at *
  rw [hn, hm]

theorem spells_of_mapM {nodes : List Tree} {names : List String}
    (h : nodes.mapM (fun n => Text.Utf8.decode n.text) = .ok names) : Spells nodes names := by
  induction nodes generalizing names with
  | nil =>
    cases h
    rfl
  | cons n nodes ih =>
    rw [List.mapM_cons] at h
    cases hn : Text.Utf8.decode n.text with
    | error f => simp [hn, bind, Except.bind] at h
    | ok s =>
      cases hr : nodes.mapM (fun n => Text.Utf8.decode n.text) with
      | error f => simp [hn, hr, bind, Except.bind] at h
      | ok rest =>
        simp only [hn, hr, bind, Except.bind, pure, Except.pure, Except.ok.injEq] at h
        subst h
        exact (spells_singleton hn).append (ih hr)

theorem declaredName_spells {t : Tree} {s : String} (h : declaredName t = .ok s) :
    Spells (declarationNamers t) (if s.isEmpty then [] else [s]) := by
  unfold declaredName at h
  unfold declarationNamers
  cases hn : t.child? "name" with
  | none =>
    rw [hn] at h
    cases h
    rfl
  | some n =>
    simp only [hn] at h
    by_cases hk : (n.kind == "identifier" || n.kind == "type_identifier") = true
    · rw [if_pos hk] at h
      by_cases hs : s = ""
      · simp [hk, reads_of_decode h, hs, spells_nil]
      · have he : s.isEmpty = false := by simpa using hs
        simp [hk, reads_of_decode h, hs, he, spells_singleton h]
    · rw [if_neg hk] at h
      cases h
      simp [Bool.not_eq_true _ ▸ hk, spells_nil]

theorem declaratorNames_spells {t : Tree} {names : List String}
    (h : declaratorNames t = .ok names) : Spells (variableNamers t) names := by
  have := spells_of_mapM h
  rw [List.filter_filterMap] at this
  exact this

theorem specifierFinding_spells {t : Tree} {f : Finding} (h : specifierFinding t = .ok f) :
    Spells (specifierNamers t) f.names := by
  unfold specifierFinding at h
  unfold specifierNamers
  change Spells ((specifierNode? t).toList.filter _) _
  cases hn : specifierNode? t with
  | none =>
    rw [hn] at h
    cases h
    rfl
  | some n =>
    cases ht : Text.Utf8.decode n.text with
    | error e => simp [hn, ht, bind, Except.bind] at h
    | ok text =>
      simp only [hn, ht, bind, Except.bind, pure, Except.pure, Except.ok.injEq] at h
      subst h
      by_cases hk : n.kind = "string"
      · simp [hk, spells_nil]
      · by_cases hd : text = "default"
        · simp [hk, hd, reads_of_decode ht, spells_nil]
        · simp [hk, hd, reads_of_decode ht, spells_singleton ht]

theorem declarationFinding_spells {p : Place} {f : Finding} (h : declarationFinding p = .ok f) :
    Spells (if p.Exported then declarationNamers p.node else []) f.names := by
  unfold declarationFinding at h
  by_cases he : p.Exported
  · rw [p.isExported_iff.mpr he] at h
    rw [if_pos he]
    cases hn : declaredName p.node with
    | error e => simp [hn, bind, Except.bind] at h
    | ok name =>
      have hs := declaredName_spells hn
      simp only [hn, bind, Except.bind, pure, Except.pure, Bool.not_true, Bool.false_eq_true,
        if_false, Except.ok.injEq] at h
      subst h
      rw [apply_ite Finding.names]
      exact hs
  · rw [p.isExported_eq_false he] at h
    cases h
    simp [he, spells_nil]

theorem variableFinding_spells {p : Place} {f : Finding} (h : variableFinding p = .ok f) :
    Spells (if p.Exported then variableNamers p.node else []) f.names := by
  unfold variableFinding at h
  by_cases he : p.Exported
  · rw [p.isExported_iff.mpr he] at h
    rw [if_pos he]
    cases hn : declaratorNames p.node with
    | error e => simp [hn, bind, Except.bind] at h
    | ok names =>
      simp only [hn, bind, Except.bind, pure, Except.pure, Bool.not_true, Bool.false_eq_true,
        if_false, Except.ok.injEq] at h
      subst h
      exact declaratorNames_spells hn
  · rw [p.isExported_eq_false he] at h
    cases h
    simp [he, spells_nil]

theorem finding_spells {p : Place} {f : Finding} (h : finding p = .ok f) :
    Spells p.namers f.names := by
  unfold finding at h
  unfold Place.namers
  cases hr : role p.node with
  | declaration =>
    rw [hr] at h
    exact declarationFinding_spells h
  | variableStatement =>
    rw [hr] at h
    exact variableFinding_spells h
  | assignment =>
    rw [hr] at h
    cases h
    rfl
  | specifier =>
    rw [hr] at h
    exact specifierFinding_spells h
  | other =>
    rw [hr] at h
    cases h
    rfl

/-! ### The whole walk -/

theorem gather_cons_ok {p : Place} {places : List Place} {s r : Surface}
    (h : (gather (p :: places) s).2 = .ok r) :
    ∃ f, finding p = .ok f ∧ (gather places (s.add f)).2 = .ok r := by
  rw [gather] at h
  cases hf : finding p with
  | error e => simp [hf] at h
  | ok f =>
    rw [hf] at h
    exact ⟨f, rfl, h⟩

theorem gather_spells {places : List Place} {s r : Surface} (h : (gather places s).2 = .ok r) :
    ∃ names, r.names = s.names ++ names ∧ Spells (places.flatMap Place.namers) names := by
  induction places generalizing s with
  | nil =>
    cases h
    exact ⟨[], by simp, spells_nil⟩
  | cons p places ih =>
    obtain ⟨f, hf, hr⟩ := gather_cons_ok h
    obtain ⟨names, hn, hs⟩ := ih hr
    refine ⟨f.names ++ names, ?_, (finding_spells hf).append hs⟩
    rw [hn, Surface.add, List.append_assoc]

/-- A list of addresses that leads through some places can be thinned out with them. -/
theorem filter_addresses {root : Place} {order : List (List Nat)} {found : List Place}
    (h : order.map root.descend = found.map some) (keep : Place → Bool) :
    (order.filter fun a => (root.descend a).any keep).map root.descend =
      (found.filter keep).map some := by
  induction order generalizing found with
  | nil => simp_all
  | cons address order ih =>
    cases found with
    | nil => simp at h
    | cons p found =>
      obtain ⟨hp, hr⟩ := List.cons.inj h
      by_cases hk : keep p = true
      · simp [hp, hk, ih hr]
      · simp [hp, hk, ih hr]

/-- When the survey of a tree gives a surface, the walk has visited the addresses with passed nodes
above them only, each of them once and in document order, and the names of the surface are the
texts that the visited places contribute, in the order of the visit. -/
theorem survey_in_document_order (root : Tree) (surface : Surface)
    (h : (survey root).2 = .ok surface) :
    ∃ order : List (List Nat),
      order.Pairwise (· < ·) ∧
      (∀ address, address ∈ order ↔
        ∃ p, Place.descend ⟨root, []⟩ address = some p ∧ ∀ t ∈ p.above, role t = .other) ∧
      order.map (Place.descend ⟨root, []⟩) = (visited root).map some ∧
      ((visited root).flatMap Place.namers).map (fun n => Text.Utf8.decode n.text) =
        surface.names.map .ok := by
  have hm := filter_addresses (map_descend_addresses root []) Place.isOpen
  refine ⟨_, (addresses_sorted root).filter _, ?_, hm.trans ?_, ?_⟩
  · intro address
    rw [List.mem_filter, Option.any_eq_true]
    constructor
    · rintro ⟨-, p, hp, ho⟩
      exact ⟨p, hp, p.isOpen_iff.mp ho⟩
    · rintro ⟨p, hp, ho⟩
      exact ⟨mem_addresses hp, p, hp, p.isOpen_iff.mpr ho⟩
  · rw [visited_eq_filter]
    rfl
  · obtain ⟨names, hn, hs⟩ := gather_spells h
    rw [hn]
    exact hs

/-- Two variables, a function with a specifier inside it, and a specifier with an alias. -/
def sampleModule : Tree :=
  .branch "program" [
    .branch "export_statement" [
      .branch "lexical_declaration" [
        .branch "variable_declarator" [(Tree.leaf "identifier" [97]).under "name"],
        .branch "variable_declarator" [(Tree.leaf "identifier" [98]).under "name"]]],
    .branch "function_declaration" [
      .branch "export_specifier" [(Tree.leaf "identifier" [99]).under "name"]],
    .branch "export_statement" [
      .branch "export_clause" [
        .branch "export_specifier" [
          (Tree.leaf "identifier" [98]).under "name", (Tree.leaf "identifier" [97]).under "alias"]]]]

theorem survey_sampleModule : ∃ order : List (List Nat),
    order.Pairwise (· < ·) ∧
    order.map (Place.descend ⟨sampleModule, []⟩) = (visited sampleModule).map some ∧
    ((visited sampleModule).flatMap Place.namers).map (fun n => Text.Utf8.decode n.text) =
      ["a", "b", "a"].map .ok := by
  have hs : (survey sampleModule).2 = .ok ⟨["a", "b", "a"], false⟩ := by
    rw [survey, visited_eq_filter]
    rfl
  obtain ⟨order, sorted, -, reached, names⟩ := survey_in_document_order sampleModule _ hs
  exact ⟨order, sorted, reached, names⟩

end Scaffold.Export
