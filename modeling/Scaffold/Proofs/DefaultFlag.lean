import Mathlib.Tactic.SplitIfs
import Scaffold.Proofs.SurveyNames

/-!
# The default flag

Two kinds of nodes write the flag of a surface. An export assignment writes what it says, and a
specifier that exports something as `default` writes yes. Every write replaces the one before it,
so the flag is what the last of these nodes says, in the order of the addresses.
-/

namespace Scaffold.Export

open Source (Tree)

/-- An export statement that assigns the default or the whole module, or a specifier whose exported
name is the unquoted word `default`. -/
def SetsDefault (t : Tree) : Prop :=
  (t.kind = "export_statement" ∧ ∃ c ∈ t.children, c.kind = "default" ∨ c.kind = "=") ∨
    t.kind = "export_specifier" ∧ ∃ n, (t.child? "alias").or (t.child? "name") = some n ∧
      n.kind ≠ "string" ∧ Text.Utf8.decode n.text = .ok "default"

def AssignsModule (t : Tree) : Prop :=
  t.kind = "export_statement" ∧ ∃ c ∈ t.children, c.kind = "="

/-- What a node writes into the flag. -/
def verdict? (t : Tree) : Option Bool :=
  match role t with
  | .assignment => some (!isEquals t)
  | .specifier =>
    if (specifierNode? t).any fun n => n.kind != "string" && reads n "default" then some true
    else none
  | .declaration | .variableStatement | .other => none

/-! ### Roles -/

theorem role_eq_assignment_iff (t : Tree) :
    role t = .assignment ↔
      t.kind = "export_statement" ∧ ∃ c ∈ t.children, c.kind = "default" ∨ c.kind = "=" := by
  have assignment : isAssignment t = true ↔
      t.kind = "export_statement" ∧ ∃ c ∈ t.children, c.kind = "default" ∨ c.kind = "=" := by
    simp [isAssignment, Tree.hasChild, and_or_left, exists_or]
  rw [← assignment]
  by_cases hk : t.kind = "export_statement"
  · cases ha : isAssignment t <;> simp [role, hk, ha, declarationKinds, variableKinds]
  · have ha : isAssignment t = false := by simp [isAssignment, hk]
    simp only [role, ha, Bool.false_eq_true, if_false]
    split_ifs <;> simp

theorem role_eq_specifier_iff (t : Tree) :
    role t = .specifier ↔ t.kind = "export_specifier" := by
  by_cases hk : t.kind = "export_specifier"
  · simp [role, isAssignment, hk, declarationKinds, variableKinds]
  · simp only [role, hk, beq_iff_eq, if_false]
    split_ifs <;> simp

theorem reads_eq_true_iff (n : Tree) (s : String) :
    reads n s = true ↔ Text.Utf8.decode n.text = .ok s := by
  unfold reads
  cases Text.Utf8.decode n.text <;> simp

/-! ### What one node writes -/

theorem isSome_verdict?_iff (t : Tree) : (verdict? t).isSome = true ↔ SetsDefault t := by
  unfold SetsDefault
  rw [← role_eq_assignment_iff, ← role_eq_specifier_iff]
  unfold verdict?
  cases role t with
  | specifier =>
    simp only [← specifierNode?.eq_1, reduceCtorEq, false_or, true_and]
    cases hn : specifierNode? t with
    | none => simp
    | some n => simp [reads_eq_true_iff]
  | _ => simp

instance (t : Tree) : Decidable (SetsDefault t) :=
  decidable_of_iff _ (isSome_verdict?_iff t)

theorem verdict?_eq_false_iff (t : Tree) : verdict? t = some false ↔ AssignsModule t := by
  have equals : isEquals t = true ↔ ∃ c ∈ t.children, c.kind = "=" := by
    simp [isEquals, Tree.hasChild]
  constructor
  · intro h
    unfold verdict? at h
    cases hr : role t with
    | assignment =>
      have he : isEquals t = true := by simpa [hr] using h
      exact ⟨((role_eq_assignment_iff t).mp hr).1, equals.mp he⟩
    | _ => simp [hr] at h
  · rintro ⟨hk, c, hc, he⟩
    have hr : role t = .assignment := (role_eq_assignment_iff t).mpr ⟨hk, c, hc, Or.inr he⟩
    simp [verdict?, hr, equals.mpr ⟨c, hc, he⟩]

theorem declarationFinding_default {p : Place} {f : Finding} (h : declarationFinding p = .ok f) :
    f.default? = none := by
  unfold declarationFinding at h
  cases hn : declaredName p.node <;> cases he : p.isExported <;>
    simp [hn, he, bind, Except.bind, pure, Except.pure] at h <;> rw [← h]
  split_ifs <;> rfl

theorem variableFinding_default {p : Place} {f : Finding} (h : variableFinding p = .ok f) :
    f.default? = none := by
  unfold variableFinding at h
  cases hn : declaratorNames p.node <;> cases he : p.isExported <;>
    simp [hn, he, bind, Except.bind, pure, Except.pure] at h <;> simp [← h]

theorem specifierFinding_default {t : Tree} {f : Finding} (hr : role t = .specifier)
    (h : specifierFinding t = .ok f) : f.default? = verdict? t := by
  unfold specifierFinding at h
  unfold verdict?
  simp only [hr]
  cases hn : specifierNode? t with
  | none =>
    simp only [hn] at h
    cases h
    rfl
  | some n =>
    cases ht : Text.Utf8.decode n.text with
    | error e => simp [hn, ht, bind, Except.bind] at h
    | ok text =>
      simp only [hn, ht, bind, Except.bind, pure, Except.pure, Except.ok.injEq] at h
      rw [← h]
      by_cases hk : n.kind = "string" <;> by_cases hd : text = "default" <;>
        simp [hk, hd, reads_of_decode ht]

theorem finding_default {p : Place} {f : Finding} (h : finding p = .ok f) :
    f.default? = verdict? p.node := by
  unfold finding at h
  cases hr : role p.node with
  | declaration =>
    rw [hr] at h
    simp [verdict?, hr, declarationFinding_default h]
  | variableStatement =>
    rw [hr] at h
    simp [verdict?, hr, variableFinding_default h]
  | assignment =>
    rw [hr] at h
    cases h
    simp [verdict?, hr]
  | specifier =>
    rw [hr] at h
    exact specifierFinding_default hr h
  | other =>
    rw [hr] at h
    cases h
    simp [verdict?, hr]

/-! ### The last write -/

theorem gather_hasDefault {places : List Place} {s r : Surface} (h : (gather places s).2 = .ok r) :
    r.hasDefault = (places.filterMap (verdict? ·.node)).getLast?.getD s.hasDefault := by
  induction places generalizing s with
  | nil =>
    cases h
    rfl
  | cons p places ih =>
    obtain ⟨f, hf, hr⟩ := gather_cons_ok h
    rw [ih hr, Surface.add, finding_default hf]
    cases hv : verdict? p.node with
    | none => simp [hv]
    | some v => simp [hv, List.getLast?_cons]

/-- In a sorted list, the last value comes from an address behind which no other has a value. -/
theorem last_value_of_sorted {order : List (List Nat)} (sorted : order.Pairwise (· < ·))
    {f : List Nat → Option Bool} {v : Bool} (h : (order.filterMap f).getLast? = some v) :
    ∃ a ∈ order, f a = some v ∧ ∀ b ∈ order, a < b → f b = none := by
  induction order with
  | nil => simp at h
  | cons first order ih =>
    obtain ⟨before, sorted⟩ := List.pairwise_cons.mp sorted
    -- a value further back wins over that of the first address
    cases hl : (order.filterMap f).getLast? with
    | some w =>
      have hw : w = v := by
        cases hf : f first <;> simpa [hf, List.getLast?_cons, hl] using h
      obtain ⟨a, ha, hv, last⟩ := ih sorted (hw ▸ hl)
      refine ⟨a, List.mem_cons_of_mem _ ha, hv, fun b hb hab => ?_⟩
      rcases List.mem_cons.mp hb with rfl | hb
      · exact absurd hab (List.lt_asymm (before a ha))
      · exact last b hb hab
    | none =>
      have nothing : ∀ b ∈ order, f b = none := by
        simpa [List.getLast?_eq_none_iff, List.filterMap_eq_nil_iff] using hl
      have hv : f first = some v := by
        cases hf : f first with
        | none => simp [hf, hl] at h
        | some w => simpa [hf, List.getLast?_cons, hl] using h
      refine ⟨first, List.mem_cons_self, hv, fun b hb hab => ?_⟩
      rcases List.mem_cons.mp hb with rfl | hb
      · exact absurd hab (List.lt_irrefl b)
      · exact nothing b hb

/-- The address leads to a place that the walk visits. -/
def Reaches (root : Tree) (address : List Nat) (p : Place) : Prop :=
  Place.descend ⟨root, []⟩ address = some p ∧ ∀ t ∈ p.above, role t = .other

/-- What the place at an address writes, if the walk comes there. -/
def verdictAt (root : Tree) (address : List Nat) : Option Bool :=
  (Place.descend ⟨root, []⟩ address).bind fun p => if p.isOpen then verdict? p.node else none

theorem verdictAt_of_reaches {root : Tree} {address : List Nat} {p : Place}
    (h : Reaches root address p) : verdictAt root address = verdict? p.node := by
  simp [verdictAt, h.1, p.isOpen_iff.mpr h.2]

theorem reaches_of_verdictAt {root : Tree} {address : List Nat} {v : Bool}
    (h : verdictAt root address = some v) :
    ∃ p, Reaches root address p ∧ verdict? p.node = some v := by
  obtain ⟨p, hp, hv⟩ := Option.bind_eq_some_iff.mp h
  cases ho : p.isOpen with
  | true => exact ⟨p, ⟨hp, p.isOpen_iff.mp ho⟩, by simpa [ho] using hv⟩
  | false => simp [ho] at hv

theorem filterMap_verdictAt (root : Tree) :
    (addresses root).filterMap (verdictAt root) = (visited root).filterMap (verdict? ·.node) := by
  have listed := map_descend_addresses root []
  calc (addresses root).filterMap (verdictAt root)
      = ((addresses root).map (Place.descend ⟨root, []⟩)).filterMap
          (·.bind fun p => if p.isOpen then verdict? p.node else none) := by
        rw [List.filterMap_map]
        rfl
    _ = (places root).filterMap fun p => if p.isOpen then verdict? p.node else none := by
        rw [listed, List.filterMap_map]
        rfl
    _ = (visited root).filterMap (verdict? ·.node) := by
        rw [visited_eq_filter, List.filterMap_filter]

theorem findSome?_verdict (nodes : List Tree) :
    nodes.findSome? verdict? = (nodes.find? SetsDefault).bind verdict? := by
  induction nodes with
  | nil => rfl
  | cons t nodes ih =>
    by_cases hs : SetsDefault t
    · obtain ⟨v, hv⟩ := Option.isSome_iff_exists.mp ((isSome_verdict?_iff t).mpr hs)
      simp [hs, hv]
    · have hv : verdict? t = none := by simpa using mt (isSome_verdict?_iff t).mp hs
      simp [hs, hv, ih]

theorem getLast?_verdicts (nodes : List Tree) :
    (nodes.filterMap verdict?).getLast? = (nodes.filter SetsDefault).getLast?.bind verdict? := by
  rw [List.getLast?_filterMap, List.getLast?_filter, findSome?_verdict]

/-- When the survey of a tree gives a surface, either no visited node sets the flag and it is off,
or it is what the last visited node that sets it says: off for an assignment of the whole module,
and on otherwise. So two trees whose last such nodes are the same have the same flag, whatever
else they hold. -/
theorem default_flag_of_last_setter (root : Tree) (surface : Surface)
    (h : (survey root).2 = .ok surface) :
    ((∀ address p, Reaches root address p → ¬SetsDefault p.node) ∧ surface.hasDefault = false ∨
      ∃ address p, Reaches root address p ∧ SetsDefault p.node ∧
        (∀ later q, Reaches root later q → address < later → ¬SetsDefault q.node) ∧
        (surface.hasDefault = false ↔ AssignsModule p.node)) ∧
    ∀ (other : Tree) (found : Surface), (survey other).2 = .ok found →
      (((visited other).map Place.node).filter SetsDefault).getLast? =
        (((visited root).map Place.node).filter SetsDefault).getLast? →
      found.hasDefault = surface.hasDefault := by
  have flag {tree : Tree} {s : Surface} (hs : (survey tree).2 = .ok s) :
      s.hasDefault = ((visited tree).filterMap (verdict? ·.node)).getLast?.getD false :=
    gather_hasDefault hs
  refine ⟨?_, fun other found hf same => ?_⟩
  · have hs := flag h
    rw [← filterMap_verdictAt] at hs
    cases hl : ((addresses root).filterMap (verdictAt root)).getLast? with
    | none =>
      have nothing : ∀ a ∈ addresses root, verdictAt root a = none := by
        rwa [List.getLast?_eq_none_iff, List.filterMap_eq_nil_iff] at hl
      refine Or.inl ⟨fun address p hp => ?_, by simpa [hl] using hs⟩
      rw [← isSome_verdict?_iff, ← verdictAt_of_reaches hp, nothing address (mem_addresses hp.1)]
      simp
    | some v =>
      obtain ⟨address, -, ha, last⟩ := last_value_of_sorted (addresses_sorted root) hl
      obtain ⟨p, hp, hv⟩ := reaches_of_verdictAt ha
      refine Or.inr ⟨address, p, hp, (isSome_verdict?_iff _).mp (by simp [hv]), ?_, ?_⟩
      · intro later q hq after
        rw [← isSome_verdict?_iff, ← verdictAt_of_reaches hq, last later (mem_addresses hq.1) after]
        simp
      · rw [← verdict?_eq_false_iff, hv, hs, hl]
        simp
  · have nodes (tree : Tree) : (visited tree).filterMap (verdict? ·.node) =
        ((visited tree).map Place.node).filterMap verdict? := by
      rw [List.filterMap_map]
      rfl
    rw [flag hf, flag h, nodes, nodes, getLast?_verdicts, getLast?_verdicts, same]

/-- A default, taken back in a namespace, given again by a specifier and followed by a function. -/
def contestedModule : Tree :=
  .branch "program" [
    .branch "export_statement" [.mark "default", .leaf "identifier" [97]],
    .branch "internal_module" [
      .branch "statement_block" [
        .branch "export_statement" [.mark "=", .leaf "identifier" [98]]]],
    .branch "export_statement" [
      .branch "export_clause" [
        .branch "export_specifier" [
          (Tree.leaf "identifier" [99]).under "name",
          (Tree.leaf "identifier" [100, 101, 102, 97, 117, 108, 116]).under "alias"]]],
    .branch "export_statement" [
      .branch "function_declaration" [(Tree.leaf "identifier" [102]).under "name"]]]

theorem contestedModule_has_default :
    (survey contestedModule).2 = .ok ⟨["f"], true⟩ ∧
      ∃ address p, Reaches contestedModule address p ∧ SetsDefault p.node ∧
        (∀ later q, Reaches contestedModule later q → address < later → ¬SetsDefault q.node) ∧
        ¬AssignsModule p.node := by
  have hs : (survey contestedModule).2 = .ok ⟨["f"], true⟩ := by
    rw [survey, visited_eq_filter]
    rfl
  refine ⟨hs, ?_⟩
  rcases (default_flag_of_last_setter contestedModule _ hs).1 with ⟨-, off⟩ | ⟨a, p, hr, hp, last, flag⟩
  · simp at off
  · exact ⟨a, p, hr, hp, last, fun assigns => by simpa using flag.mpr assigns⟩

end Scaffold.Export
