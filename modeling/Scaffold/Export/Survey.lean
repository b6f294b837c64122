import Scaffold.Export.Surface
import Scaffold.Source.Tree

/-!
# The exports of a tree

A tree is visited from the root. Declarations, variable statements, export assignments and export
specifiers end a branch: what they contribute is read off them, and nothing below them is looked
at. Every other node is passed and its children are visited in order.

* `visited` lists the places of a tree that are looked at, in document order.
* `finding` says what one place contributes.
* `survey` puts the contributions together; it stops at a text that is not valid UTF-8.
-/

namespace Scaffold.Export

open Source (Tree)
open Text (Utf8.Fault)

/-- A node together with the nodes above it, the nearest first. -/
structure Place where
  node : Tree
  above : List Tree := []
deriving Inhabited

inductive Role where
  | declaration
  | variableStatement
  | assignment
  | specifier
  | other
deriving Repr, DecidableEq, Inhabited

def declarationKinds : List String :=
  ["class_declaration", "abstract_class_declaration", "function_declaration",
    "generator_function_declaration", "function_signature"]

def variableKinds : List String :=
  ["lexical_declaration", "variable_declaration"]

/-- An export that assigns the whole module, not its default. -/
def isEquals (t : Tree) : Bool :=
  t.hasChild "="

/-- A default export or an export that assigns the whole module. -/
def isAssignment (t : Tree) : Bool :=
  t.kind == "export_statement" && (t.hasChild "default" || t.hasChild "=")

def role (t : Tree) : Role :=
  if declarationKinds.contains t.kind then .declaration
  else if variableKinds.contains t.kind then .variableStatement
  else if isAssignment t then .assignment
  else if t.kind == "export_specifier" then .specifier
  else .other

/-- The node that decides whether a declaration is exported: the parent, or what is above an
ambient parent. -/
def exporter? : List Tree → Option Tree
  | [] => none
  | parent :: above => if parent.kind == "ambient_declaration" then above.head? else some parent

/-- The place stands directly in an export statement that is no assignment. -/
def Place.isExported (p : Place) : Bool :=
  match exporter? p.above with
  | some t => t.kind == "export_statement" && !isAssignment t
  | none => false

def Place.children (p : Place) : List Place :=
  p.node.children.map fun c => ⟨c, p.node :: p.above⟩

/-- Something worth a remark that does not change the surface. -/
inductive Remark where
  | anonymous (kind : String)
  | quotedName (text : String)
deriving Repr, DecidableEq, Inhabited

namespace Remark

def message : Remark → String
  | .anonymous kind => s!"Skipping anonymous exported {kind}"
  | .quotedName text => s!"Skipping string export name {text}"

end Remark

/-- What one place contributes to the surface. -/
structure Finding where
  names : List String := []
  /-- The new value of the default flag, where the place sets it. -/
  default? : Option Bool := none
  remarks : List Remark := []
deriving Repr, DecidableEq, Inhabited

/-- The name of a declaration, empty when it has none. -/
def declaredName (t : Tree) : Except Utf8.Fault String :=
  match t.child? "name" with
  | some n =>
    if n.kind == "identifier" || n.kind == "type_identifier" then Text.Utf8.decode n.text
    else .ok ""
  | none => .ok ""

/-- The names of the variables that are not taken apart. -/
def declaratorNames (t : Tree) : Except Utf8.Fault (List String) :=
  let declarators := t.namedChildren.filter (·.kind == "variable_declarator")
  let names := declarators.filterMap (·.child? "name")
  (names.filter (·.kind == "identifier")).mapM fun n => Text.Utf8.decode n.text

/-- The node that names what a specifier exports. -/
def specifierNode? (t : Tree) : Option Tree :=
  (t.child? "alias").or (t.child? "name")

def declarationFinding (p : Place) : Except Utf8.Fault Finding := do
  if !p.isExported then return {}
  let name ← declaredName p.node
  return if name.isEmpty then { remarks := [.anonymous p.node.kind] } else { names := [name] }

def variableFinding (p : Place) : Except Utf8.Fault Finding := do
  if !p.isExported then return {}
  return { names := ← declaratorNames p.node }

def specifierFinding (t : Tree) : Except Utf8.Fault Finding :=
  match specifierNode? t with
  | none => .ok {}
  | some n => do
    let text ← Text.Utf8.decode n.text
    return if n.kind == "string" then { remarks := [.quotedName text] }
      else if text == "default" then { default? := some true }
      else { names := [text] }

def finding (p : Place) : Except Utf8.Fault Finding :=
  match role p.node with
  | .declaration => declarationFinding p
  | .variableStatement => variableFinding p
  | .assignment => .ok { default? := some (!isEquals p.node) }
  | .specifier => specifierFinding p.node
  | .other => .ok {}

/-- The number of nodes still to visit. -/
def pending : List Place → Nat
  | [] => 0
  | p :: stack => p.node.size + pending stack

theorem pending_append (ps qs : List Place) : pending (ps ++ qs) = pending ps + pending qs := by
  induction ps with
  | nil => simp [pending]
  | cons p ps ih => simp [pending, ih, Nat.add_assoc]

theorem pending_map (above : List Tree) (ts : List Tree) :
    pending (ts.map fun t => ⟨t, above⟩) = Tree.size.sizes ts := by
  induction ts with
  | nil => rfl
  | cons t ts ih => simp [pending, Tree.size.sizes, ih]

theorem pending_children (p : Place) : pending p.children < p.node.size := by
  obtain ⟨⟨kind, field, named, text, children⟩, above⟩ := p
  simp only [Place.children, pending_map, Tree.size]
  omega

/-- Visits the places on a stack, the top first. -/
def visit : List Place → List Place
  | [] => []
  | p :: stack =>
    if role p.node == .other then p :: visit (p.children ++ stack) else p :: visit stack
termination_by stack => pending stack
decreasing_by
  · have := pending_children p
    simp only [pending, pending_append]
    omega
  · obtain ⟨⟨kind, field, named, text, children⟩, above⟩ := p
    simp only [pending, Tree.size]
    omega

def visited (root : Tree) : List Place :=
  visit [⟨root, []⟩]

/-- The surface with one more contribution. -/
def Surface.add (s : Surface) (f : Finding) : Surface :=
  { names := s.names ++ f.names, hasDefault := f.default?.getD s.hasDefault }

/-- The contributions of `places` in order, up to the first fault. -/
def gather : List Place → Surface → List Remark × Except Utf8.Fault Surface
  | [], s => ([], .ok s)
  | p :: places, s =>
    match finding p with
    | .error f => ([], .error f)
    | .ok f =>
      let (remarks, result) := gather places (s.add f)
      (f.remarks ++ remarks, result)

/-- The surface of a tree, and the remarks made on the way. -/
def survey (root : Tree) : List Remark × Except Utf8.Fault Surface :=
  gather (visited root) {}

/-- All places of a tree in document order. -/
def places (root : Tree) : List Place :=
  below [] root
where
  below (above : List Tree) : Tree → List Place
    | ⟨kind, field, named, text, children⟩ =>
      let t : Tree := ⟨kind, field, named, text, children⟩
      ⟨t, above⟩ :: belowAll (t :: above) children
  belowAll (above : List Tree) : List Tree → List Place
    | [] => []
    | t :: ts => below above t ++ belowAll above ts

end Scaffold.Export
