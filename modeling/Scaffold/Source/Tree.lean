import Scaffold.Text.Utf8

/-!
# Concrete trees of a module's source text

A tree node has a type, an optional field name under which its parent refers to it, a flag that
tells named nodes from mere punctuation, the bytes it covers, and its children in source order.
Texts are bytes and not characters, since a source file need not be valid UTF-8.
-/

namespace Scaffold.Source

structure Tree where
  kind : String
  field : Option String := none
  named : Bool := true
  text : Bytes := []
  children : List Tree := []
deriving Repr, BEq, Inhabited

namespace Tree

/-- The first child that stands under the field name `name`. -/
def child? (t : Tree) (name : String) : Option Tree :=
  t.children.find? (·.field == some name)

def namedChildren (t : Tree) : List Tree :=
  t.children.filter (·.named)

/-- Some direct child has the type `kind`. -/
def hasChild (t : Tree) (kind : String) : Bool :=
  t.children.any (·.kind == kind)

/-- An inner node without text of its own. -/
def branch (kind : String) (children : List Tree) : Tree :=
  { kind, children }

/-- A node without children. -/
def leaf (kind : String) (text : Bytes) : Tree :=
  { kind, text }

/-- A keyword or a punctuation mark. -/
def mark (kind : String) : Tree :=
  { kind, named := false }

/-- The same node, standing under a field of its parent. -/
def under (t : Tree) (name : String) : Tree :=
  { t with field := some name }

/-- The number of nodes. -/
def size : Tree → Nat
  | ⟨_, _, _, _, cs⟩ => 1 + sizes cs
where
  sizes : List Tree → Nat
    | [] => 0
    | c :: cs => size c + sizes cs

end Tree

end Scaffold.Source
