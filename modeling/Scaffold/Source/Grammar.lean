import Scaffold.Source.Cursor

/-!
# The shape of the grammar

The constructs that contain one another are listed as goals. A `Grammar` is what a production is
given to read the constructs inside it: the dialect, a bound for its loops, and a reader for every
goal. Productions are therefore ordinary definitions; `Source.parse` closes the knot once.
-/

namespace Scaffold.Source

/-- Plain TypeScript has angle-bracket casts, the other dialect has markup elements instead. -/
inductive Dialect where
  | typescript
  | tsx
deriving Repr, DecidableEq, Inhabited

inductive Goal where
  /-- One expression. With `noIn` the word `in` ends it; with `branch` it stands between the two
  marks of a conditional, so that a colon after parentheses belongs to the conditional. -/
  | expression (noIn branch : Bool)
  /-- Expressions separated by commas. -/
  | expressions (noIn : Bool)
  /-- An operand with its calls and member accesses. -/
  | operand (branch : Bool)
  | type
  | statement
  /-- Statements in braces. -/
  | block
  /-- A markup element; the letters after it are not passed. -/
  | element
deriving Repr, DecidableEq

structure Grammar where
  dialect : Dialect
  fuel : Nat
  read : Goal → Reader Tree

namespace Grammar

variable (g : Grammar)

def expression : Reader Tree :=
  g.read (.expression false false)

def expressions : Reader Tree :=
  g.read (.expressions false)

end Grammar

end Scaffold.Source
