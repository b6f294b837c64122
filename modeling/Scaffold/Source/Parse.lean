import Scaffold.Source.Grammar.Statements
import Scaffold.Source.Grammar.Markup

/-!
# Parsing a module

The productions are closed into one recursive reader, whose depth is bounded by a number that
grows with the length of the text. A statement that cannot be read leaves an error node: one
token is passed and reading goes on behind it.
-/

namespace Scaffold.Source

/-- One layer of the grammar over a reader for the constructs inside. -/
def produce (g : Grammar) : Goal → Reader Tree
  | .expression noIn branch => g.expressionProduction noIn branch
  | .expressions noIn => g.expressionsProduction noIn
  | .operand branch => g.operand branch
  | .type => g.type
  | .statement => g.statementProduction
  | .block => g.blockProduction
  | .element => g.elementProduction

/-- Reads a construct whose parts are nested at most `depth` deep. -/
def parse (dialect : Dialect) : Nat → Goal → Reader Tree
  | 0, _ => failure
  | depth + 1, goal => produce ⟨dialect, depth, parse dialect depth⟩ goal

/-- A module's tree, and whether some part of the text was not understood. -/
structure Module where
  root : Tree
  faulty : Bool
deriving Repr, Inhabited

namespace Module

/-- The cursor behind the token it stands at. -/
def passToken (c : Cursor) : Cursor :=
  if c.atWord then c.pastWord
  else
    match Reader.quoted c with
    | some (_, c') => c'
    | none => c.advance 1

/-- The statements of a module, with an error node wherever one could not be read. -/
def statements (read : Reader Tree) : Nat → Cursor → List Tree × Bool
  | 0, c => ([], c.supplied)
  | fuel + 1, c =>
    let c := match Reader.skipMarkupComments fuel c with
      | some (_, c') => c'
      | none => c
    if c.atEnd then ([], c.supplied)
    else
      match read c with
      | some (t, c') =>
        let (ts, faulty) := statements read fuel c'
        (t :: ts, faulty)
      | none =>
        let (ts, _) := statements read fuel (passToken c)
        (.branch "ERROR" [] :: ts, true)

/-- The cursor behind a first line that names an interpreter. -/
def passInterpreter (c : Cursor) : Cursor :=
  match c.rest with
  | '#' :: '!' :: r => c.settle (Letters.skipLine r)
  | _ => c

def parse (dialect : Dialect) (bytes : Bytes) : Module :=
  let letters := Letters.ofBytes bytes
  let depth := 8 * letters.length + 64
  let start := passInterpreter (Cursor.settle ⟨letters, true, false⟩ letters)
  let (ts, faulty) := statements (Source.parse dialect depth .statement) depth start
  ⟨.branch "program" ts, faulty⟩

end Module

end Scaffold.Source
