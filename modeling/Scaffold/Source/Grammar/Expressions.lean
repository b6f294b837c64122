import Scaffold.Source.Grammar.Types

/-!
# Expressions

Operators are read as one chain of operands: their precedence has no bearing on what an
expression contains. Parentheses are read once, by a production that accepts both an expression
and a parameter list; an arrow after them decides.
-/

namespace Scaffold.Source.Grammar

open Reader

variable (g : Grammar)

/-- The body of an arrow function. -/
def arrowBody (branch : Bool) : Reader Tree := do
  if ← sees (·.startsWith '{') then
    match ← optional (g.read .block) with
    | some b => return b
    | none => g.read (.expression false branch)
  else g.read (.expression false branch)

/-- An arrow with the body after it, where there is one. A result type may stand before the arrow;
inside a conditional the colon of the conditional must follow such a function. -/
def arrow? (branch : Bool) : Reader (Option (List Tree)) := do
  if ← skipMark "=>" then return some [← arrowBody g branch]
  else if ← sees (·.startsWith ':') then
    optional do
      letter ':'
      let t ← g.read .type
      mark "=>"
      let b ← arrowBody g branch
      if branch then guardCursor (·.startsWith ':')
      return [t, b]
  else return none

/-- An item between parentheses: an expression, or a parameter of an arrow function. -/
def parenthesizedItem : Reader Tree := do
  let ds ← decorators g
  modifiers g parameterModifiers fun c =>
    startsBinding c && !(["in", "instanceof", "as", "satisfies"].contains c.word)
  let _ ← skipMark "..."
  let e ← g.expression
  let _ ← skipMark "?"
  let t ← annotation g
  let v ← initializer g false
  return if ds.isEmpty && t.isEmpty && v.isEmpty then e
    else .branch "required_parameter" (ds ++ e :: t ++ v)

def parenthesizedItems : Reader (List Tree) := do
  letter '('
  listed g.fuel ')' (parenthesizedItem g)

def parenthesized (branch : Bool) : Reader Tree := do
  let items ← parenthesizedItems g
  match ← arrow? g branch with
  | some b => return .branch "arrow_function" (items ++ b)
  | none =>
    guard (!items.isEmpty)
    return .branch "parenthesized_expression" items

def array : Reader Tree := do
  letter '['
  let items ← listed g.fuel ']' do
    let _ ← skipMark "..."
    g.expression
  return .branch "array" items

/-- A property of an object, or of a pattern that takes one apart. -/
def property : Reader Tree := do
  if ← skipMark "..." then return .branch "spread_element" [← g.expression]
  modifiers g ["async", "get", "set", "static", "readonly"] startsPropertyName
  let _ ← skipMark "*"
  let name ← propertyName g
  let _ ← skipMark "?"
  let c ← get
  if c.startsWith '(' || c.startsWith '<' then
    let s ← signature g
    return .branch "method_definition" (name :: s ++ [← g.read .block])
  else if c.startsWith ':' then
    letter ':'
    return .branch "pair" [name, ← g.expression]
  else return .branch "shorthand_property" (name :: (← initializer g false))

def object : Reader Tree := do
  letter '{'
  return .branch "object" (← listed g.fuel '}' (property g))

/-- A function from its keyword on: whether it is a generator, its name, its signature. -/
def functionHead : Reader (Bool × List Tree × List Tree) := do
  keyword "function"
  let generator ← skipMark "*"
  let c ← get
  let name ← if c.atWord then pure [(← word "identifier").under "name"] else pure []
  let s ← signature g
  return (generator, name, s)

def functionExpression : Reader Tree := do
  let _ ← skipKeyword "async"
  let (generator, name, s) ← functionHead g
  let b ← g.read .block
  return .branch (if generator then "generator_function" else "function_expression")
    (name ++ s ++ [b])

/-- A word as an operand, or the parameter of an arrow function. -/
def identifier (branch : Bool) : Reader Tree := do
  let w ← word "identifier"
  if ← skipMark "=>" then return .branch "arrow_function" [w, ← arrowBody g branch]
  else return w

/-- An operand that starts with the word `async`. -/
def asyncOperand (branch : Bool) : Reader Tree := do
  let c ← get
  let next := c.pastWord
  if next.fresh then identifier g branch
  else if next.word == "function" then functionExpression g
  else if next.startsWith '(' then
    set next
    let items ← parenthesizedItems g
    match ← arrow? g branch with
    | some b => return .branch "arrow_function" (items ++ b)
    | none => return .branch "call_expression" [.branch "arguments" items]
  else if next.startsWith '<' then
    let generic ← optional do
      set next
      let ts ← typeParameters g
      let items ← parenthesizedItems g
      match ← arrow? g branch with
      | some b => return Tree.branch "arrow_function" (ts :: items ++ b)
      | none => failure
    match generic with
    | some t => return t
    | none => identifier g branch
  else if next.atWord && next.pastWord.punctuator == "=>" then
    set next
    identifier g branch
  else identifier g branch

/-- An operand that starts with an angle bracket where markup is allowed. -/
def markupOperand (branch : Bool) : Reader Tree := do
  let element ← optional do
    let t ← g.read .element
    settle
    return t
  match element with
  | some t => return t
  | none =>
    let ts ← typeParameters g
    let items ← parenthesizedItems g
    match ← arrow? g branch with
    | some b => return .branch "arrow_function" (ts :: items ++ b)
    | none => failure

def primary (branch : Bool) : Reader Tree := do
  skipMarkupComments g.fuel
  let c ← get
  match c.rest with
  | '(' :: _ => parenthesized g branch
  | '[' :: _ => array g
  | '{' :: _ => object g
  | '"' :: _ => quoted
  | '\'' :: _ => quoted
  | '\x60' :: _ => template g (.expressions false)
  | '/' :: _ => pattern
  | '.' :: _ => number
  | '#' :: _ =>
    letter '#'
    word "private_property_identifier"
  | '<' :: _ => markupOperand g branch
  | '@' :: _ => classRest g "class" (← decorators g)
  | l :: _ =>
    if l.isDigit then number
    else
      match c.word with
      | "function" => functionExpression g
      | "class" => classRest g "class" []
      | "async" => asyncOperand g branch
      | _ => identifier g branch
  | [] => failure

/-- Operator words that may follow an operand. -/
def operatorWords : List String :=
  ["as", "satisfies", "instanceof", "in", "of", "implements", "extends"]

/-- Marks that may start an operand, so that what stood before them was a comparison. -/
def operandMarks : List String :=
  ["<", ">", ">>", "<<", ">>>", "+", "-", "++", "--", "!", "~", "@", "#", "[", "/"]

/-- What stands after type arguments agrees with an operand having ended there. -/
def followsTypeArguments (c : Cursor) : Bool :=
  if c.startsWith '(' || c.startsWith '\x60' || c.fresh || c.atEnd then true
  else if c.atWord then operatorWords.contains c.word
  else if c.atDigit || c.atString then false
  else !operandMarks.contains c.punctuator

/-- A member access, a call, a mark or a template after an operand. -/
def access? : Reader (Option (List Tree)) := do
  let member : Reader (List Tree) := do
    let _ ← skipMark "#"
    return [← word "property_identifier"]
  let index : Reader (List Tree) := do
    letter '['
    let e ← g.expressions
    letter ']'
    return [e]
  let c ← get
  match c.punctuator with
  | "." =>
    mark "."
    return some (← member)
  | "?." =>
    mark "?."
    let c ← get
    if c.startsWith '[' then return some (← index)
    else if c.startsWith '(' then return some [← arguments g]
    else if c.startsWith '<' then return some [← typeArguments g, ← arguments g]
    else return some (← member)
  | "[" => return some (← index)
  | "(" => return some [← arguments g]
  | "\x60" => return some [← template g (.expressions false)]
  | "!" => if c.fresh then return none else mark "!"; return some []
  | "++" => if c.fresh then return none else mark "++"; return some []
  | "--" => if c.fresh then return none else mark "--"; return some []
  | p =>
    if p == "<" || p == "<<" then
      optional do
        let ts ← typeArguments g
        guardCursor followsTypeArguments
        return [ts]
    else return none

def operand (branch : Bool) : Reader Tree := do
  let p ← primary g branch
  let accesses ← collect g.fuel (access? g)
  return if accesses.isEmpty then p else .branch "call_expression" (p :: accesses.flatten)

/-- A word that is an operator in front of an operand. A declaration of a resource is written like
an assignment, and the word in front of it counts as an operator, too. -/
def isPrefixWord (c : Cursor) : Bool :=
  match c.word with
  | "typeof" => true
  | "void" => true
  | "delete" => true
  | "await" => true
  | "new" => !c.pastWord.startsWith '.'
  | "using" =>
    c.pastWord.atWord && !c.pastWord.fresh && !operatorWords.contains c.pastWord.word
  | _ => false

def unary (branch : Bool) : Reader Tree := do
  let before ← collect g.fuel do
    skipMarkupComments g.fuel
    let c ← get
    if isPrefixWord c then
      set c.pastWord
      return some []
    else if ["!", "~", "+", "-", "++", "--"].contains c.punctuator then
      set (c.advance c.punctuator.length)
      return some []
    else if c.startsWith '<' && g.dialect == .typescript then return some [← typeParameters g]
    else return none
  let o ← g.read (.operand branch)
  return if before.isEmpty then o else .branch "unary_expression" (before.flatten ++ [o])

def binaryOperators : List String :=
  ["||", "&&", "??", "|", "^", "&", "==", "!=", "===", "!==", "<", ">", "<=", ">=", "<<", ">>",
    ">>>", "+", "-", "*", "/", "%", "**"]

/-- The words `as` and `satisfies` take a type, on their own line or on the line of the operand. -/
def takesType (c : Cursor) : Bool :=
  (c.word == "as" || c.word == "satisfies") &&
    (!c.fresh || (c.pastWord.atWord && !c.pastWord.fresh))

/-- Operands joined by binary operators and type assertions. -/
def chain (noIn branch : Bool) : Reader Tree := do
  let first ← unary g branch
  let others ← collect g.fuel do
    let c ← get
    if binaryOperators.contains c.punctuator then
      set (c.advance c.punctuator.length)
      return some (← unary g branch)
    else if c.word == "instanceof" || (c.word == "in" && !noIn) then
      set c.pastWord
      return some (← unary g branch)
    else if takesType c then
      set c.pastWord
      return some (← g.read .type)
    else return none
  return if others.isEmpty then first else .branch "binary_expression" (first :: others)

def assignmentOperators : List String :=
  ["=", "+=", "-=", "*=", "/=", "%=", "**=", "<<=", ">>=", ">>>=", "&=", "|=", "^=", "&&=", "||=",
    "??="]

/-- A question mark starts a conditional here, and does not mark a parameter as optional. -/
def startsConditional (c : Cursor) : Bool :=
  c.punctuator == "?" && !((c.advance 1).rest.head?.any fun l => ":,)=".contains l)

/-- The operand of `yield` may be left out. -/
def yieldExpression (noIn branch : Bool) : Reader Tree := do
  keyword "yield"
  let star ← skipMark "*"
  let c ← get
  let ends := c.atEnd || c.fresh || c.rest.head?.any fun l => ")],;:\x7d".contains l
  if ends && !star then return .branch "yield_expression" []
  else return .branch "yield_expression" [← g.read (.expression noIn branch)]

def expressionProduction (noIn branch : Bool) : Reader Tree := do
  skipMarkupComments g.fuel
  let c ← get
  if c.word == "yield" then yieldExpression g noIn branch
  else
    let e ← chain g noIn branch
    let c ← get
    if startsConditional c then
      mark "?"
      let yes ← g.read (.expression false true)
      letter ':'
      let no ← g.read (.expression noIn branch)
      return .branch "ternary_expression" [e, yes, no]
    else if assignmentOperators.contains c.punctuator then
      set (c.advance c.punctuator.length)
      return .branch "assignment_expression" [e, ← g.read (.expression noIn branch)]
    else return e

def expressionsProduction (noIn : Bool) : Reader Tree := do
  let es ← separated g.fuel (g.read (.expression noIn false))
  match es with
  | [e] => return e
  | _ => return .branch "sequence_expression" es

end Scaffold.Source.Grammar
