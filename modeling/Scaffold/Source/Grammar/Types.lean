import Scaffold.Source.Grammar.Members

/-!
# Types

A type is a union or intersection of operands, possibly under a condition. A word such as `keyof`
is a prefix when a type follows it and a name otherwise.
-/

namespace Scaffold.Source.Grammar

open Reader

variable (g : Grammar)

/-- A type may start here. -/
def startsType (c : Cursor) : Bool :=
  c.atWord || c.atString || c.atDigit || c.rest.head?.any fun l =>
    l == '(' || l == '{' || l == '[' || l == '<' || l == '\x60' || l == '-'

/-- Text in backquotes whose holes are read by `inner`. -/
def template (inner : Goal) : Reader Tree := do
  rawLetter '\x60'
  let holes ← collect g.fuel do
    let c ← get
    match Letters.templateTail c.rest with
    | none => failure
    | some (true, rest) =>
      set (c.settle rest)
      return none
    | some (false, rest) =>
      set (c.settle rest)
      let t ← g.read inner
      rawLetter '}'
      return some t
  return .branch "template_string" holes

/-- Parameters and a result after an arrow. -/
def functionType : Reader Tree := do
  let ts ← typeParameters? g
  let ps ← parameters g
  mark "=>"
  let r ← g.read .type
  return .branch "function_type" (ts ++ [ps, r])

/-- Names joined by dots, with type arguments. -/
def qualifiedType : Reader (List Tree) := do
  let _ ← collect g.fuel do
    let c ← get
    if c.punctuator == "." || c.punctuator == "?." then
      set (c.advance c.punctuator.length)
      let _ ← skipMark "#"
      let _ ← word "identifier"
      return some ()
    else return none
  let ts ← optional (typeArguments g)
  return ts.toList

/-- A property of an object type; an export statement is accepted there too. -/
def typeMember : Reader Tree := do
  let c ← get
  if leads ["export"] (fun n => n.atWord || n.startsWith '{' || n.startsWith '*') c then
    g.read .statement
  else
    let m ← member g
    guardCursor fun c => c.fresh || c.atEnd || [',', ';', '}'].any c.startsWith
    return m

def objectType (kind : String) : Reader Tree :=
  members g kind (typeMember g)

def tupleType : Reader Tree := do
  letter '['
  let items ← listed g.fuel ']' do
    let _ ← skipMark "..."
    let t ← g.read .type
    let _ ← skipMark "?"
    let a ← annotation g
    return .branch "tuple_parameter" (t :: a)
  return .branch "tuple_type" items

/-- A type that starts with a word. -/
def namedType : Reader Tree := do
  let c ← get
  let next := c.pastWord
  match c.word with
  | "new" =>
    keyword "new"
    functionType g
  | "abstract" =>
    keyword "abstract"
    if ← skipKeyword "new" then functionType g
    else return .branch "type_identifier" (← qualifiedType g)
  | "typeof" =>
    keyword "typeof"
    if ← sees (·.word == "import") then
      keyword "import"
      let a ← arguments g
      return .branch "type_query" (a :: (← qualifiedType g))
    else
      let _ ← word "identifier"
      return .branch "type_query" (← qualifiedType g)
  | "import" =>
    keyword "import"
    let a ← arguments g
    return .branch "type_query" (a :: (← qualifiedType g))
  | "asserts" =>
    keyword "asserts"
    if next.atWord && !next.fresh && next.word != "is" then
      let _ ← word "identifier"
      return .branch "asserts" []
    else return .branch "type_identifier" (← qualifiedType g)
  | _ =>
    let _ ← word "type_identifier"
    return .branch "type_identifier" (← qualifiedType g)

def primaryType : Reader Tree := do
  let c ← get
  if c.startsWith '(' then
    match ← optional (functionType g) with
    | some t => return t
    | none =>
      letter '('
      let t ← g.read .type
      letter ')'
      return .branch "parenthesized_type" [t]
  else if c.startsWith '<' then functionType g
  else if c.startsWith '{' then objectType g "object_type"
  else if c.startsWith '[' then tupleType g
  else if c.startsWith '\x60' then template g .type
  else if c.atString then quoted
  else if c.startsWith '-' then
    letter '-'
    number
  else if c.startsWith '?' then
    letter '?'
    g.read .type
  else if c.startsWith '*' then
    letter '*'
    return .branch "existential_type" []
  else if c.atWord then namedType g
  else number

/-- A primary type with its prefixes and with array or index brackets on the same line. -/
def typeOperand : Reader Tree := do
  modifiers g ["keyof", "unique", "readonly", "infer"] startsType
  let t ← primaryType g
  let brackets ← collect g.fuel do
    let c ← get
    if c.startsWith '[' && !c.fresh then
      letter '['
      if ← sees (·.startsWith ']') then
        letter ']'
        return some []
      else
        let i ← g.read .type
        letter ']'
        return some [i]
    else return none
  if brackets.isEmpty then return t else return .branch "lookup_type" (t :: brackets.flatten)

/-- The word `extends` continues a type here, and is not the name of the next member. -/
def continuesType (c : Cursor) : Bool :=
  c.word == "extends" &&
    (!c.fresh || !(c.pastWord.rest.head?.any fun l => ":?(=;,\x7d".contains l))

/-- Operands joined by bars and ampersands; one may stand in front. -/
def joinedTypes : Reader (List Tree) := do
  let joins (c : Cursor) : Bool := c.punctuator == "|" || c.punctuator == "&"
  let c ← get
  if joins c then set (c.advance 1)
  let first ← typeOperand g
  let others ← collect g.fuel do
    let c ← get
    if joins c then
      set (c.advance 1)
      return some (← typeOperand g)
    else return none
  return first :: others

def type : Reader Tree := do
  let ts ← joinedTypes g
  let c ← get
  if c.word == "is" && !c.fresh then
    keyword "is"
    return .branch "type_predicate" (ts ++ [← g.read .type])
  let bounds ← collect g.fuel do
    if ← sees continuesType then
      keyword "extends"
      return some (← joinedTypes g)
    else return none
  let branches ←
    if !bounds.isEmpty then
      if ← skipMark "?" then
        let yes ← g.read .type
        letter ':'
        pure [yes, ← g.read .type]
      else pure []
    else pure []
  return .branch "union_type" (ts ++ bounds.flatten ++ branches)

end Scaffold.Source.Grammar
