import Scaffold.Source.Grammar.Declarations

/-!
# Statements

An export statement keeps the marks `default` and `=` among its children, which tell a default
export and an export assignment from the other forms.
-/

namespace Scaffold.Source.Grammar

open Reader

variable (g : Grammar)

/-- A name in an export or import clause, which may be any word or a string. -/
def moduleName : Reader Tree := do
  if ← sees (·.atString) then quoted else word "identifier"

/-- The names between two commas of a clause: `a`, `a as b`, either after `type`. -/
def specifier (names : List Tree) : Option Tree :=
  let isWord (t : Tree) (w : String) : Bool :=
    t.kind == "identifier" && t.text == Letters.toBytes w.toList
  let onlyType (t : Tree) : Bool := isWord t "type" || isWord t "typeof"
  let renamed (a b : Tree) : Tree := .branch "export_specifier" [a.under "name", b.under "alias"]
  match names with
  | [a] => some (.branch "export_specifier" [a.under "name"])
  | [t, a] => if onlyType t then some (.branch "export_specifier" [a.under "name"]) else none
  | [a, w, b] => if isWord w "as" then some (renamed a b) else none
  | [t, a, w, b] => if onlyType t && isWord w "as" then some (renamed a b) else none
  | _ => none

/-- Names in braces. -/
def clause : Reader Tree := do
  letter '{'
  let items ← listed g.fuel '}' do
    let names ← collect 5 do
      let c ← get
      if c.startsWith ',' || c.startsWith '}' then return none
      else return some (← moduleName)
    match specifier names with
    | some t => return t
    | none => failure
  return .branch "export_clause" items

/-- The module a clause refers to, with its attributes. -/
def fromClause : Reader Unit := do
  keyword "from"
  let _ ← quoted
  attributes
where
  attributes : Reader Unit := do
    let c ← get
    if leads ["with", "assert"] (·.startsWith '{') c then
      set c.pastWord
      let _ ← object g

/-- What is exported, after the word `export`. -/
def exported (before : List Tree) : Reader Tree := do
  let c ← get
  let next := c.pastWord
  let statement (children : List Tree) : Tree := .branch "export_statement" (before ++ children)
  let all : Reader Tree := do
    letter '*'
    if ← skipKeyword "as" then
      let _ ← moduleName
    fromClause g
    terminator
    return statement []
  let named : Reader Tree := do
    let t ← clause g
    if ← sees (·.word == "from") then fromClause g
    terminator
    return statement [t]
  if c.startsWith '*' then all
  else if c.startsWith '{' then named
  else if c.punctuator == "=" then
    mark "="
    let e ← g.expression
    terminator
    return statement [.mark "=", e]
  else if c.word == "default" then
    keyword "default"
    let declared ← optional (declaration g)
    match declared with
    | some d => return statement [.mark "default", d]
    | none =>
      let e ← g.expression
      terminator
      return statement [.mark "default", e]
  else if c.word == "type" && next.startsWith '{' then
    keyword "type"
    named
  else if c.word == "type" && next.startsWith '*' then
    keyword "type"
    all
  else if c.word == "as" then
    keyword "as"
    keyword "namespace"
    let _ ← word "identifier"
    terminator
    return statement []
  else return statement [← declaration g]

/-- A statement that starts with `export`. -/
def exportStatement (before : List Tree) : Reader Tree := do
  keyword "export"
  exported g before

/-- The names an import statement binds; they do not matter to what the module exports. -/
def importStatement : Reader Tree := do
  keyword "import"
  if ← sees (·.atString) then
    let _ ← quoted
    fromClause.attributes g
  else
    let _ ← optional do
      let c ← get
      guard (leads ["type", "typeof"] (fun n => n.atWord || n.startsWith '{' || n.startsWith '*') c)
      guard (c.pastWord.word != "from" || c.pastWord.pastWord.word == "from")
      set c.pastWord
    let _ ← separated g.fuel do
      let c ← get
      if c.startsWith '*' then
        letter '*'
        keyword "as"
        let _ ← word "identifier"
      else if c.startsWith '{' then
        let _ ← clause g
      else
        let _ ← word "identifier"
    fromClause g
  terminator
  return .branch "import_statement" []

def expressionStatement : Reader Tree := do
  let e ← g.expressions
  terminator
  return .branch "expression_statement" [e]

/-- An expression in parentheses, as statements need it. -/
def condition : Reader Tree := do
  letter '('
  let e ← g.expressions
  let t ← annotation g
  letter ')'
  return .branch "parenthesized_expression" (e :: t)

def ifStatement : Reader Tree := do
  keyword "if"
  let c ← condition g
  let yes ← g.read .statement
  let no ← if ← skipKeyword "else" then pure [← g.read .statement] else pure []
  return .branch "if_statement" (c :: yes :: no)

/-- The part of a loop header after its initial expression. -/
def loopTest : Reader (List Tree) := do
  let test ← if ← sees (·.startsWith ';') then pure [] else pure [← g.expressions]
  letter ';'
  let step ← if ← sees (·.startsWith ')') then pure [] else pure [← g.expressions]
  letter ')'
  return test ++ step

/-- The part of a loop header after `in` or `of`. -/
def loopDomain : Reader (List Tree) := do
  let c ← get
  guard (c.word == "in" || c.word == "of")
  set c.pastWord
  let e ← g.expressions
  letter ')'
  return [e]

def forStatement : Reader Tree := do
  keyword "for"
  let _ ← skipKeyword "await"
  letter '('
  let c ← get
  if c.startsWith ';' then
    letter ';'
    let header ← loopTest g
    return .branch "for_statement" (header ++ [← g.read .statement])
  else
    let declared ← if ["var", "let", "const"].contains c.word then
        optional do
          let v ← variableList g true
          guardCursor fun c => c.startsWith ';' || c.word == "of" || c.word == "in"
          return v
      else pure none
    match declared with
    | some v =>
      if ← sees (·.startsWith ';') then
        letter ';'
        let header ← loopTest g
        return .branch "for_statement" (v :: header ++ [← g.read .statement])
      else
        let header ← loopDomain g
        return .branch "for_in_statement" (v.children ++ header ++ [← g.read .statement])
    | none =>
      let e ← g.read (.expressions true)
      if ← sees (·.startsWith ';') then
        letter ';'
        let header ← loopTest g
        return .branch "for_statement" (e :: header ++ [← g.read .statement])
      else
        let header ← loopDomain g
        return .branch "for_in_statement" (e :: header ++ [← g.read .statement])

def whileStatement : Reader Tree := do
  keyword "while"
  let c ← condition g
  return .branch "while_statement" [c, ← g.read .statement]

def doStatement : Reader Tree := do
  keyword "do"
  let b ← g.read .statement
  keyword "while"
  let c ← condition g
  let _ ← skipMark ";"
  return .branch "do_statement" [b, c]

def withStatement : Reader Tree := do
  keyword "with"
  let c ← condition g
  return .branch "with_statement" [c, ← g.read .statement]

/-- Statements up to the next label of a switch. -/
def switchArm : Reader (List Tree) := do
  letter ':'
  collect g.fuel do
    let c ← get
    if c.startsWith '}' || c.atEnd || c.word == "case" || c.word == "default" then return none
    else return some (← g.read .statement)

def switchStatement : Reader Tree := do
  keyword "switch"
  let c ← condition g
  letter '{'
  let arms ← collect g.fuel do
    if ← skipKeyword "case" then
      let e ← g.expressions
      return some (Tree.branch "switch_case" (e :: (← switchArm g)))
    else if ← skipKeyword "default" then
      return some (.branch "switch_default" (← switchArm g))
    else
      closingBrace
      return none
  return .branch "switch_statement" (c :: arms)

def tryStatement : Reader Tree := do
  keyword "try"
  let b ← g.read .block
  let handler ←
    if ← skipKeyword "catch" then
      let parameter ←
        if ← sees (·.startsWith '(') then
          letter '('
          let p ← binding g
          let t ← annotation g
          letter ')'
          pure (p :: t)
        else pure []
      pure (parameter ++ [← g.read .block])
    else pure []
  let finalizer ← if ← skipKeyword "finally" then pure [← g.read .block] else pure []
  return .branch "try_statement" (b :: handler ++ finalizer)

/-- A statement of one word with an optional expression on its line. -/
def jump (kind : String) : Reader Tree := do
  set (← get).pastWord
  let c ← get
  if c.fresh || c.atEnd || c.startsWith ';' || c.startsWith '}' then
    terminator
    return .branch kind []
  else
    let e ← g.expressions
    terminator
    return .branch kind [e]

/-- Statements up to the closing brace. -/
def blockProduction : Reader Tree := do
  letter '{'
  let statements ← collect g.fuel do
    skipMarkupComments g.fuel
    let c ← get
    if c.startsWith '}' || c.atEnd then
      closingBrace
      return none
    else return some (← g.read .statement)
  return .branch "statement_block" statements

/-- The words that always start a statement of their own kind. -/
def keywordStatement? (w : String) : Option (Reader Tree) :=
  match w with
  | "if" => some (ifStatement g)
  | "for" => some (forStatement g)
  | "while" => some (whileStatement g)
  | "do" => some (doStatement g)
  | "with" => some (withStatement g)
  | "switch" => some (switchStatement g)
  | "try" => some (tryStatement g)
  | "return" => some (jump g "return_statement")
  | "throw" => some (jump g "throw_statement")
  | "break" => some (jump g "break_statement")
  | "continue" => some (jump g "continue_statement")
  | "debugger" => some (jump g "debugger_statement")
  | _ => none

/-- Words that start a declaration only on the line of the word after them. -/
def startsContextual (c : Cursor) : Bool :=
  let words := ["type", "namespace", "module", "declare", "abstract", "async", "let"]
  words.contains c.word && c.pastWord.fresh

def statementProduction : Reader Tree := do
  skipMarkupComments g.fuel
  let c ← get
  if c.startsWith '{' then g.read .block <|> expressionStatement g
  else if c.startsWith ';' then
    letter ';'
    return .branch "empty_statement" []
  else if c.startsWith '@' then
    let ds ← decorators g
    if ← sees (·.word == "export") then exportStatement g ds
    else classDeclaration g ds <|> expressionStatement g
  else
    match keywordStatement? g c.word with
    | some p => p
    | none =>
      if c.atWord && c.pastWord.startsWith ':' then
        let _ ← word "statement_identifier"
        letter ':'
        return .branch "labeled_statement" [← g.read .statement]
      else if c.word == "export" then
        if c.pastWord.startsStatement then expressionStatement g
        else exportStatement g [] <|> expressionStatement g
      else if c.word == "import" then
        if c.pastWord.startsWith '(' || c.pastWord.startsWith '.' then expressionStatement g
        else importStatement g <|> importAlias g
      else if startsContextual c then expressionStatement g <|> declaration g
      else declaration g <|> expressionStatement g

end Scaffold.Source.Grammar
