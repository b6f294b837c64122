import Scaffold.Source.Grammar.Expressions

/-!
# Declarations

Contextual words such as `type` or `namespace` start a declaration only when the rest of one
follows; `declaration` fails otherwise and the caller may read an expression instead.
-/

namespace Scaffold.Source.Grammar

open Reader

variable (g : Grammar)

def declarator (noIn : Bool) : Reader Tree := do
  let b ← binding g
  let _ ← skipMark "!"
  let t ← annotation g
  let v ← initializer g noIn
  return .branch "variable_declarator" (b.under "name" :: t ++ v)

def variableKind (w : String) : String :=
  if w == "var" then "variable_declaration" else "lexical_declaration"

/-- Variables without the end of their statement. -/
def variableList (noIn : Bool) : Reader Tree := do
  let w := (← get).word
  guard (["var", "let", "const"].contains w)
  keyword w
  return .branch (variableKind w) (← separated g.fuel (declarator g noIn))

/-- A function with a name; without a body it is a signature. -/
def functionDeclaration : Reader Tree := do
  let _ ← skipKeyword "async"
  let (generator, name, s) ← functionHead g
  guard (!name.isEmpty)
  if ← sees (·.startsWith '{') then
    let b ← g.read .block
    return .branch (if generator then "generator_function_declaration" else "function_declaration")
      (name ++ s ++ [b])
  else
    terminator
    return .branch "function_signature" (name ++ s)

/-- A class with a name. -/
def classDeclaration (before : List Tree) : Reader Tree := do
  let kind ←
    if ← skipKeyword "abstract" then pure "abstract_class_declaration" else pure "class_declaration"
  let t ← classRest g kind before
  guard (kind != "class_declaration" || (t.child? "name").isSome)
  return t

def enumDeclaration : Reader Tree := do
  let _ ← skipKeyword "const"
  keyword "enum"
  let _ ← word "identifier"
  letter '{'
  let items ← listed g.fuel '}' do
    let n ← propertyName g
    return .branch "enum_assignment" (n :: (← initializer g false))
  return .branch "enum_declaration" items

def interfaceDeclaration : Reader Tree := do
  keyword "interface"
  let _ ← word "type_identifier"
  let ts ← typeParameters? g
  let es ← if ← skipKeyword "extends" then separated g.fuel (g.read .type) else pure []
  return .branch "interface_declaration" (ts ++ es ++ [← objectType g "interface_body"])

def typeAlias : Reader Tree := do
  keyword "type"
  let _ ← word "type_identifier"
  let ts ← typeParameters? g
  mark "="
  let t ← g.read .type
  terminator
  return .branch "type_alias_declaration" (ts ++ [t])

/-- Words joined by dots. -/
def dottedName : Reader Unit := do
  let _ ← separatedByDots
where
  separatedByDots : Reader (List Unit) := do
    let _ ← word "identifier"
    collect g.fuel do
      if ← skipMark "." then
        let _ ← word "identifier"
        return some ()
      else return none

/-- A namespace or an ambient module; its body may be left out. -/
def moduleDeclaration : Reader Tree := do
  let kind ← if ← skipKeyword "namespace" then pure "internal_module" else
    keyword "module"
    pure "module"
  if ← sees (·.atString) then
    let _ ← quoted
  else dottedName g
  if ← sees (·.startsWith '{') then return .branch kind [← g.read .block]
  else
    terminator
    return .branch kind []

/-- An alias for a name of another namespace or module. -/
def importAlias : Reader Tree := do
  keyword "import"
  let _ ← optional do
    keyword "type"
    guardCursor (·.atWord)
  let _ ← word "identifier"
  mark "="
  dottedName g
  let _ ← optional (arguments g)
  terminator
  return .branch "import_alias" []

/-- A declaration other than an ambient one. -/
def plainDeclaration : Reader Tree := do
  let c ← get
  let next := c.pastWord
  match c.word with
  | "var" => withTerminator
  | "let" => withTerminator
  | "const" => if next.word == "enum" then enumDeclaration g else withTerminator
  | "function" => functionDeclaration g
  | "async" =>
    guard (next.word == "function")
    functionDeclaration g
  | "class" => classDeclaration g []
  | "abstract" =>
    guard (next.word == "class")
    classDeclaration g []
  | "enum" => enumDeclaration g
  | "interface" => interfaceDeclaration g
  | "type" => typeAlias g
  | "namespace" => moduleDeclaration g
  | "module" => moduleDeclaration g
  | "import" => importAlias g
  | _ =>
    guard (c.startsWith '@')
    classDeclaration g (← decorators g)
where
  withTerminator : Reader Tree := do
    let t ← variableList g false
    terminator
    return t

/-- What may stand after the word `declare`. -/
def ambientBody (declaration : Reader Tree) : Reader Tree := do
  let c ← get
  if leads ["global"] (·.startsWith '{') c then
    keyword "global"
    g.read .block
  else if leads ["module"] (·.startsWith '.') c then
    keyword "module"
    letter '.'
    let _ ← word "property_identifier"
    letter ':'
    let t ← g.read .type
    terminator
    return t
  else declaration

/-- A declaration, under any number of `declare`. -/
def declarationWithin : Nat → Reader Tree
  | 0 => failure
  | fuel + 1 => do
    if leads ["declare"] (fun c => c.atWord || c.startsWith '@') (← get) then
      keyword "declare"
      return .branch "ambient_declaration" [← ambientBody g (declarationWithin fuel)]
    else plainDeclaration g

def declaration : Reader Tree :=
  declarationWithin g g.fuel

end Scaffold.Source.Grammar
