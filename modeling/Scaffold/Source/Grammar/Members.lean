import Scaffold.Source.Grammar.Parts

/-!
# Members of classes and of object types

Both are read by one production. A word such as `static` or `get` is a modifier when a property
name follows it, and the name of the member otherwise.
-/

namespace Scaffold.Source.Grammar

open Reader

variable (g : Grammar)

def memberModifiers : List String :=
  ["public", "private", "protected", "static", "abstract", "override", "readonly", "declare",
    "async", "get", "set", "accessor"]

/-- The brackets hold an index signature or a mapped type, and no computed name. -/
def startsIndex (c : Cursor) : Bool :=
  c.startsWith '[' &&
    let inner := c.advance 1
    inner.atWord && (inner.pastWord.startsWith ':' || inner.pastWord.word == "in")

def indexSignature : Reader Tree := do
  letter '['
  let _ ← word "identifier"
  if !(← skipMark ":") then keyword "in"
  let t ← g.read .type
  let renamed ← if ← skipKeyword "as" then pure [← g.read .type] else pure []
  letter ']'
  return .branch "index_signature" (t :: renamed)

/-- The marks after a member's name: optional, definite, or a change of either. -/
def memberMark : Reader Unit := do
  let c ← get
  if c.startsWith '-' || c.startsWith '+' then
    set (c.advance 1)
    letter '?'
  else if c.startsWith '?' then set (c.advance 1)
  else if c.punctuator == "!" then set (c.advance 1)

def member : Reader Tree := do
  let ds ← decorators g
  let c ← get
  if c.startsWith '-' || c.startsWith '+' then
    set (c.advance 1)
    keyword "readonly"
  modifiers g memberModifiers startsPropertyName
  let _ ← skipMark "*"
  let c ← get
  if leads ["static"] (·.startsWith '{') c then
    keyword "static"
    return .branch "class_static_block" [← g.read .block]
  let name ←
    if c.startsWith '(' || c.startsWith '<' then pure []
    else if startsIndex c then pure [← indexSignature g]
    else pure [(← propertyName g).under "name"]
  memberMark
  let c ← get
  let head := ds ++ name
  if c.startsWith '(' || c.startsWith '<' then
    let s ← signature g
    if ← sees (·.startsWith '{') then
      return .branch "method_definition" (head ++ s ++ [← g.read .block])
    else return .branch "method_signature" (head ++ s)
  else
    let t ← annotation g
    let v ← initializer g false
    return .branch "public_field_definition" (head ++ t ++ v)

/-- Members in braces. -/
def members (kind : String) (item : Reader Tree) : Reader Tree := do
  letter '{'
  let items ← collect g.fuel do
    let c ← get
    if c.startsWith ';' || c.startsWith ',' then
      set (c.advance 1)
      return some none
    else if c.startsWith '}' || c.atEnd then
      closingBrace
      return none
    else return some (some (← item))
  return .branch kind (items.filterMap id)

def classBody : Reader Tree :=
  members g "class_body" (member g)

/-- What a class extends and implements. -/
def heritage : Reader (List Tree) := do
  let clauses ← collect g.fuel do
    if ← skipKeyword "extends" then
      let es ← separated g.fuel do
        let e ← g.read (.operand false)
        let ts ← typeArguments? g
        return e :: ts
      return some es.flatten
    else if ← skipKeyword "implements" then
      return some (← separated g.fuel (g.read .type))
    else return none
  return clauses.flatten

/-- A class from its keyword on. -/
def classRest (kind : String) (before : List Tree) : Reader Tree := do
  keyword "class"
  let c ← get
  let name ←
    if c.atWord && c.word != "extends" && c.word != "implements" then
      pure [(← word "type_identifier").under "name"]
    else pure []
  let ts ← typeParameters? g
  let h ← heritage g
  let b ← classBody g
  return .branch kind (before ++ name ++ ts ++ h ++ [b])

end Scaffold.Source.Grammar
