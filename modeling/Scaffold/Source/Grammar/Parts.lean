import Scaffold.Source.Grammar

/-!
# Parts shared by declarations, types and expressions

Type arguments and type parameters, decorators, parameters and the names of properties.
-/

namespace Scaffold.Source.Grammar

open Reader

variable (g : Grammar)

/-- The word under the cursor is one of `words` and the cursor after it satisfies `p`. -/
def leads (words : List String) (p : Cursor → Bool) (c : Cursor) : Bool :=
  words.contains c.word && p c.pastWord

/-- Passes words out of `words` as long as `p` holds after them. -/
def modifiers (words : List String) (p : Cursor → Bool) : Reader Unit := do
  let _ ← collect g.fuel do
    let c ← get
    if leads words p c then
      set c.pastWord
      return some ()
    else return none

/-- Items in angle brackets, separated by commas. -/
def angled (item : Reader (List Tree)) : Reader (List Tree) := do
  letter '<'
  let items ← collect g.fuel do
    if ← sees (·.startsWith '>') then
      letter '>'
      return none
    else
      let ts ← item
      let c ← get
      if c.startsWith ',' then set (c.advance 1)
      else guard (c.startsWith '>')
      return some ts
  return items.flatten

/-- Type arguments in angle brackets. -/
def typeArguments : Reader Tree :=
  return .branch "type_arguments" (← angled g (return [← g.read .type]))

/-- Type parameters in angle brackets. Type arguments are among what is accepted. -/
def typeParameters : Reader Tree :=
  return .branch "type_parameters" (← angled g do
    modifiers g ["const", "in", "out"] (fun c => c.atWord && c.word != "extends")
    let t ← g.read .type
    let d ← if ← skipMark "=" then pure [← g.read .type] else pure []
    return t :: d)

/-- Type arguments, where the cursor stands at an angle bracket. -/
def typeArguments? : Reader (List Tree) := do
  if ← sees (·.startsWith '<') then return [← typeArguments g] else return []

/-- Type parameters, where the cursor stands at an angle bracket. -/
def typeParameters? : Reader (List Tree) := do
  if ← sees (·.startsWith '<') then return [← typeParameters g] else return []

/-- Call arguments in parentheses. -/
def arguments : Reader Tree := do
  letter '('
  let items ← listed g.fuel ')' do
    let _ ← skipMark "..."
    g.expression
  return .branch "arguments" items

def decorator : Reader Tree := do
  letter '@'
  if ← sees (·.startsWith '(') then
    letter '('
    let e ← g.expressions
    letter ')'
    return .branch "decorator" [e]
  else
    let _ ← word "identifier"
    let _ ← collect g.fuel do
      if ← skipMark "." then
        let _ ← word "property_identifier"
        return some ()
      else return none
    let call ← optional do
      let ts ← typeArguments? g
      let a ← arguments g
      return ts ++ [a]
    return .branch "decorator" (call.getD [])

def decorators : Reader (List Tree) :=
  collect g.fuel do
    if ← sees (·.startsWith '@') then return some (← decorator g) else return none

/-- A binding: a word, or an object or array that is taken apart. -/
def binding : Reader Tree := do
  let c ← get
  if c.startsWith '{' then return { ← g.read (.operand false) with kind := "object_pattern" }
  else if c.startsWith '[' then return { ← g.read (.operand false) with kind := "array_pattern" }
  else word "identifier"

/-- A type after a colon, where there is one. -/
def annotation : Reader (List Tree) := do
  if ← sees (·.startsWith ':') then
    letter ':'
    return [← g.read .type]
  else return []

/-- A value after an equals sign, where there is one. -/
def initializer (noIn : Bool) : Reader (List Tree) := do
  if ← skipMark "=" then return [← g.read (.expression noIn false)] else return []

def parameterModifiers : List String :=
  ["public", "private", "protected", "override", "readonly", "accessor", "static"]

/-- A binding may start here. -/
def startsBinding (c : Cursor) : Bool :=
  c.atWord || c.startsWith '{' || c.startsWith '['

def parameter : Reader Tree := do
  let ds ← decorators g
  modifiers g parameterModifiers startsBinding
  let _ ← skipMark "..."
  let b ← binding g
  let _ ← skipMark "?"
  let t ← annotation g
  let v ← initializer g false
  return .branch "required_parameter" (ds ++ b :: t ++ v)

def parameters : Reader Tree := do
  letter '('
  return .branch "formal_parameters" (← listed g.fuel ')' (parameter g))

/-- Type parameters, parameters and the type of the result. -/
def signature : Reader (List Tree) := do
  let ts ← typeParameters? g
  let ps ← parameters g
  let r ← annotation g
  return ts ++ ps :: r

/-- The name of a property: a word, a string, a number, a private name or a computed name. -/
def propertyName : Reader Tree := do
  let c ← get
  if c.startsWith '[' then
    letter '['
    let e ← g.expressions
    letter ']'
    return .branch "computed_property_name" [e]
  else if c.startsWith '#' then
    letter '#'
    word "private_property_identifier"
  else if c.atString then quoted
  else if c.atWord then word "property_identifier"
  else number

/-- A property name may start here. -/
def startsPropertyName (c : Cursor) : Bool :=
  c.atWord || c.atString || c.atDigit || c.startsWith '[' || c.startsWith '#' || c.startsWith '*'

end Scaffold.Source.Grammar
