import Scaffold.Source.Grammar.Types

/-!
# Markup elements

Between tags every letter is text up to the next brace or angle bracket. The production leaves
the cursor at the letter after the element, since more text may follow there.
-/

namespace Scaffold.Source.Grammar

open Reader

variable (g : Grammar)

/-- A tag name: words joined by dots, colons and hyphens. -/
def tagName : Reader Unit := do
  let _ ← word "identifier"
  let _ ← collect g.fuel do
    let c ← get
    if c.startsWith '-' || c.startsWith ':' || c.startsWith '.' then
      let after := c.advance 1
      let after := if after.atDigit then after.settle (after.rest.dropWhile Char.isDigit) else after
      set (if after.atWord then after.pastWord else after)
      return some ()
    else return none

/-- A quoted attribute value, which has no escapes. -/
def attributeText : Reader Unit := do
  let c ← get
  match c.rest with
  | q :: r =>
    guard (q == '"' || q == '\'')
    let tail := r.dropWhile (· != q)
    guard (!tail.isEmpty)
    set (c.settle (tail.drop 1))
  | [] => failure

/-- An expression in braces, possibly spread or left out. The closing brace is not passed. -/
def hole : Reader (List Tree) := do
  letter '{'
  let _ ← skipMark "..."
  if ← sees (·.startsWith '}') then return [] else return [← g.expressions]

def tagAttribute : Reader (List Tree) := do
  if ← sees (·.startsWith '{') then
    let h ← hole g
    letter '}'
    return h
  else
    tagName g
    if ← skipMark "=" then
      let c ← get
      if c.startsWith '{' then
        let h ← hole g
        letter '}'
        return h
      else if c.startsWith '<' then
        let e ← g.read .element
        settle
        return [e]
      else
        attributeText
        return []
    else return []

/-- Children up to the closing tag, whose bracket and slash are read. -/
def elementChildren : Reader (List Tree) := do
  let parts ← collect g.fuel do
    let c ← get
    match c.rest with
    | '<' :: r =>
      let inner := c.settle r
      if inner.startsWith '/' then
        set (inner.advance 1)
        return none
      else return some [← g.read .element]
    | '{' :: _ =>
      let h ← hole g
      rawLetter '}'
      return some h
    | l :: _ =>
      guard (l != '}' && l != '>')
      set { c with rest := c.rest.dropWhile fun l => l != '<' && l != '{' && l != '}' && l != '>' }
      return some []
    | [] => failure
  return parts.flatten

def elementProduction : Reader Tree := do
  letter '<'
  if ← sees (·.startsWith '>') then
    rawLetter '>'
    let cs ← elementChildren g
    rawLetter '>'
    return .branch "jsx_element" cs
  else
    tagName g
    let ts ← typeArguments? g
    let attributes ← collect g.fuel do
      let c ← get
      if c.startsWith '>' || c.startsWith '/' then return none
      else return some (← tagAttribute g)
    let head := ts ++ attributes.flatten
    if ← sees (·.startsWith '/') then
      letter '/'
      rawLetter '>'
      return .branch "jsx_self_closing_element" head
    else
      rawLetter '>'
      let cs ← elementChildren g
      tagName g
      rawLetter '>'
      return .branch "jsx_element" (head ++ cs)

end Scaffold.Source.Grammar
