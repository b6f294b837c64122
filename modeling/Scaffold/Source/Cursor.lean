import Scaffold.Source.Tree
import Scaffold.Source.Letters

/-!
# A place in the source text, and readers that move it

A cursor stands at the first letter of a token: blanks and comments before it have been passed,
and it is remembered whether a line end was among them. A reader moves the cursor or fails.
Only markup and templates read letters that stand between tokens; their readers move the cursor
without passing blanks (`advanceRaw`).
-/

namespace Scaffold.Source

structure Cursor where
  rest : Letters
  /-- A line end was passed on the way to this token. -/
  fresh : Bool := true
  /-- A closing brace was supplied at the end of the text. -/
  supplied : Bool := false
deriving Repr, Inhabited

abbrev Reader := StateT Cursor Option

namespace Cursor

/-- The cursor at the first token of `letters`. -/
def settle (c : Cursor) (letters : Letters) : Cursor :=
  let (fresh, rest) := Letters.skip .plain false letters
  { c with rest, fresh }

/-- The cursor after the next `n` letters, at a token again. -/
def advance (c : Cursor) (n : Nat) : Cursor :=
  c.settle (c.rest.drop n)

/-- The word the cursor stands at, or the empty text. -/
def word (c : Cursor) : String :=
  String.ofList (Letters.word c.rest).1

/-- The cursor after the word it stands at. -/
def pastWord (c : Cursor) : Cursor :=
  c.settle (Letters.word c.rest).2

def punctuator (c : Cursor) : String :=
  Letters.punctuator c.rest

def startsWith (c : Cursor) (letter : Char) : Bool :=
  c.rest.head? == some letter

def atEnd (c : Cursor) : Bool :=
  c.rest.isEmpty

/-- The cursor stands at a word. -/
def atWord (c : Cursor) : Bool :=
  !(Letters.word c.rest).1.isEmpty

/-- The cursor stands at a quoted string. -/
def atString (c : Cursor) : Bool :=
  c.startsWith '"' || c.startsWith '\''

def atDigit (c : Cursor) : Bool :=
  c.rest.head?.any Char.isDigit

/-- A line end before this token ends the statement: the token cannot go on with an operand. -/
def startsStatement (c : Cursor) : Bool :=
  c.fresh &&
    match c.rest with
    | '+' :: l :: _ => l == '+'
    | '-' :: l :: _ => l == '-'
    | '!' :: l :: _ => l != '='
    | '.' :: l :: _ => l.isDigit
    | l :: _ =>
      !"\x60,;*%><=?^|&/:([".contains l && c.word != "in" && c.word != "instanceof"
    | [] => true

end Cursor

namespace Reader

/-- Reads nothing; answers whether the cursor satisfies `p`. -/
def sees (p : Cursor → Bool) : Reader Bool :=
  return p (← get)

def guardCursor (p : Cursor → Bool) : Reader Unit := do
  guard (p (← get))

/-- Repeats `p` until it answers `none`, at most `fuel` times. -/
def collect : Nat → Reader (Option α) → Reader (List α)
  | 0, _ => failure
  | fuel + 1, p => do
    match ← p with
    | none => return []
    | some a => return a :: (← collect fuel p)

/-- The punctuation mark `s`, read as the expression language divides marks. -/
def mark (s : String) : Reader Unit := do
  let c ← get
  guard (c.punctuator == s)
  set (c.advance s.length)

/-- The single letter `letter`, whatever follows it. -/
def letter (letter : Char) : Reader Unit := do
  let c ← get
  guard (c.startsWith letter)
  set (c.advance 1)

/-- The single letter `letter`; blanks after it are kept. -/
def rawLetter (letter : Char) : Reader Unit := do
  let c ← get
  guard (c.startsWith letter)
  set { c with rest := c.rest.drop 1 }

/-- Moves to the next token after raw reading. -/
def settle : Reader Unit :=
  modify fun c => c.settle c.rest

/-- The word `w`. -/
def keyword (w : String) : Reader Unit := do
  let c ← get
  guard (c.word == w)
  set c.pastWord

/-- Some word, as a leaf of type `kind`. -/
def word (kind : String) : Reader Tree := do
  let c ← get
  let (w, rest) := Letters.word c.rest
  guard (!w.isEmpty)
  set (c.settle rest)
  return .leaf kind (Letters.toBytes w)

/-- Moves past a mark when the cursor stands at it. -/
def skipMark (s : String) : Reader Bool := do
  let c ← get
  if c.punctuator == s then
    set (c.advance s.length)
    return true
  else return false

/-- Moves past a word when the cursor stands at it. -/
def skipKeyword (w : String) : Reader Bool := do
  let c ← get
  if c.word == w then
    set c.pastWord
    return true
  else return false

/-- A quoted string, quotes included. -/
def quoted : Reader Tree := do
  let c ← get
  match c.rest with
  | q :: r =>
    guard (q == '"' || q == '\'')
    match Letters.stringTail q r with
    | none => failure
    | some rest =>
      set (c.settle rest)
      return .leaf "string" (Letters.toBytes (c.rest.take (c.rest.length - rest.length)))
  | [] => failure

def number : Reader Tree := do
  let c ← get
  match c.rest with
  | '.' :: d :: _ => guard d.isDigit
  | d :: _ => guard d.isDigit
  | [] => failure
  set (c.settle (Letters.numberTail c.rest))
  return .leaf "number" []

/-- A regular expression with its flags. -/
def pattern : Reader Tree := do
  let c ← get
  match c.rest with
  | '/' :: r =>
    match Letters.patternTail false r with
    | none => failure
    | some rest =>
      set (c.settle (rest.dropWhile Char.isAlpha))
      return .leaf "regex" []
  | _ => failure

/-- The end of a statement: a semicolon, or a place where none is needed. -/
def terminator : Reader Unit := do
  let c ← get
  if c.startsWith ';' then set (c.advance 1)
  else guard (c.fresh || c.atEnd || c.startsWith '}')

/-- The closing brace of a body. At the end of the text it is supplied. -/
def closingBrace : Reader Unit := do
  let c ← get
  if c.atEnd then set { c with supplied := true }
  else letter '}'

/-- Items separated by commas up to `close`, which is read too; an item may be missing. -/
def listed (fuel : Nat) (close : Char) (item : Reader Tree) : Reader (List Tree) := do
  let items ← collect fuel do
    let c ← get
    if c.startsWith close then
      set (c.advance 1)
      return none
    else if c.startsWith ',' then
      set (c.advance 1)
      return some none
    else
      let t ← item
      let c ← get
      guard (c.startsWith ',' || c.startsWith close)
      return some (some t)
  return items.filterMap id

/-- One or more items separated by commas. -/
def separated (fuel : Nat) (item : Reader α) : Reader (List α) := do
  let first ← item
  let others ← collect fuel do
    if ← skipMark "," then return some (← item) else return none
  return first :: others

/-- Passes the comments of markup languages, where an operand or a statement may start. -/
def skipMarkupComments : Nat → Reader Unit
  | 0 => return
  | fuel + 1 => do
    let c ← get
    match c.rest with
    | '<' :: '!' :: '-' :: '-' :: _ =>
      set (c.settle (Letters.skipLine c.rest))
      skipMarkupComments fuel
    | '-' :: '-' :: '>' :: _ =>
      set (c.settle (Letters.skipLine c.rest))
      skipMarkupComments fuel
    | _ => return

end Reader

end Scaffold.Source
