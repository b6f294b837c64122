import Scaffold.Text.Utf8
import Scaffold.Yaml.Fault
import Scaffold.Yaml.Token

/-!
# Cutting a configuration text into tokens

Indentation is kept as a stack of columns; a deeper column opens a block collection and a
shallower one closes those above it. A scalar may turn out to be a key only when the colon after
it is met: until then its place in the token list is remembered, and the key mark is put there
afterwards. Such a key must end on its line and within 1024 characters.
-/

namespace Scaffold.Yaml

/-- A token that may turn out to be a key. -/
structure PendingKey where
  /-- The number of tokens before it. -/
  position : Nat
  /-- Nothing but a key can stand here. -/
  required : Bool
  index : Nat
  line : Nat
  column : Nat
deriving Repr, Inhabited

structure Scanner where
  rest : List Char
  index : Nat := 0
  line : Nat := 0
  column : Nat := 0
  /-- The number of open brackets. -/
  flow : Int := 0
  /-- The column of the innermost open block collection. -/
  indent : Int := -1
  /-- The columns of the block collections around it. -/
  outer : List Int := []
  /-- A key may start at the next token. -/
  allowsKey : Bool := true
  /-- Pending keys by the number of open brackets around them. -/
  pending : List (Int × PendingKey) := []
  tokens : Array Token := #[]
deriving Inhabited

abbrev Scan := StateT Scanner (Except Fault)

/-! ### Characters -/

def isBreak (c : Char) : Bool :=
  c == '\n' || c == '\r' || c == '\x85' || c == '\u2028' || c == '\u2029'

/-- A line break, or the end of the text. -/
def endsLine (c : Option Char) : Bool :=
  c.all isBreak

/-- A space, a line break, or the end of the text. -/
def endsField (c : Option Char) : Bool :=
  c.all fun c => c == ' ' || isBreak c

/-- A blank, a line break, or the end of the text. -/
def endsWord (c : Option Char) : Bool :=
  c.all fun c => c == ' ' || c == '\t' || isBreak c

def isNameChar (c : Char) : Bool :=
  c.isAlphanum || c == '-' || c == '_'

def isHexDigit (c : Char) : Bool :=
  c.isDigit || ('a' ≤ c && c ≤ 'f') || ('A' ≤ c && c ≤ 'F')

def hexValue (cs : List Char) : Nat :=
  cs.foldl (fun n c =>
    n * 16 + (if c.isDigit then c.toNat - 48 else if c ≤ 'F' then c.toNat - 55 else c.toNat - 87)) 0

/-- The characters a text may hold at all. -/
def isAccepted (c : Char) : Bool :=
  let n := c.toNat
  n == 9 || n == 10 || n == 13 || (0x20 ≤ n && n ≤ 0x7e) || n == 0x85 || (0xa0 ≤ n && n ≤ 0xd7ff) ||
    (0xe000 ≤ n && n ≤ 0xfffd) || 0x10000 ≤ n

namespace Scanner

def peek (s : Scanner) (n : Nat) : Option Char :=
  s.rest[n]?

/-- The scanner behind the next character. -/
def step (s : Scanner) : Scanner :=
  match s.rest with
  | [] => s
  | c :: rest =>
    if isBreak c then { s with rest, index := s.index + 1, line := s.line + 1, column := 0 }
    else if c == '\ufeff' then { s with rest, index := s.index + 1 }
    else { s with rest, index := s.index + 1, column := s.column + 1 }

def forward (s : Scanner) : Nat → Scanner
  | 0 => s
  | n + 1 => (s.step).forward n

/-- The token ends on another line, or is too long for a key. -/
def isStale (s : Scanner) (k : PendingKey) : Bool :=
  k.line != s.line || s.index - k.index > 1024

end Scanner

namespace Scan

def malformed : Scan α :=
  throw .malformed

def peek (n : Nat) : Scan (Option Char) :=
  return (← get).peek n

def forward (n : Nat) : Scan Unit :=
  modify (·.forward n)

/-- Passes the characters that satisfy `p` and gives them. -/
def takeWhile (p : Char → Bool) : Scan (List Char) := do
  let cs := (← get).rest.takeWhile p
  forward cs.length
  return cs

/-- Passes a line break, as it reads in a scalar. -/
def lineBreak : Scan (List Char) := do
  match (← get).rest with
  | '\r' :: '\n' :: _ =>
    forward 2
    return ['\n']
  | c :: _ =>
    if isBreak c then
      forward 1
      return [if c == '\u2028' || c == '\u2029' then c else '\n']
    else return []
  | [] => return []

def emit (t : Token) : Scan Unit :=
  modify fun s => { s with tokens := s.tokens.push t }

/-- Runs `p` again as long as it answers `true`, at most as often as there are characters. -/
def repeatWhile (p : Scan Bool) : Scan Unit := do
  loop p ((← get).rest.length + 1)
where
  loop (p : Scan Bool) : Nat → Scan Unit
    | 0 => return
    | n + 1 => do if ← p then loop p n

/-- A document mark stands at the start of this line. -/
def atDocumentMark : Scan Bool := do
  let s ← get
  let mark := s.rest.take 3
  return (mark == ['-', '-', '-'] || mark == ['.', '.', '.']) && endsWord (s.peek 3)

/-! ### Keys and indentation -/

/-- Forgets the pending key between the present brackets. -/
def dropPending : Scan Unit := do
  let s ← get
  match s.pending.lookup s.flow with
  | some k =>
    if k.required then malformed
    set { s with pending := s.pending.filter (·.1 != s.flow) }
  | none => return

/-- Remembers that the next token may turn out to be a key. -/
def savePending : Scan Unit := do
  let s ← get
  if s.allowsKey then
    dropPending
    let s ← get
    let k : PendingKey := {
      position := s.tokens.size, required := s.flow == 0 && s.indent == s.column,
      index := s.index, line := s.line, column := s.column }
    set { s with pending := (s.flow, k) :: s.pending }

/-- Forgets pending keys that have become too long. -/
def dropStale : Scan Unit := do
  let s ← get
  if s.pending.any fun (_, k) => s.isStale k && k.required then malformed
  set { s with pending := s.pending.filter fun (_, k) => !s.isStale k }

/-- Closes the block collections that are indented deeper than `column`. -/
def closeBlocks (column : Int) : Scan Unit := do
  let s ← get
  if s.flow == 0 then
    let closed := (s.indent :: s.outer).takeWhile (· > column)
    let kept := (s.indent :: s.outer).drop closed.length
    set { s with
      indent := kept.headD (-1), outer := kept.tail
      tokens := s.tokens ++ (closed.map fun _ => Token.blockEnd).toArray }

/-- Opens a block collection at `column`; answers whether that was needed. -/
def openBlock (column : Int) : Scan Bool := do
  let s ← get
  if s.indent < column then
    set { s with outer := s.indent :: s.outer, indent := column }
    return true
  else return false

def setAllowsKey (b : Bool) : Scan Unit :=
  modify fun s => { s with allowsKey := b }

/-! ### Gaps -/

def skipComment : Scan Unit := do
  if (← peek 0) == some '#' then
    let _ ← takeWhile (!isBreak ·)

/-- Passes spaces, comments and line breaks. -/
def skipGaps : Scan Unit := do
  if (← get).index == 0 && (← peek 0) == some '\ufeff' then forward 1
  repeatWhile do
    let _ ← takeWhile (· == ' ')
    skipComment
    if (← lineBreak).isEmpty then return false
    if (← get).flow == 0 then setAllowsKey true
    return true

/-- Passes the rest of a line on which nothing but a comment may stand. -/
def ignoredLine : Scan Unit := do
  let _ ← takeWhile (· == ' ')
  skipComment
  if !endsLine (← peek 0) then malformed
  let _ ← lineBreak

/-! ### Directives, anchors and tags -/

/-- A handle such as `!!`: name characters between exclamation marks, or a single one. -/
def tagHandle : Scan String := do
  let s ← get
  if s.peek 0 != some '!' then malformed
  if s.peek 1 == some ' ' then
    forward 1
    return "!"
  let name := s.rest.tail.takeWhile isNameChar
  match s.peek (name.length + 1) with
  | some '!' =>
    forward (name.length + 2)
    return String.ofList ('!' :: name ++ ['!'])
  | _ => malformed

/-- Bytes written as percent signs and two digits each. -/
def percentBytes : Nat → Scan Bytes
  | 0 => return []
  | fuel + 1 => do
    match (← get).rest with
    | '%' :: a :: b :: _ =>
      if isHexDigit a && isHexDigit b then
        forward 3
        return (hexValue [a, b]).toUInt8 :: (← percentBytes fuel)
      else malformed
    | '%' :: _ => malformed
    | _ => return []

def isUriChar (c : Char) : Bool :=
  c.isAlphanum || "-;/?:@&=+$,_.!~*'()[]".toList.contains c

/-- The part of a tag after its handle. -/
def tagUri : Scan String := do
  let first := (← get).rest.length
  let parts ← go (first + 1)
  if parts.isEmpty then malformed
  return String.join parts
where
  go : Nat → Scan (List String)
    | 0 => return []
    | fuel + 1 => do
      let cs ← takeWhile isUriChar
      if (← peek 0) == some '%' then
        let bytes ← percentBytes (← get).rest.length
        match Text.Utf8.decode bytes with
        | .ok s => return String.ofList cs :: s :: (← go fuel)
        | .error _ => malformed
      else if cs.isEmpty then return []
      else return [String.ofList cs]

def directiveNumber : Scan Nat := do
  let ds ← takeWhile Char.isDigit
  if ds.isEmpty then malformed
  if ds.length > Fault.mostDigits then throw (.tooLong ds.length)
  return ds.foldl (fun n c => n * 10 + (c.toNat - 48)) 0

def directive : Scan Directive := do
  forward 1
  let name ← takeWhile isNameChar
  if name.isEmpty || !endsField (← peek 0) then malformed
  let d ← match String.ofList name with
    | "YAML" =>
      let _ ← takeWhile (· == ' ')
      let major ← directiveNumber
      if (← peek 0) != some '.' then malformed
      forward 1
      let _ ← directiveNumber
      if !endsField (← peek 0) then malformed
      pure (Directive.version major)
    | "TAG" =>
      let _ ← takeWhile (· == ' ')
      let handle ← tagHandle
      if (← peek 0) != some ' ' then malformed
      let _ ← takeWhile (· == ' ')
      let lead ← tagUri
      if !endsField (← peek 0) then malformed
      pure (Directive.handle handle lead)
    | _ =>
      let _ ← takeWhile (!isBreak ·)
      pure Directive.other
  ignoredLine
  return d

/-- The name of an anchor or a reference, after its mark. -/
def anchorName : Scan String := do
  forward 1
  let name ← takeWhile isNameChar
  let next ← peek 0
  if name.isEmpty || !(endsWord next || next.any ("?:,]\x7d%@\x60".toList.contains ·)) then malformed
  return String.ofList name

def tag : Scan Token := do
  let s ← get
  let t ←
    if s.peek 1 == some '<' then
      forward 2
      let uri ← tagUri
      if (← peek 0) != some '>' then malformed
      forward 1
      pure (Token.tag none uri)
    else if endsWord (s.peek 1) then
      forward 1
      pure (Token.tag none "!")
    else
      let word := s.rest.tail.takeWhile fun c => !(c == ' ' || isBreak c)
      if word.contains '!' then
        let handle ← tagHandle
        pure (Token.tag (some handle) (← tagUri))
      else
        forward 1
        pure (Token.tag (some "!") (← tagUri))
  if !endsField (← peek 0) then malformed
  return t

/-! ### Scalars -/

/-- The chomping and indentation marks of a block scalar. -/
def blockMarks : Scan (Option Bool × Option Nat) := do
  let chomp : Scan (Option Bool) := do
    match ← peek 0 with
    | some '+' => forward 1; return some true
    | some '-' => forward 1; return some false
    | _ => return none
  let increment : Scan (Option Nat) := do
    match ← peek 0 with
    | some c =>
      if c.isDigit then
        if c == '0' then malformed
        forward 1
        return some (c.toNat - 48)
      else return none
    | none => return none
  let first ← chomp
  let n ← increment
  let c ← if first.isNone && n.isSome then chomp else pure first
  if !endsField (← peek 0) then malformed
  return (c, n)

/-- Empty lines in front of a block scalar, and the deepest column met in them. -/
def blockIndentation : Scan (List Char × Nat) := do
  go ((← get).rest.length + 1) 0
where
  go : Nat → Nat → Scan (List Char × Nat)
    | 0, deepest => return ([], deepest)
    | fuel + 1, deepest => do
      match ← peek 0 with
      | some ' ' =>
        forward 1
        go fuel (max deepest (← get).column)
      | _ =>
        let b ← lineBreak
        if b.isEmpty then return ([], deepest)
        let (bs, deepest) ← go fuel deepest
        return (b ++ bs, deepest)

/-- Spaces up to the column `indent`. -/
def skipIndent (indent : Nat) : Scan Unit := do
  let s ← get
  let spaces := (s.rest.take (indent - s.column)).takeWhile (· == ' ')
  forward spaces.length

/-- Empty lines between the lines of a block scalar. -/
def blockBreaks (indent : Nat) : Scan (List Char) := do
  skipIndent indent
  go ((← get).rest.length + 1)
where
  go : Nat → Scan (List Char)
    | 0 => return []
    | fuel + 1 => do
      let b ← lineBreak
      if b.isEmpty then return []
      skipIndent indent
      return b ++ (← go fuel)

/-- The lines of a block scalar, then its last line break and the empty lines after it. -/
def blockLines (folded : Bool) (indent : Nat) :
    Nat → List Char → List Char → Scan (List Char × List Char × List Char)
  | 0, last, breaks => return ([], last, breaks)
  | fuel + 1, last, breaks => do
    let s ← get
    if s.column != indent || s.rest.isEmpty then return ([], last, breaks)
    let isLead (c : Option Char) : Bool := c == some ' ' || c == some '\t'
    let flush := !isLead (s.peek 0)
    let line ← takeWhile (!isBreak ·)
    let last ← lineBreak
    let after ← blockBreaks indent
    let s ← get
    if s.column == indent && !s.rest.isEmpty then
      let joint :=
        if folded && last == ['\n'] && flush && !isLead (s.peek 0) then
          if after.isEmpty then [' '] else []
        else last
      let (text, last, tail) ← blockLines folded indent fuel last after
      return (breaks ++ line ++ joint ++ text, last, tail)
    else return (breaks ++ line, last, after)

def blockScalar (folded : Bool) : Scan Token := do
  forward 1
  let (chomp, increment) ← blockMarks
  ignoredLine
  let least := max ((← get).indent + 1) 1
  let (breaks, indent) ← match increment with
    | none =>
      let (breaks, deepest) ← blockIndentation
      pure (breaks, max least.toNat deepest)
    | some n =>
      let indent := least.toNat + n - 1
      pure (← blockBreaks indent, indent)
  let (text, last, tail) ← blockLines folded indent ((← get).rest.length + 1) [] breaks
  let ending := match chomp with
    | some true => last ++ tail
    | some false => []
    | none => last
  return .scalar (String.ofList (text ++ ending)) false

/-- Escapes of one letter in a double-quoted scalar. -/
def escapes : List (Char × Char) :=
  [('0', '\x00'), ('a', '\x07'), ('b', '\x08'), ('t', '\x09'), ('\t', '\x09'), ('n', '\x0a'),
    ('v', '\x0b'), ('f', '\x0c'), ('r', '\x0d'), ('e', '\x1b'), (' ', ' '), ('"', '"'),
    ('\\', '\\'), ('/', '/'), ('N', '\x85'), ('_', '\xa0'), ('L', '\u2028'), ('P', '\u2029')]

/-- The number of digits of an escape by number. -/
def escapeWidths : List (Char × Nat) :=
  [('x', 2), ('u', 4), ('U', 8)]

/-- Line breaks inside a quoted scalar, after the first. -/
def quotedBreaks : Nat → Scan (List Char)
  | 0 => return []
  | fuel + 1 => do
    if ← atDocumentMark then malformed
    let _ ← takeWhile fun c => c == ' ' || c == '\t'
    let b ← lineBreak
    if b.isEmpty then return []
    return b ++ (← quotedBreaks fuel)

/-- An escape, after its backslash. -/
def escape : Scan (List Char) := do
  match ← peek 0 with
  | none => malformed
  | some c =>
    match escapes.lookup c with
    | some r =>
      forward 1
      return [r]
    | none =>
      match escapeWidths.lookup c with
      | some width =>
        forward 1
        let digits := (← get).rest.take width
        if digits.length < width || !digits.all isHexDigit then malformed
        let n := hexValue digits
        if n ≥ Nat.pow 2 31 then throw .codePointSize
        if n > 0x10ffff then throw .codePoint
        -- the halves of a pair are no characters
        if 0xd800 ≤ n && n ≤ 0xdfff then throw .unrepresentable
        forward width
        return [Char.ofNat n]
      | none =>
        if isBreak c then
          let _ ← lineBreak
          quotedBreaks ((← get).rest.length + 1)
        else malformed

/-- The characters of a quoted scalar up to a blank or to the quote. -/
def quotedWord (double : Bool) : Nat → Scan (List Char)
  | 0 => return []
  | fuel + 1 => do
    let cs ← takeWhile fun c => !("'\"\\ \t".toList.contains c || isBreak c)
    let s ← get
    match s.peek 0 with
    | some '\'' =>
      if double then
        forward 1
        return cs ++ '\'' :: (← quotedWord double fuel)
      else if s.peek 1 == some '\'' then
        forward 2
        return cs ++ '\'' :: (← quotedWord double fuel)
      else return cs
    | some '"' =>
      if double then return cs
      else
        forward 1
        return cs ++ '"' :: (← quotedWord double fuel)
    | some '\\' =>
      forward 1
      if double then
        let e ← escape
        return cs ++ e ++ (← quotedWord double fuel)
      else return cs ++ '\\' :: (← quotedWord double fuel)
    | _ => return cs

/-- Blanks or line breaks inside a quoted scalar. -/
def quotedGap : Scan (List Char) := do
  let blanks ← takeWhile fun c => c == ' ' || c == '\t'
  match ← peek 0 with
  | none => malformed
  | some c =>
    if isBreak c then
      let b ← lineBreak
      let breaks ← quotedBreaks ((← get).rest.length + 1)
      return (if b != ['\n'] then b else if breaks.isEmpty then [' '] else []) ++ breaks
    else return blanks

def quotedScalar (quote : Char) : Scan Token := do
  let double := quote == '"'
  forward 1
  let fuel := (← get).rest.length + 1
  let text ← go double fuel
  forward 1
  return .scalar (String.ofList text) false
where
  go (double : Bool) : Nat → Scan (List Char)
    | 0 => return []
    | fuel + 1 => do
      let cs ← quotedWord double ((← get).rest.length + 1)
      if (← peek 0) == some (if double then '"' else '\'') then return cs
      else
        let gap ← quotedGap
        return cs ++ gap ++ (← go double fuel)

/-- The characters of a plain scalar up to a blank or to a mark that ends it. -/
def plainWord (inFlow : Bool) : List Char → List Char
  | [] => []
  | c :: rest =>
    let next := rest.head?
    if endsWord (some c) then []
    else if c == ':' && (endsWord next || (inFlow && next.any (",[]\x7b\x7d".toList.contains ·))) then []
    else if inFlow && ",?[]\x7b\x7d".toList.contains c then []
    else c :: plainWord inFlow rest

/-- Blanks after a piece of a plain scalar. `none` when a document mark follows. -/
def plainGap : Scan (Option (List Char)) := do
  let blanks ← takeWhile (· == ' ')
  if !(← peek 0).any isBreak then return some blanks
  let b ← lineBreak
  setAllowsKey true
  if ← atDocumentMark then return none
  match ← go ((← get).rest.length + 1) with
  | none => return none
  | some breaks =>
    return some ((if b != ['\n'] then b else if breaks.isEmpty then [' '] else []) ++ breaks)
where
  go : Nat → Scan (Option (List Char))
    | 0 => return some []
    | fuel + 1 => do
      if (← peek 0) == some ' ' then
        forward 1
        go fuel
      else
        let b ← lineBreak
        if b.isEmpty then return some []
        if ← atDocumentMark then return none
        return (← go fuel).map (b ++ ·)

/-- The pieces of a plain scalar; `gap` stands before the next one. -/
def plainPieces (indent : Int) : Nat → List Char → Scan (List Char)
  | 0, _ => return []
  | fuel + 1, gap => do
    let s ← get
    if s.peek 0 == some '#' then return []
    let word := plainWord (s.flow != 0) s.rest
    if word.isEmpty then return []
    setAllowsKey false
    forward word.length
    match ← plainGap with
    | none => return gap ++ word
    | some next =>
      let s ← get
      if next.isEmpty || s.peek 0 == some '#' || (s.flow == 0 && (s.column : Int) < indent) then
        return gap ++ word
      return gap ++ word ++ (← plainPieces indent fuel next)

def plainScalar : Scan Token := do
  let s ← get
  return .scalar (String.ofList (← plainPieces (s.indent + 1) (s.rest.length + 1) [])) true

/-! ### The next token -/

def endStream : Scan Unit := do
  closeBlocks (-1)
  dropPending
  modify fun s => { s with pending := [], allowsKey := false }
  emit .streamEnd

def documentMark (t : Token) : Scan Unit := do
  closeBlocks (-1)
  dropPending
  setAllowsKey false
  forward 3
  emit t

def openFlow (t : Token) : Scan Unit := do
  savePending
  modify fun s => { s with flow := s.flow + 1, allowsKey := true }
  forward 1
  emit t

def closeFlow (t : Token) : Scan Unit := do
  dropPending
  modify fun s => { s with flow := s.flow - 1, allowsKey := false }
  forward 1
  emit t

def flowEntry : Scan Unit := do
  setAllowsKey true
  dropPending
  forward 1
  emit .flowEntry

def blockEntry : Scan Unit := do
  let s ← get
  if s.flow == 0 then
    if !s.allowsKey then malformed
    if ← openBlock s.column then emit .blockSequenceStart
  setAllowsKey true
  dropPending
  forward 1
  emit .blockEntry

def explicitKey : Scan Unit := do
  let s ← get
  if s.flow == 0 then
    if !s.allowsKey then malformed
    if ← openBlock s.column then emit .blockMappingStart
  setAllowsKey (s.flow == 0)
  dropPending
  forward 1
  emit .key

/-- Puts tokens before the one at `position`. -/
def insertAt (position : Nat) (ts : List Token) : Scan Unit :=
  modify fun s => { s with
    tokens := s.tokens.extract 0 position ++ ts.toArray ++ s.tokens.extract position s.tokens.size }

def value : Scan Unit := do
  let s ← get
  match s.pending.lookup s.flow with
  | some k =>
    set { s with pending := s.pending.filter (·.1 != s.flow) }
    let opened ← if s.flow == 0 then openBlock k.column else pure false
    insertAt k.position (if opened then [.blockMappingStart, .key] else [.key])
    setAllowsKey false
  | none =>
    if s.flow == 0 then
      if !s.allowsKey then malformed
      if ← openBlock s.column then emit .blockMappingStart
    setAllowsKey (s.flow == 0)
    dropPending
  forward 1
  emit .value

/-- A token that may be a key. -/
def keyable (p : Scan Token) : Scan Unit := do
  savePending
  setAllowsKey false
  emit (← p)

/-- A plain scalar may start here. -/
def startsPlain (s : Scanner) : Bool :=
  match s.peek 0 with
  | none => false
  | some c =>
    !(endsWord (some c) || "-?:,[]\x7b\x7d#&*!|>'\"%@\x60".toList.contains c) ||
      (!endsWord (s.peek 1) && (c == '-' || (s.flow == 0 && (c == '?' || c == ':'))))

/-- Reads the next token; answers whether more may follow. -/
def next : Scan Bool := do
  skipGaps
  dropStale
  closeBlocks (← get).column
  let s ← get
  let spaced := endsWord (s.peek 1)
  let more (p : Scan Unit) : Scan Bool := do
    p
    return true
  match s.peek 0 with
  | none =>
    endStream
    return false
  | some c =>
    let mark := s.rest.take 3
    if c == '%' && s.column == 0 then more do
      closeBlocks (-1)
      dropPending
      setAllowsKey false
      emit (.directive (← directive))
    else if s.column == 0 && mark == ['-', '-', '-'] && endsWord (s.peek 3) then
      more (documentMark .documentStart)
    else if s.column == 0 && mark == ['.', '.', '.'] && endsWord (s.peek 3) then
      more (documentMark .documentEnd)
    else if c == '[' then more (openFlow .flowSequenceStart)
    else if c == '{' then more (openFlow .flowMappingStart)
    else if c == ']' then more (closeFlow .flowSequenceEnd)
    else if c == '}' then more (closeFlow .flowMappingEnd)
    else if c == ',' then more flowEntry
    else if c == '-' && spaced then more blockEntry
    else if c == '?' && (s.flow != 0 || spaced) then more explicitKey
    else if c == ':' && (s.flow != 0 || spaced) then more value
    else if c == '*' then more (keyable (return .reference (← anchorName)))
    else if c == '&' then more (keyable (return .anchor (← anchorName)))
    else if c == '!' then more (keyable tag)
    else if (c == '|' || c == '>') && s.flow == 0 then more do
      setAllowsKey true
      dropPending
      emit (← blockScalar (c == '>'))
    else if c == '\'' || c == '"' then more (keyable (quotedScalar c))
    else if startsPlain s then more (keyable plainScalar)
    else malformed

end Scan

namespace Scanner

/-- The number of tokens in front of which no key mark can be put any more. -/
def settled (s : Scanner) : Nat :=
  ((s.pending.filter fun (_, k) => !s.isStale k).map (·.2.position)).foldl min s.tokens.size

/-- Reads one token after the other, at most `fuel` times. A fault takes the place of the tokens
that cannot be used before the next one is read. -/
def scan : Nat → Scanner → List Token
  | 0, s => s.tokens.toList
  | fuel + 1, s =>
    match Scan.next.run s with
    | .ok (true, t) => scan fuel t
    | .ok (false, t) => t.tokens.toList
    | .error f => s.tokens.toList.take s.settled ++ [.fault f]

end Scanner

/-- The tokens of a text, up to the end of the stream or to the first fault. -/
def tokens (text : String) : Except Fault (List Token) :=
  let cs := text.toList
  if cs.all isAccepted then .ok (Scanner.scan (cs.length + 1) { rest := cs })
  else .error .malformed

end Scaffold.Yaml
