import Scaffold.Yaml.Scanner
import Scaffold.Yaml.Resolve

/-!
# The nodes of a configuration text

Tokens are put together into a tree of tagged nodes. A reference stands for the node that its
anchor named before it; there is no tree for a node that it stands inside of. A text holds at most
one document.
-/

namespace Scaffold.Yaml

inductive Node where
  | scalar (tag text : String)
  | sequence (tag : String) (items : List Node)
  | mapping (tag : String) (entries : List (Node × Node))
deriving Repr, BEq, Inhabited

namespace Node

def tag : Node → String
  | .scalar t _ => t
  | .sequence t _ => t
  | .mapping t _ => t

/-- The number of collections inside one another. -/
def depth : Node → Nat
  | .scalar _ _ => 1
  | .sequence _ items => 1 + depths items
  | .mapping _ entries => 1 + entryDepths entries
where
  depths : List Node → Nat
    | [] => 0
    | n :: ns => max (depth n) (depths ns)
  entryDepths : List (Node × Node) → Nat
    | [] => 0
    | (k, v) :: es => max (max (depth k) (depth v)) (entryDepths es)

/-- A node that nothing was written for. -/
def empty : Node :=
  .scalar Tag.null ""

end Node

/-- The tokens still to read, the anchors met, and what the handles of tags stand for. -/
structure Composer where
  tokens : List Token
  /-- The node of an anchor is there once all of it has been read. -/
  anchors : List (String × Option Node) := []
  handles : List (String × String) := []

abbrev Compose := StateT Composer (Except Fault)

namespace Compose

def malformed : Compose α :=
  throw .malformed

def peek : Compose Token := do
  match (← get).tokens.headD .streamEnd with
  | .fault f => throw f
  | t => return t

def advance : Compose Unit :=
  modify fun s => { s with tokens := s.tokens.tail }

/-- Passes the token `t` when it is next. -/
def skip (t : Token) : Compose Bool := do
  if (← peek) == t then
    advance
    return true
  else return false

def expect (t : Token) : Compose Unit := do
  if !(← skip t) then malformed

/-- Repeats `p` until it answers `none`. -/
def collect : Nat → Compose (Option α) → Compose (List α)
  | 0, _ => malformed
  | fuel + 1, p => do
    match ← p with
    | none => return []
    | some a => return a :: (← collect fuel p)

/-- The anchor and the tag in front of a node, in either order. -/
def properties : Compose (Option String × Option String) := do
  let anchor : Compose (Option String) := do
    match ← peek with
    | .anchor name =>
      advance
      return some name
    | _ => return none
  let tag : Compose (Option String) := do
    match ← peek with
    | .tag none suffix =>
      advance
      return some suffix
    | .tag (some handle) suffix =>
      advance
      match (← get).handles.lookup handle with
      | some lead => return some (lead ++ suffix)
      | none => malformed
    | _ => return none
  match ← anchor with
  | some a => return (some a, ← tag)
  | none =>
    let t ← tag
    if t.isSome then return (← anchor, t) else return (none, none)

/-- The tag of a collection. -/
def collectionTag (given : Option String) (usual : String) : String :=
  match given with
  | none => usual
  | some "!" => usual
  | some t => t

/-- The tag of a scalar: a given one, else by its form when it is plain. -/
def scalarTag (given : Option String) (text : String) (plain : Bool) : String :=
  match given with
  | none => if plain then resolve text else Tag.str
  | some "!" => resolve text
  | some t => t

/-- Remembers an anchor, which must be new. -/
def announce (anchor : Option String) : Compose Unit := do
  if let some a := anchor then
    let s ← get
    if (s.anchors.lookup a).isSome then malformed
    set { s with anchors := (a, none) :: s.anchors }

/-- Remembers a node under its anchor. -/
def remember (anchor : Option String) (n : Node) : Compose Node := do
  if let some a := anchor then
    modify fun s => { s with anchors := (a, some n) :: s.anchors }
  return n

/-- What kinds of collections may stand in a place besides those in brackets. -/
inductive Place where
  /-- Between brackets: none. -/
  | flow
  /-- Block collections. -/
  | block
  /-- Block collections, and a sequence at the column of the mapping around it. -/
  | mappingValue
deriving DecidableEq

def endsBlockItem (t : Token) : Bool :=
  t == .blockEntry || t == .blockEnd

def endsBlockPair (t : Token) : Bool :=
  t == .key || t == .value || t == .blockEnd

/-- A node, or the empty node where the next token ends the place. -/
def orEmpty (p : Token → Bool) (node : Compose Node) : Compose Node := do
  if p (← peek) then return .empty else node

/-- Entries of a block sequence; their marks are passed. -/
def blockItems (fuel : Nat) (ends : Token → Bool) (node : Compose Node) : Compose (List Node) :=
  collect fuel do
    if ← skip .blockEntry then return some (← orEmpty ends node) else return none

/-- Pairs of a block mapping. -/
def blockPairs (fuel : Nat) (node : Compose Node) : Compose (List (Node × Node)) :=
  collect fuel do
    if ← skip .key then
      let k ← orEmpty endsBlockPair node
      let v ← if ← skip .value then orEmpty endsBlockPair node else pure .empty
      return some (k, v)
    else return none

/-- Passes the comma before an item that is not the first; answers whether an item follows. -/
def flowStep (close : Token) (first : Bool) : Compose Bool := do
  if (← peek) == close then return false
  if !first then
    expect .flowEntry
  return (← peek) != close

/-- A key and a value between brackets. -/
def flowPair (close : Token) (node : Compose Node) : Compose (Node × Node) := do
  let ends (t : Token) : Bool := t == .flowEntry || t == close
  let k ← orEmpty (fun t => t == .value || ends t) node
  let v ← if ← skip .value then orEmpty ends node else pure .empty
  return (k, v)

/-- Items in square brackets; a pair among them is a mapping of its own. -/
def flowItems (node : Compose Node) : Nat → Bool → Compose (List Node)
  | 0, _ => malformed
  | fuel + 1, first => do
    if ← flowStep .flowSequenceEnd first then
      let item ←
        if ← skip .key then pure (Node.mapping Tag.map [← flowPair .flowSequenceEnd node])
        else node
      return item :: (← flowItems node fuel false)
    else
      expect .flowSequenceEnd
      return []

/-- Pairs in braces; a node without a colon is a key without a value. -/
def flowPairs (node : Compose Node) : Nat → Bool → Compose (List (Node × Node))
  | 0, _ => malformed
  | fuel + 1, first => do
    if ← flowStep .flowMappingEnd first then
      let pair ←
        if ← skip .key then flowPair .flowMappingEnd node
        else pure (← node, Node.empty)
      return pair :: (← flowPairs node fuel false)
    else
      expect .flowMappingEnd
      return []

/-- The node at the front of the tokens, nested at most `fuel` deep. -/
def node : Nat → Place → Compose Node
  | 0, _ => malformed
  | fuel + 1, place => do
    let t ← peek
    if let .reference name := t then
      advance
      match (← get).anchors.lookup name with
      | some (some n) => return n
      | some none => throw .unrepresentable
      | none => malformed
    else
      let (anchor, given) ← properties
      let inner := node fuel
      let first ← peek
      announce anchor
      let n ← match first with
        | .scalar text plain =>
          advance
          pure (Node.scalar (scalarTag given text plain) text)
        | .flowSequenceStart =>
          advance
          pure (Node.sequence (collectionTag given Tag.seq) (← flowItems (inner .flow) fuel true))
        | .flowMappingStart =>
          advance
          pure (Node.mapping (collectionTag given Tag.map) (← flowPairs (inner .flow) fuel true))
        | .blockEntry =>
          if place == .mappingValue then
            let items ← blockItems fuel (fun t => endsBlockItem t || endsBlockPair t) (inner .block)
            pure (Node.sequence (collectionTag given Tag.seq) items)
          else bare anchor given
        | .blockSequenceStart =>
          if place == .flow then bare anchor given
          else
            advance
            let items ← blockItems fuel endsBlockItem (inner .block)
            expect .blockEnd
            pure (Node.sequence (collectionTag given Tag.seq) items)
        | .blockMappingStart =>
          if place == .flow then bare anchor given
          else
            advance
            let pairs ← blockPairs fuel (inner .mappingValue)
            expect .blockEnd
            pure (Node.mapping (collectionTag given Tag.map) pairs)
        | _ => bare anchor given
      remember anchor n
where
  /-- Nothing but an anchor or a tag. -/
  bare (anchor given : Option String) : Compose Node :=
    if anchor.isSome || given.isSome then return .scalar (scalarTag given "" true) ""
    else malformed

/-- The handles every document has. -/
def usualHandles : List (String × String) :=
  [("!", "!"), ("!!", "tag:yaml.org,2002:")]

/-- Directives at the front, with the handles they define. -/
def directives (fuel : Nat) : Compose Unit := do
  let ds ← collect fuel do
    match ← peek with
    | .directive d =>
      advance
      return some d
    | _ => return none
  let versions := ds.filterMap fun
    | .version major => some major
    | _ => none
  let handles := ds.filterMap fun
    | .handle h lead => some (h, lead)
    | _ => none
  if versions.length > 1 || versions.any (· != 1) then malformed
  if (handles.map (·.1)).eraseDups.length != handles.length then malformed
  modify fun s => { s with handles := handles ++ usualHandles }

/-- The document at the front, where there is one. -/
def document (fuel : Nat) : Compose (Option Node) := do
  match ← peek with
  | .streamEnd => return none
  | t =>
    if t matches .directive _ | .documentStart then
      directives fuel
      expect .documentStart
      match ← peek with
      | .directive _ => return some .empty
      | .documentStart => return some .empty
      | .documentEnd => return some .empty
      | .streamEnd => return some .empty
      | _ => return some (← node fuel .block)
    else
      modify fun s => { s with handles := usualHandles }
      return some (← node fuel .block)

/-- The only document of a text. -/
def single (fuel : Nat) : Compose (Option Node) := do
  let d ← document fuel
  let _ ← collect fuel do
    if ← skip .documentEnd then return some () else return none
  if (← peek) != .streamEnd then malformed
  return d

end Compose

/-- The document of a text, or `none` for an empty one. -/
def compose (text : String) : Except Fault (Option Node) := do
  let ts ← tokens text
  (Compose.single (ts.length + 2)).run' { tokens := ts }

end Scaffold.Yaml
