import Scaffold.Text.Lowercase
import Scaffold.Value
import Scaffold.Yaml.Base64
import Scaffold.Yaml.Node

/-!
# The value of a configuration text

Every node has a value by its tag. A mapping may take over the entries of others under the key
`<<`; its own entries come after them and win.

* `Node.inspect` looks for faults, outer collections before inner ones.
* `Node.build` gives the value of a node.
* `load` is the value of a text.
-/

namespace Scaffold.Yaml

open Number (Binary64)

/-! ### Scalars -/

def withoutGaps (text : String) : List Char :=
  text.toList.filter (· != '_')

def digitValue? (c : Char) : Option Nat :=
  if c.isDigit then some (c.toNat - 48)
  else if 'a' ≤ c && c ≤ 'z' then some (c.toNat - 87)
  else if 'A' ≤ c && c ≤ 'Z' then some (c.toNat - 55)
  else none

/-- The mark in front of a number of this base, which may be repeated there. -/
def baseMark : Nat → List Char
  | 2 => ['b', 'B']
  | 8 => ['o', 'O']
  | 16 => ['x', 'X']
  | _ => []

/-- The sign of an integer in digits of any script and what follows it, without the blanks around
it. -/
def integerParts (cs : List Char) : Bool × List Char :=
  Number.Decimal.spanSign ((Text.strip (String.ofList cs)).toList.map Text.plainDigit)

/-- An integer in a base: blanks around it, a sign and the mark of the base are accepted. -/
def integer? (base : Nat) (cs : List Char) : Option Int :=
  let (negative, body) := integerParts cs
  let body := match body with
    | '0' :: m :: r => if (baseMark base).contains m then r else body
    | _ => body
  let values := body.map fun c => (digitValue? c).filter (· < base)
  if body.isEmpty || values.any Option.isNone then none
  else
    let n : Nat := values.foldl (fun n d => n * base + d.getD 0) 0
    some (if negative then -(n : Int) else n)

/-- The number of digits at the front of an integer in base ten, where these are too many. The
other bases have no such limit. -/
def tooLong? (base : Nat) (cs : List Char) : Option Nat :=
  let digits := ((integerParts cs).2.takeWhile Char.isDigit).length
  if base == 10 && digits > Fault.mostDigits then some digits else none

def integer (base : Nat) (cs : List Char) : Except Fault Int :=
  match tooLong? base cs, integer? base cs with
  | some digits, _ => .error (.tooLong digits)
  | none, some n => .ok n
  | none, none => .error (.integer base (String.ofList cs))

/-- The pieces of a text between colons. -/
def colonPieces : List Char → List (List Char)
  | [] => [[]]
  | c :: cs =>
    if c == ':' then [] :: colonPieces cs
    else
      match colonPieces cs with
      | p :: ps => (c :: p) :: ps
      | [] => [[c]]

/-- The sign at the front of a number and the rest, which must not be empty. -/
def signed (cs : List Char) : Except Fault (Bool × List Char) :=
  if cs.isEmpty then .error .emptyNumber else .ok (Number.Decimal.spanSign cs)

def intValue (text : String) : Except Fault Int := do
  let (negative, cs) ← signed (withoutGaps text)
  let n ←
    if cs == ['0'] then pure 0
    else
      match cs with
      | '0' :: 'b' :: r => integer 2 r
      | '0' :: 'x' :: r => integer 16 r
      | '0' :: _ => integer 8 cs
      | [] => .error .emptyNumber
      | _ =>
        if cs.contains ':' then
          let parts ← (colonPieces cs).mapM (integer 10)
          pure (parts.foldl (fun n d => n * 60 + d) 0)
        else integer 10 cs
  if (Nat.toDigits 10 n.natAbs).length > Fault.mostDigits then throw .unrepresentable
  return if negative then -n else n

def real (cs : List Char) : Except Fault Binary64 :=
  match Number.Decimal.read? (String.ofList cs) with
  | some x => .ok x
  | none => .error (.real (String.ofList cs))

/-- Sixties, the last place first: each counts sixty times what the one before it counted, as far
as there is a floating-point number for that. -/
def addPlaces (places : List Binary64) : Except Fault Binary64 :=
  if places.length > mostPlaces then .error .tooManyPlaces
  else .ok (places.foldl (fun (acc : Binary64 × Nat) d =>
    (acc.1.add (d.mul (.ofRatio false acc.2 1)), acc.2 * 60)) (.zero false, 1)).1
where
  /-- Any further place would count more than the largest number. -/
  mostPlaces : Nat := 174

def floatValue (text : String) : Except Fault Binary64 := do
  let (negative, cs) ← signed (Text.lower (String.ofList (withoutGaps text))).toList
  let x ←
    if cs == ".inf".toList then pure (.infinity false)
    else if cs == ".nan".toList then pure .nan
    else if cs.contains ':' then
      addPlaces (← (colonPieces cs).mapM real).reverse
    else real cs
  return if negative && !x.isNaN then x.neg else x

def boolValue (text : String) : Except Fault Bool :=
  let word := Text.lower text
  if ["yes", "true", "on"].contains word then .ok true
  else if ["no", "false", "off"].contains word then .ok false
  else .error (.boolean word)

def timestampValue (text : String) : Except Fault Value :=
  match dateOrTime? text.toList with
  | some (.inl d) => (d.check.map Value.date).mapError .calendar
  | some (.inr t) => (t.check.map Value.timestamp).mapError .calendar
  | none => .error .timestamp

def binaryValue (text : String) : Except Fault Value :=
  if !text.toList.all (·.toNat < 128) then .error .malformed
  else
    match Base64.decode text with
    | some bytes => .ok (.bytes bytes)
    | none => .error .malformed

/-- The value of a scalar under a tag; `none` for tags that scalars do not have. -/
def scalarValue? (tag text : String) : Option (Except Fault Value) :=
  if tag == Tag.str then some (.ok (.text text))
  else if tag == Tag.int then some ((intValue text).map .int)
  else if tag == Tag.float then some ((floatValue text).map .float)
  else if tag == Tag.bool then some ((boolValue text).map .bool)
  else if tag == Tag.null then some (.ok .null)
  else if tag == Tag.timestamp then some (timestampValue text)
  else if tag == Tag.binary then some (binaryValue text)
  else none

namespace Node

/-- The text of a scalar, or of the scalar that a mapping holds under the key `=`. -/
def text? : Nat → Node → Option String
  | _, .scalar _ text => some text
  | fuel + 1, .mapping _ entries =>
    match entries.find? fun e => e.1.tag == Tag.value with
    | some (_, v) => text? fuel v
    | none => none
  | _, _ => none

/-- The entries of a mapping with those it takes over in front of its own. -/
def flatten : Nat → List (Node × Node) → Except Fault (List (Node × Node))
  | 0, _ => .error .malformed
  | fuel + 1, entries => do
    let merged ← (entries.filter fun e => e.1.tag == Tag.merge).mapM fun e =>
      match e.2 with
      | .mapping _ inner => flatten fuel inner
      | .sequence _ items => do
        let lists ← items.mapM fun
          | .mapping _ inner => flatten fuel inner
          | _ => .error .malformed
        return lists.reverse.flatten
      | .scalar _ _ => .error .malformed
    let own := (entries.filter fun e => e.1.tag != Tag.merge).map fun e =>
      match e.1 with
      | .scalar t text => (Node.scalar (if t == Tag.value then Tag.str else t) text, e.2)
      | k => (k, e.2)
    return merged.flatten ++ own

/-- What kind of value a tag calls for. -/
inductive Form where
  | scalar
  | list
  | map
  | set
  | pairs
deriving DecidableEq

def form (tag : String) : Option Form :=
  if tag == Tag.seq then some .list
  else if tag == Tag.map then some .map
  else if tag == Tag.set then some .set
  else if tag == Tag.omap || tag == Tag.pairs then some .pairs
  else if (scalarValue? tag "").isSome then some .scalar
  else none

/-- The pairs of a list of mappings with one entry each. -/
def singletons (items : List Node) : Except Fault (List (Node × Node)) :=
  items.mapM fun
    | .mapping _ [e] => .ok e
    | _ => .error .malformed

/-- The faults that show at a node itself. -/
def check (n : Node) : Except Fault Unit :=
  match form n.tag with
  | none => .error .malformed
  | some .scalar =>
    match n.text? n.depth with
    | none => .error .malformed
    | some text =>
      match scalarValue? n.tag text with
      | some (.error f) => .error f
      | _ => .ok ()
  | _ => .ok ()

/-- A key is looked at, and must not be a collection. -/
def checkKey (k : Node) : Except Fault Unit := do
  k.check
  if form k.tag != some .scalar then throw .malformed

/-- The faults inside a collection, as far as its items show them, and the items to look into. -/
def open? (n : Node) : Except Fault (List Node) :=
  match form n.tag, n with
  | some .scalar, _ => .ok []
  | some .list, .sequence _ items => do
    items.forM check
    return items
  | some .pairs, .sequence _ items => do
    let es ← singletons items
    es.forM fun (k, v) => do
      k.check
      v.check
    return es.flatMap fun (k, v) => [k, v]
  | some .map, .mapping _ entries => inMapping n.depth entries
  | some .set, .mapping _ entries => inMapping n.depth entries
  | _, _ => .error .malformed
where
  inMapping (fuel : Nat) (entries : List (Node × Node)) : Except Fault (List Node) := do
    let es ← flatten fuel entries
    es.forM fun (k, v) => do
      checkKey k
      v.check
    return es.map (·.2)

/-- Looks into collections level by level, `fuel` levels at most. -/
def inspect : Nat → List Node → Except Fault Unit
  | 0, _ => .ok ()
  | fuel + 1, level => do
    let next ← level.mapM open?
    if next.flatten.isEmpty then return
    inspect fuel next.flatten

/-- The value of a node, nested at most `fuel` deep. -/
def build : Nat → Node → Except Fault Value
  | 0, _ => .error .malformed
  | fuel + 1, n =>
    let pair (e : Node × Node) : Except Fault (Value × Value) := do
      return (← build fuel e.1, ← build fuel e.2)
    match form n.tag, n with
    | some .list, .sequence _ items => return .list (← items.mapM (build fuel))
    | some .pairs, .sequence _ items => do
      let es ← (← singletons items).mapM pair
      return .list (es.map fun (k, v) => .pair k v)
    | some .map, .mapping _ entries => do
      return .ofEntries (← (← flatten n.depth entries).mapM pair)
    | some .set, .mapping _ entries => do
      let es ← (← flatten n.depth entries).mapM pair
      return .ofItems (es.map (·.1))
    | some .scalar, n =>
      match n.text? n.depth with
      | none => .error .malformed
      | some text => (scalarValue? n.tag text).getD (.error .malformed)
    | _, _ => .error .malformed

def value (n : Node) : Except Fault Value := do
  n.check
  inspect (n.depth + 1) [n]
  build (n.depth + 1) n

end Node

/-- Line ends of other systems become line feeds. -/
def unifyLines : List Char → List Char
  | '\r' :: '\n' :: cs => '\n' :: unifyLines cs
  | '\r' :: cs => '\n' :: unifyLines cs
  | c :: cs => c :: unifyLines cs
  | [] => []

/-- The value of a text; an empty text is null. -/
def load (text : String) : Except Fault Value := do
  match ← compose (String.ofList (unifyLines text.toList)) with
  | none => return .null
  | some n => n.value

end Scaffold.Yaml
