import Scaffold.Calendar
import Scaffold.Number.Shortest
import Scaffold.Text.Quoted

/-!
# Values of configuration files

A configuration file may hold any value at any place, so settings are read from values of one
dynamic type. Maps and sets keep the order in which their entries came; a later entry with the
same key replaces the value of the earlier one.
-/

namespace Scaffold

open Number (Binary64)
open Calendar (Date Timestamp)

inductive Value where
  | null
  | bool (b : Bool)
  | int (n : Int)
  | float (x : Binary64)
  | text (s : String)
  | bytes (bs : Bytes)
  | date (d : Date)
  | timestamp (t : Timestamp)
  | list (items : List Value)
  | pair (first second : Value)
  | map (entries : List (Value × Value))
  | set (items : List Value)
deriving Repr, BEq, Inhabited

namespace Value

/-- The name of a value's type, as messages give it. -/
def typeName : Value → String
  | .null => "NoneType"
  | .bool _ => "bool"
  | .int _ => "int"
  | .float _ => "float"
  | .text _ => "str"
  | .bytes _ => "bytes"
  | .date _ => "datetime.date"
  | .timestamp _ => "datetime.datetime"
  | .list _ => "list"
  | .pair _ _ => "tuple"
  | .map _ => "dict"
  | .set _ => "set"

/-- Null, false, zero and what is empty count as not given. -/
def isTruthy : Value → Bool
  | .null => false
  | .bool b => b
  | .int n => n != 0
  | .float x => !x.isZero
  | .text s => !s.isEmpty
  | .bytes bs => !bs.isEmpty
  | .list items => !items.isEmpty
  | .map entries => !entries.isEmpty
  | .set items => !items.isEmpty
  | _ => true

/-- The first value that counts as given. -/
def orElse (v w : Value) : Value :=
  if v.isTruthy then v else w

/-- How a value is shown in messages and inside collections; the members of a set are shown in the
order in which they came. -/
def display : Value → String
  | .null => "None"
  | .bool b => if b then "True" else "False"
  | .int n => toString n
  | .float x => Number.Shortest.text x
  | .text s => Text.Quoted.ofString s
  | .bytes bs => Text.Quoted.ofBytes bs
  | .date d => d.display
  | .timestamp t => t.display
  | .list items => "[" ++ ", ".intercalate (displays items) ++ "]"
  | .pair a b => "(" ++ display a ++ ", " ++ display b ++ ")"
  | .map entries => "\x7b" ++ ", ".intercalate (entryDisplays entries) ++ "\x7d"
  | .set items =>
    if items.isEmpty then "set()" else "\x7b" ++ ", ".intercalate (displays items) ++ "\x7d"
where
  displays : List Value → List String
    | [] => []
    | v :: vs => display v :: displays vs
  entryDisplays : List (Value × Value) → List String
    | [] => []
    | (k, v) :: es => (display k ++ ": " ++ display v) :: entryDisplays es

/-- How a value is written into a text: texts, dates and times stand for themselves. -/
def format : Value → String
  | .text s => s
  | .date d => d.text
  | .timestamp t => t.text
  | v => v.display

/-- The value of a number, truth values counting as zero and one, on a common scale. -/
def scaled? : Value → Option Int
  | .bool b => some (if b then Binary64.scale else 0)
  | .int n => some (n * Binary64.scale)
  | .float x => if x.finite then some x.scaled else none
  | _ => none

/-- Equality of keys: numbers are equal by value, times at an offset by instant. -/
def sameKey (v w : Value) : Bool :=
  match v, w with
  | .null, .null => true
  | .text s, .text t => s == t
  | .bytes s, .bytes t => s == t
  | .date d, .date e => d == e
  | .timestamp t, .timestamp u => t.offset.isSome == u.offset.isSome && t.instant == u.instant
  | .float x, .float y =>
    if x.finite && y.finite then x.scaled == y.scaled else x == y
  | _, _ =>
    match v.scaled?, w.scaled? with
    | some a, some b => a == b
    | _, _ => false

/-- The value under a key. -/
def lookup (entries : List (Value × Value)) (key : Value) : Option Value :=
  (entries.find? fun e => e.1.sameKey key).map (·.2)

/-- The entries with `value` under `key`; a key that is there keeps its place and spelling. -/
def put (entries : List (Value × Value)) (key value : Value) : List (Value × Value) :=
  if entries.any (·.1.sameKey key) then
    entries.map fun e => if e.1.sameKey key then (e.1, value) else e
  else entries ++ [(key, value)]

/-- Entries in the order they came, with one entry a key. -/
def ofEntries (entries : List (Value × Value)) : Value :=
  .map (entries.foldl (fun acc e => put acc e.1 e.2) [])

/-- Items in the order they came, each once. -/
def ofItems (items : List Value) : Value :=
  .set (items.foldl (fun acc v => if acc.any (·.sameKey v) then acc else acc ++ [v]) [])

/-! ### The order of keys -/

/-- Keys of one class can be put in order. -/
inductive OrderClass where
  | number
  | text
  | bytes
  | date
  | localTime
  | universalTime
  /-- A value that has no order even with itself. -/
  | none
deriving Repr, DecidableEq

def orderClass : Value → OrderClass
  | .bool _ => .number
  | .int _ => .number
  | .float _ => .number
  | .text _ => .text
  | .bytes _ => .bytes
  | .date _ => .date
  | .timestamp t => if t.offset.isSome then .universalTime else .localTime
  | _ => .none

/-- Why values cannot be put in order. -/
inductive Unorderable where
  | types
  | dateAndTime
  | timeZones
deriving Repr, DecidableEq, Inhabited

/-- The order of two values of one class. -/
def le (v w : Value) : Bool :=
  match v, w with
  | .text s, .text t => s ≤ t
  | .bytes s, .bytes t => s ≤ t
  | .date d, .date e => d.ordinal ≤ e.ordinal
  | .timestamp t, .timestamp u => t.instant ≤ u.instant
  | _, _ =>
    match v.scaled?, w.scaled? with
    | some a, some b => a ≤ b
    | some _, none => match w with
      | .float x => !x.isNegative
      | _ => true
    | none, _ => match v with
      | .float x => x.isNegative
      | _ => true

/-- The values in order, where they all have one. A single value is in order. -/
def sort (vs : List Value) : Except Unorderable (List Value) :=
  match vs with
  | [] => .ok []
  | [v] => .ok [v]
  | v :: others =>
    let classes := (v :: others).map orderClass
    let dates := [OrderClass.date, .localTime, .universalTime]
    if v.orderClass != .none && classes.all (· == v.orderClass) then
      .ok ((v :: others).mergeSort le)
    else if classes.all dates.contains then
      if classes.contains .date then .error .dateAndTime else .error .timeZones
    else .error .types

end Value

end Scaffold
