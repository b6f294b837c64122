import Scaffold.Calendar
import Scaffold.Number.Decimal

/-!
# The types of plain scalars

A plain scalar is a truth value, a number, null, a date or a time when it has the form of one, and
a text otherwise. The forms are tried in the order of `resolve`.
-/

namespace Scaffold.Yaml

namespace Tag

def standard (name : String) : String :=
  "tag:yaml.org,2002:" ++ name

def str : String := standard "str"
def int : String := standard "int"
def float : String := standard "float"
def bool : String := standard "bool"
def null : String := standard "null"
def binary : String := standard "binary"
def timestamp : String := standard "timestamp"
def seq : String := standard "seq"
def map : String := standard "map"
def set : String := standard "set"
def omap : String := standard "omap"
def pairs : String := standard "pairs"
def merge : String := standard "merge"
def value : String := standard "value"

end Tag

def trueWords : List String :=
  ["yes", "Yes", "YES", "true", "True", "TRUE", "on", "On", "ON"]

def falseWords : List String :=
  ["no", "No", "NO", "false", "False", "FALSE", "off", "Off", "OFF"]

def nullWords : List String :=
  ["", "~", "null", "Null", "NULL"]

def isDigitOrGap (c : Char) : Bool :=
  c.isDigit || c == '_'

/-- The text without a sign at its front. -/
def unsigned : List Char → List Char
  | '+' :: cs => cs
  | '-' :: cs => cs
  | cs => cs

/-- Nothing, or an exponent with its sign. -/
def isExponent : List Char → Bool
  | [] => true
  | e :: s :: ds =>
    (e == 'e' || e == 'E') && (s == '+' || s == '-') && !ds.isEmpty && ds.all Char.isDigit
  | _ => false

/-- Groups of one or two digits below sixty, each after a colon. `rest` judges what follows. -/
def isSexagesimal (rest : List Char → Bool) : List Char → Bool
  | ':' :: a :: b :: cs =>
    (a.isDigit && (rest (b :: cs) || isSexagesimal rest (b :: cs))) ||
      ('0' ≤ a && a ≤ '5' && b.isDigit && (rest cs || isSexagesimal rest cs))
  | [':', a] => a.isDigit && rest []
  | _ => false

/-- A point and digits up to the end. -/
def isFraction : List Char → Bool
  | '.' :: cs => cs.all isDigitOrGap
  | _ => false

def isFloat (cs : List Char) : Bool :=
  let body := unsigned cs
  let isInfinity := [".inf", ".Inf", ".INF"].contains (String.ofList body)
  let isNaN := [".nan", ".NaN", ".NAN"].contains (String.ofList cs)
  let pointFirst := match cs with
    | '.' :: d :: r => d.isDigit && isExponent (r.dropWhile isDigitOrGap)
    | _ => false
  let digitFirst := match body with
    | d :: r =>
      d.isDigit &&
        match r.dropWhile isDigitOrGap with
        | '.' :: r => isExponent (r.dropWhile isDigitOrGap)
        | r => isSexagesimal isFraction r
    | [] => false
  isInfinity || isNaN || pointFirst || digitFirst

def isInt (cs : List Char) : Bool :=
  match unsigned cs with
  | '0' :: 'b' :: r => !r.isEmpty && r.all fun c => c == '0' || c == '1' || c == '_'
  | '0' :: 'x' :: r =>
    !r.isEmpty && r.all fun c => isDigitOrGap c || ('a' ≤ c && c ≤ 'f') || ('A' ≤ c && c ≤ 'F')
  | '0' :: r => r.all fun c => ('0' ≤ c && c ≤ '7') || c == '_'
  | d :: r =>
    d.isDigit &&
      let r := r.dropWhile isDigitOrGap
      r.isEmpty || isSexagesimal List.isEmpty r
  | [] => false

/-! ### Dates and times -/

/-- Digits at the front, between `least` and `most` of them, and the rest. -/
def digits? (least most : Nat) (cs : List Char) : Option (Nat × List Char) :=
  let ds := (cs.take most).takeWhile Char.isDigit
  if ds.length < least then none else some (Number.Decimal.natural ds, cs.drop ds.length)

def letter? (c : Char) : List Char → Option (List Char)
  | d :: cs => if c == d then some cs else none
  | [] => none

def isGap (c : Char) : Bool :=
  c == ' ' || c == '\t'

/-- The offset from universal time at the end of a text: a `Z`, or a sign, hours and minutes. -/
def offset? (cs : List Char) : Option (Option Int) :=
  match cs.dropWhile isGap with
  | [] => if cs.isEmpty then some none else none
  | ['Z'] => some (some 0)
  | s :: r => do
    guard (s == '+' || s == '-')
    let (hours, r) ← digits? 1 2 r
    let (minutes, r) ← match r with
      | [] => some (0, [])
      | ':' :: r => digits? 2 2 r
      | _ => none
    guard r.isEmpty
    let n : Int := hours * 60 + minutes
    return some (if s == '-' then -n else n)

/-- The first six digits of a fraction, as millionths. -/
def millionths (ds : List Char) : Nat :=
  let six := ds.take 6
  Number.Decimal.natural (six ++ List.replicate (6 - six.length) '0')

open Calendar (Date Timestamp)

/-- A time of day after a date. -/
def time? (date : Date) (cs : List Char) : Option Timestamp := do
  let r ← match cs with
    | c :: r =>
      if c == 'T' || c == 't' then some r
      else if isGap c then some (r.dropWhile isGap)
      else none
    | [] => none
  let (hour, r) ← digits? 1 2 r
  let r ← letter? ':' r
  let (minute, r) ← digits? 2 2 r
  let r ← letter? ':' r
  let (second, r) ← digits? 2 2 r
  let (fraction, r) := match r with
    | '.' :: r => r.span Char.isDigit
    | r => ([], r)
  let offset ← offset? r
  return ⟨date, hour, minute, second, millionths fraction, offset⟩

/-- A date, or a date with a time, in the form that constructing one accepts. -/
def dateOrTime? (cs : List Char) : Option (Date ⊕ Timestamp) := do
  let (year, r) ← digits? 4 4 cs
  let r ← letter? '-' r
  let (month, r) ← digits? 1 2 r
  let r ← letter? '-' r
  let (day, r) ← digits? 1 2 r
  let date : Date := ⟨year, month, day⟩
  match r with
  | [] => return .inl date
  | r => return .inr (← time? date r)

/-- A date alone must have two digits for month and day to count as one. -/
def isTimestamp (cs : List Char) : Bool :=
  match dateOrTime? cs with
  | some (.inl _) => cs.length == 10
  | some (.inr _) => true
  | none => false

/-- The tag of a plain scalar. -/
def resolve (text : String) : String :=
  let cs := text.toList
  if trueWords.contains text || falseWords.contains text then Tag.bool
  else if isFloat cs then Tag.float
  else if isInt cs then Tag.int
  else if text == "<<" then Tag.merge
  else if nullWords.contains text then Tag.null
  else if isTimestamp cs then Tag.timestamp
  else if text == "=" then Tag.value
  else Tag.str

end Scaffold.Yaml
