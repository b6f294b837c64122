import Scaffold.Export.Surface
import Scaffold.Number.Shortest
import Scaffold.Target

/-!
# JSON texts

Records, lists, maps and scalars are written as JSON in ASCII: every character outside it is
escaped, one beyond the first plane as two halves. Without an indent the text is one line; with
one, every item has a line of its own.
-/

namespace Scaffold.Json

open Number (Binary64)

/-- Something that may be written. -/
inductive Datum where
  | null
  | bool (b : Bool)
  | int (n : Int)
  | float (x : Binary64)
  | text (s : String)
  | list (items : List Datum)
  | map (entries : List (Datum × Datum))
  /-- A record with its fields in order. -/
  | record (type : String) (fields : List (String × Datum))
  | path (p : Path)
  /-- One of the names of an enumeration. -/
  | choice (type name : String)
  /-- A type of records, which is no record itself. -/
  | recordType
  /-- Anything else. -/
  | foreign (type : String)
deriving Repr, BEq, Inhabited

namespace Datum

/-- The name of a datum's type, as messages give it. -/
def typeName : Datum → String
  | .null => "NoneType"
  | .bool _ => "bool"
  | .int _ => "int"
  | .float _ => "float"
  | .text _ => "str"
  | .list _ => "list"
  | .map _ => "dict"
  | .record type _ => type
  | .path _ => "PosixPath"
  | .choice type _ => type
  | .recordType => "type"
  | .foreign type => type

end Datum

inductive Fault where
  | unwritable (type : String)
  | key (type : String)
  | recordType
deriving Repr, DecidableEq, Inhabited

namespace Fault

def message : Fault → String
  | .unwritable type => s!"Object of type {type} is not JSON serializable"
  | .key type => s!"keys must be str, int, float, bool or None, not {type}"
  | .recordType => "asdict() should be called on dataclass instances"

end Fault

/-- A character of the basic plane by its number. -/
def unicodeEscape (n : Nat) : List Char :=
  '\\' :: 'u' :: Text.Quoted.hex 4 n

def escapeChar (c : Char) : List Char :=
  if c == '"' || c == '\\' then ['\\', c]
  else if c == '\n' then ['\\', 'n']
  else if c == '\r' then ['\\', 'r']
  else if c == '\t' then ['\\', 't']
  else if c == '\x08' then ['\\', 'b']
  else if c == '\x0c' then ['\\', 'f']
  else if ' ' ≤ c && c ≤ '~' then [c]
  else if c.toNat < 0x10000 then unicodeEscape c.toNat
  else
    let n := c.toNat - 0x10000
    unicodeEscape (0xd800 + n / 1024) ++ unicodeEscape (0xdc00 + n % 1024)

def quote (s : String) : String :=
  String.ofList ('"' :: s.toList.flatMap escapeChar ++ ['"'])

def floatText (x : Binary64) : String :=
  if x.isNaN then "NaN"
  else if x.isInfinite then if x.isNegative then "-Infinity" else "Infinity"
  else Number.Shortest.text x

/-- The text of a map's key. -/
def keyText : Datum → Except Fault String
  | .text s => .ok s
  | .null => .ok "null"
  | .bool b => .ok (if b then "true" else "false")
  | .int n => .ok (toString n)
  | .float x => .ok (floatText x)
  | d => .error (.key d.typeName)

/-- What goes between items: nothing but a blank, or a new line indented by the level. -/
def lineStart (indent : Option String) (level : Nat) : String :=
  match indent with
  | none => ""
  | some i => "\n" ++ "".intercalate (List.replicate level i)

/-- Items between brackets; the items stand one level deeper than the brackets. -/
def bracketed (indent : Option String) (level : Nat) (opening closing : String)
    (items : List String) : String :=
  if items.isEmpty then opening ++ closing
  else
    let separator := match indent with
      | none => ", "
      | some _ => "," ++ lineStart indent (level + 1)
    opening ++ lineStart indent (level + 1) ++ separator.intercalate items ++
      lineStart indent level ++ closing

/-- The text of a datum at a level of nesting. -/
def render (indent : Option String) (level : Nat) : Datum → Except Fault String
  | .null => .ok "null"
  | .bool b => .ok (if b then "true" else "false")
  | .int n => .ok (toString n)
  | .float x => .ok (floatText x)
  | .text s => .ok (quote s)
  | .list items => return bracketed indent level "[" "]" (← renderItems indent (level + 1) items)
  | .map entries =>
    return bracketed indent level "\x7b" "\x7d" (← renderEntries indent (level + 1) entries)
  | .record _ fields =>
    return bracketed indent level "\x7b" "\x7d" (← renderFields indent (level + 1) fields)
  | .path p => .ok (quote p.toString)
  | .choice _ name => .ok (quote name)
  | .recordType => .error .recordType
  | .foreign type => .error (.unwritable type)
where
  renderItems (indent : Option String) (level : Nat) : List Datum → Except Fault (List String)
    | [] => .ok []
    | d :: ds => return (← render indent level d) :: (← renderItems indent level ds)
  renderEntries (indent : Option String) (level : Nat) :
      List (Datum × Datum) → Except Fault (List String)
    | [] => .ok []
    | (k, v) :: es => do
      let key ← keyText k
      let value ← render indent level v
      return (quote key ++ ": " ++ value) :: (← renderEntries indent level es)
  renderFields (indent : Option String) (level : Nat) :
      List (String × Datum) → Except Fault (List String)
    | [] => .ok []
    | (k, v) :: fs => do
      let value ← render indent level v
      return (quote k ++ ": " ++ value) :: (← renderFields indent level fs)

def write (indent : Option String) (d : Datum) : Except Fault String :=
  render indent 0 d

/-! ### Records of this library -/

def ofSurface (s : Export.Surface) : Datum :=
  .record "ExportSurface"
    [("named_exports", .list (s.names.map .text)), ("has_default_export", .bool s.hasDefault)]

def ofTarget (t : Target) : Datum :=
  .record "TestFileTarget"
    [("base_name", .text t.binding), ("module_specifier", .text t.specifier),
      ("directory", .path t.folder), ("path", .path t.file)]

end Scaffold.Json
