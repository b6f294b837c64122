/-!
# Binding names

A file name becomes a name that a default import can bind: the characters that identifiers allow
are kept, and every run of them after the first starts with a capital (`my-module` gives
`myModule`). An underscore goes in front of a digit and of a reserved word.
-/

namespace Scaffold.Identifier

/-- ASCII letters, digits, the underscore and the dollar sign. -/
def isAllowed (c : Char) : Bool :=
  c.isAlphanum || c == '_' || c == '$'

/-- The maximal runs of allowed characters, in order. -/
def runs : List Char → List (List Char)
  | [] => []
  | c :: cs =>
    if isAllowed c then
      match cs.head?.any isAllowed, runs cs with
      | true, r :: rs => (c :: r) :: rs
      | _, rs => [c] :: rs
    else runs cs

def capitalize : List Char → List Char
  | [] => []
  | c :: cs => c.toUpper :: cs

/-- The words no binding may have. -/
def reserved : List String :=
  ["break", "case", "catch", "class", "const", "continue", "debugger", "default", "delete", "do",
    "else", "enum", "export", "extends", "false", "finally", "for", "function", "if", "import",
    "in", "instanceof", "new", "null", "return", "super", "switch", "this", "throw", "true", "try",
    "typeof", "var", "void", "while", "with", "yield", "let", "static", "await"]

/-- Puts an underscore in front where the text could not be bound as it stands. -/
def guarded (cs : List Char) : List Char :=
  let cs := if cs.head?.any Char.isDigit then '_' :: cs else cs
  if reserved.contains (String.ofList cs) then '_' :: cs else cs

/-- The characters of the binding name for `name`. -/
def chars (name : List Char) : List Char :=
  match runs name with
  | [] => "subject".toList
  | first :: others => guarded (first ++ (others.map capitalize).flatten)

def ofName (name : String) : String :=
  String.ofList (chars name.toList)

end Scaffold.Identifier
