/-!
# Words of a command

A command is divided into words at blanks. A backslash takes the next character as it is; between
single quotes every character is taken as it is; between double quotes a backslash is special only
before a double quote and before a backslash. Quotes that hold nothing still make a word.
-/

namespace Scaffold.ShellWords

inductive Fault where
  | unclosed
  | nothingEscaped
deriving Repr, DecidableEq, Inhabited

namespace Fault

def message : Fault → String
  | .unclosed => "No closing quotation"
  | .nothingEscaped => "No escaped character"

end Fault

/-- Where a reader of words stands. -/
inductive State where
  | between
  | word
  | single
  | double
  /-- After a backslash outside quotes. -/
  | escaped
  /-- After a backslash between double quotes. -/
  | escapedDouble
deriving Repr, DecidableEq, Inhabited

def isBlank (c : Char) : Bool :=
  c == ' ' || c == '\t' || c == '\r' || c == '\n'

/-- The state after a character that stands outside quotes and is no blank, and whether the
character belongs to the word. -/
def start (c : Char) : State × Bool :=
  if c == '\\' then (.escaped, false)
  else if c == '\'' then (.single, false)
  else if c == '"' then (.double, false)
  else (.word, true)

/-- The words of a text, when `word` has been read of the first of them. -/
def scan (s : State) (word : List Char) : List Char → Except Fault (List (List Char))
  | [] =>
    match s with
    | .between => .ok []
    | .word => .ok [word]
    | .single => .error .unclosed
    | .double => .error .unclosed
    | .escaped => .error .nothingEscaped
    | .escapedDouble => .error .nothingEscaped
  | c :: cs =>
    match s with
    | .between =>
      if isBlank c then scan .between [] cs
      else scan (start c).1 (if (start c).2 then [c] else []) cs
    | .word =>
      if isBlank c then (scan .between [] cs).map (word :: ·)
      else scan (start c).1 (if (start c).2 then word ++ [c] else word) cs
    | .single => if c == '\'' then scan .word word cs else scan .single (word ++ [c]) cs
    | .double =>
      if c == '"' then scan .word word cs
      else if c == '\\' then scan .escapedDouble word cs
      else scan .double (word ++ [c]) cs
    | .escaped => scan .word (word ++ [c]) cs
    | .escapedDouble =>
      if c == '"' || c == '\\' then scan .double (word ++ [c]) cs
      else scan .double (word ++ ['\\', c]) cs

def ofString (s : String) : Except Fault (List String) :=
  (scan .between [] s.toList).map fun words => words.map String.ofList

end Scaffold.ShellWords
