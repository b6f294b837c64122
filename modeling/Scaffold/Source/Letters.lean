import Scaffold.Text.Utf8

/-!
# The letters of a source text

The source is read byte by byte; a byte stands as the character of the same number, so that
every mark of the language is an ordinary character and no byte sequence is refused. Blanks
outside ASCII are recognised by their UTF-8 bytes.
-/

namespace Scaffold.Source

/-- The bytes of a text, each as the character of its number. -/
abbrev Letters := List Char

def Letters.ofBytes (bytes : Bytes) : Letters :=
  bytes.map fun b => Char.ofNat b.toNat

def Letters.toBytes (letters : Letters) : Bytes :=
  letters.map fun c => c.toNat.toUInt8

namespace Letters

/-- How many letters the blank at the front takes; `0` when there is none. -/
def blankWidth : Letters → Nat
  | ' ' :: _ => 1
  | '\t' :: _ => 1
  | '\n' :: _ => 1
  | '\r' :: _ => 1
  | '\x0b' :: _ => 1
  | '\x0c' :: _ => 1
  | '\xc2' :: '\xa0' :: _ => 2
  | '\xe1' :: '\x9a' :: '\x80' :: _ => 3
  | '\xe2' :: '\x80' :: c :: _ =>
    if ('\x80' ≤ c && c ≤ '\x8b') || c == '\xa8' || c == '\xa9' || c == '\xaf' then 3 else 0
  | '\xe2' :: '\x81' :: c :: _ => if c == '\x9f' || c == '\xa0' then 3 else 0
  | '\xe3' :: '\x80' :: '\x80' :: _ => 3
  | '\xef' :: '\xbb' :: '\xbf' :: _ => 3
  | _ => 0

/-- Where the reader stands between two tokens. -/
inductive Gap where
  | plain
  | lineComment
  | blockComment
deriving DecidableEq

/-- Passes blanks and comments. The flag tells whether a line feed was among them; other line
ends do not end a statement. -/
def skip : Gap → Bool → Letters → Bool × Letters
  | .lineComment, _, '\n' :: r => skip .plain true r
  | .lineComment, fresh, '\r' :: r => skip .plain fresh r
  | .lineComment, fresh, '\xe2' :: '\x80' :: '\xa8' :: r => skip .plain fresh r
  | .lineComment, fresh, '\xe2' :: '\x80' :: '\xa9' :: r => skip .plain fresh r
  | .lineComment, fresh, _ :: r => skip .lineComment fresh r
  | .blockComment, fresh, '*' :: '/' :: r => skip .plain fresh r
  | .blockComment, _, '\n' :: r => skip .blockComment true r
  | .blockComment, fresh, _ :: r => skip .blockComment fresh r
  | .plain, fresh, '/' :: '/' :: r => skip .lineComment fresh r
  | .plain, fresh, '/' :: '*' :: r => skip .blockComment fresh r
  | .plain, _, '\n' :: r => skip .plain true r
  | .plain, fresh, '\r' :: r => skip .plain fresh r
  | .plain, fresh, '\t' :: r => skip .plain fresh r
  | .plain, fresh, ' ' :: r => skip .plain fresh r
  | .plain, fresh, '\x0b' :: r => skip .plain fresh r
  | .plain, fresh, '\x0c' :: r => skip .plain fresh r
  | .plain, fresh, '\xc2' :: '\xa0' :: r => skip .plain fresh r
  | .plain, fresh, '\xe1' :: '\x9a' :: '\x80' :: r => skip .plain fresh r
  | .plain, fresh, '\xe2' :: c :: d :: r =>
    if blankWidth ('\xe2' :: c :: d :: r) == 3 then skip .plain fresh r
    else (fresh, '\xe2' :: c :: d :: r)
  | .plain, fresh, '\xe3' :: '\x80' :: '\x80' :: r => skip .plain fresh r
  | .plain, fresh, '\xef' :: '\xbb' :: '\xbf' :: r => skip .plain fresh r
  | _, fresh, r => (fresh, r)

/-- Drops the rest of the line. -/
def skipLine (letters : Letters) : Letters :=
  letters.dropWhile fun c => c != '\n' && c != '\r'

/-- Punctuation marks and control characters, none of which a word may hold. -/
def isMark (c : Char) : Bool :=
  c < ' ' || " :;\x60\"'@#.,|^&<=>+-*/\\%?!~()[]\x7b\x7d".contains c

def isHexDigit (c : Char) : Bool :=
  c.isDigit || ('a' ≤ c && c ≤ 'f') || ('A' ≤ c && c ≤ 'F')

/-- The length of the escape `\uXXXX` or `\u{X…}` at the front; `0` when there is none. -/
def escapeWidth : Letters → Nat
  | '\\' :: 'u' :: '{' :: r =>
    let digits := r.takeWhile isHexDigit
    if digits.isEmpty then 0
    else if (r.drop digits.length).head? == some '}' then digits.length + 4 else 0
  | '\\' :: 'u' :: a :: b :: c :: d :: _ =>
    if isHexDigit a && isHexDigit b && isHexDigit c && isHexDigit d then 6 else 0
  | _ => 0

/-- Reads on in a word; `pending` letters belong to an escape already recognised. -/
def wordTail : Nat → Letters → Letters × Letters
  | n + 1, c :: r =>
    let (w, rest) := wordTail n r
    (c :: w, rest)
  | 0, c :: r =>
    if isMark c then
      match escapeWidth (c :: r) with
      | 0 => ([], c :: r)
      | n + 1 =>
        let (w, rest) := wordTail n r
        (c :: w, rest)
    else if blankWidth (c :: r) > 0 then ([], c :: r)
    else
      let (w, rest) := wordTail 0 r
      (c :: w, rest)
  | _, [] => ([], [])

/-- The word at the front and what follows it; the word is empty when none starts here. -/
def word : Letters → Letters × Letters
  | c :: r => if c.isDigit then ([], c :: r) else wordTail 0 (c :: r)
  | [] => ([], [])

/-- The longest punctuation mark at the front, as the expression language divides them. -/
def punctuator : Letters → String
  | '.' :: '.' :: '.' :: _ => "..."
  | '=' :: '=' :: '=' :: _ => "==="
  | '=' :: '=' :: _ => "=="
  | '=' :: '>' :: _ => "=>"
  | '!' :: '=' :: '=' :: _ => "!=="
  | '!' :: '=' :: _ => "!="
  | '*' :: '*' :: '=' :: _ => "**="
  | '*' :: '*' :: _ => "**"
  | '*' :: '=' :: _ => "*="
  | '<' :: '<' :: '=' :: _ => "<<="
  | '<' :: '<' :: _ => "<<"
  | '<' :: '=' :: _ => "<="
  | '>' :: '>' :: '>' :: '=' :: _ => ">>>="
  | '>' :: '>' :: '>' :: _ => ">>>"
  | '>' :: '>' :: '=' :: _ => ">>="
  | '>' :: '>' :: _ => ">>"
  | '>' :: '=' :: _ => ">="
  | '&' :: '&' :: '=' :: _ => "&&="
  | '&' :: '&' :: _ => "&&"
  | '&' :: '=' :: _ => "&="
  | '|' :: '|' :: '=' :: _ => "||="
  | '|' :: '|' :: _ => "||"
  | '|' :: '=' :: _ => "|="
  | '?' :: '?' :: '=' :: _ => "??="
  | '?' :: '?' :: _ => "??"
  | '?' :: '.' :: c :: _ => if c.isDigit then "?" else "?."
  | '+' :: '+' :: _ => "++"
  | '+' :: '=' :: _ => "+="
  | '-' :: '-' :: _ => "--"
  | '-' :: '=' :: _ => "-="
  | '/' :: '=' :: _ => "/="
  | '%' :: '=' :: _ => "%="
  | '^' :: '=' :: _ => "^="
  | c :: _ => if isMark c then c.toString else ""
  | [] => ""

/-- The rest after the closing quote; an unescaped line end leaves the string open. -/
def stringTail (quote : Char) : Letters → Option Letters
  | '\\' :: '\r' :: '\n' :: r => stringTail quote r
  | '\\' :: _ :: r => stringTail quote r
  | c :: r => if c == quote then some r else if c == '\n' then none else stringTail quote r
  | [] => none

/-- The rest after a piece of template text, and whether the template ended there. -/
def templateTail : Letters → Option (Bool × Letters)
  | '\\' :: _ :: r => templateTail r
  | '\x60' :: r => some (true, r)
  | '$' :: '{' :: r => some (false, r)
  | _ :: r => templateTail r
  | [] => none

/-- The rest after the closing slash of a regular expression; slashes between brackets are text. -/
def patternTail : Bool → Letters → Option Letters
  | inClass, '\\' :: c :: r => if c == '\n' then none else patternTail inClass r
  | _, '\n' :: _ => none
  | _, '[' :: r => patternTail true r
  | _, ']' :: r => patternTail false r
  | false, '/' :: r => some r
  | inClass, _ :: r => patternTail inClass r
  | _, [] => none

/-- The rest after a numeric literal. -/
def numberTail : Letters → Letters
  | '0' :: x :: r =>
    if "xXoObB".contains x then r.dropWhile (fun c => c.isAlphanum || c == '_')
    else decimalTail ('0' :: x :: r)
  | r => decimalTail r
where
  digits (r : Letters) : Letters := r.dropWhile fun c => c.isDigit || c == '_'
  exponent : Letters → Letters
    | e :: s :: r =>
      if e == 'e' || e == 'E' then
        if s == '+' || s == '-' then digits r
        else if s.isDigit then digits (s :: r)
        else e :: s :: r
      else e :: s :: r
    | r => r
  suffix : Letters → Letters
    | 'n' :: r => r
    | r => r
  decimalTail (r : Letters) : Letters :=
    match digits r with
    | '.' :: r => suffix (exponent (digits r))
    | r => suffix (exponent r)

end Letters

end Scaffold.Source
