import Scaffold.Text.Printable
import Scaffold.Text.Utf8

/-!
# Quoted texts

A text is shown between single quotes, or between double quotes when it holds a single quote and
no double one. The quote, the backslash and everything that is not printable is escaped.
-/

namespace Scaffold.Text.Quoted

/-- The quote a text is shown in, given whether it holds single and double quotes. -/
def quoteFor (single double : Bool) : Char :=
  if single && !double then '"' else '\''

/-- The last `width` hexadecimal digits of `n`. -/
def hex : Nat → Nat → List Char
  | 0, _ => []
  | width + 1, n => hex width (n / 16) ++ [Utf8.hexDigit (n % 16)]

/-- The escape of a character by its number. -/
def numeric (n : Nat) : List Char :=
  if n ≤ 0xff then '\\' :: 'x' :: hex 2 n
  else if n ≤ 0xffff then '\\' :: 'u' :: hex 4 n
  else '\\' :: 'U' :: hex 8 n

def escapeChar (quote c : Char) : List Char :=
  if c == quote || c == '\\' then ['\\', c]
  else if c == '\t' then ['\\', 't']
  else if c == '\n' then ['\\', 'n']
  else if c == '\r' then ['\\', 'r']
  else if isPrintable c then [c]
  else numeric c.toNat

def ofString (s : String) : String :=
  let cs := s.toList
  let quote := quoteFor (cs.contains '\'') (cs.contains '"')
  String.ofList (quote :: cs.flatMap (escapeChar quote) ++ [quote])

def escapeByte (quote : Char) (b : UInt8) : List Char :=
  if b < 0x80 then escapeChar quote (Char.ofNat b.toNat) else numeric b.toNat

/-- Bytes are shown like a text of ASCII characters, after the letter `b`. -/
def ofBytes (bytes : Bytes) : String :=
  let holds (c : Char) : Bool := bytes.any (·.toNat == c.toNat)
  let quote := quoteFor (holds '\'') (holds '"')
  String.ofList ('b' :: quote :: bytes.flatMap (escapeByte quote) ++ [quote])

end Scaffold.Text.Quoted
