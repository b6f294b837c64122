import Scaffold.Text.Utf8

/-!
# Bytes written as text in base 64

Characters outside the alphabet are passed over. Padding ends the text once a group is complete
with it; a group that is left incomplete is an error.
-/

namespace Scaffold.Yaml.Base64

def sextet? (c : Char) : Option Nat :=
  if 'A' ≤ c && c ≤ 'Z' then some (c.toNat - 65)
  else if 'a' ≤ c && c ≤ 'z' then some (c.toNat - 71)
  else if c.isDigit then some (c.toNat + 4)
  else if c == '+' then some 62
  else if c == '/' then some 63
  else none

/-- Reads on: `filled` characters of the present group were read, `left` is what the last of them
left over, and `pads` padding marks came since. -/
def decodeFrom (filled left pads : Nat) : List Char → Option Bytes
  | [] => if filled == 0 then some [] else none
  | c :: cs =>
    if c == '=' then
      if 2 ≤ filled && 4 ≤ filled + (pads + 1) then some []
      else decodeFrom filled left (if 2 ≤ filled then pads + 1 else pads) cs
    else
      match sextet? c with
      | none => decodeFrom filled left pads cs
      | some n =>
        match filled with
        | 0 => decodeFrom 1 n 0 cs
        | 1 => (decodeFrom 2 (n % 16) 0 cs).map ((left * 4 + n / 16).toUInt8 :: ·)
        | 2 => (decodeFrom 3 (n % 4) 0 cs).map ((left * 16 + n / 4).toUInt8 :: ·)
        | _ => (decodeFrom 0 0 0 cs).map ((left * 64 + n).toUInt8 :: ·)

def decode (s : String) : Option Bytes :=
  decodeFrom 0 0 0 s.toList

end Scaffold.Yaml.Base64
