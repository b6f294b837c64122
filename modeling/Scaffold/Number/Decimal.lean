import Scaffold.Number.Binary64
import Scaffold.Text.Blank
import Scaffold.Text.Digit

/-!
# Reading numerals
-/

namespace Scaffold.Number.Decimal

def digitValue (c : Char) : Nat :=
  c.toNat - 48

def natural (cs : List Char) : Nat :=
  cs.foldl (fun n c => n * 10 + digitValue c) 0

/-- Digits at the front and the rest. -/
def spanDigits (cs : List Char) : List Char × List Char :=
  cs.span Char.isDigit

/-- The sign at the front and the rest. -/
def spanSign : List Char → Bool × List Char
  | '-' :: cs => (true, cs)
  | '+' :: cs => (false, cs)
  | cs => (false, cs)

/-- An exponent, or nothing at all. -/
def exponent? : List Char → Option Int
  | [] => some 0
  | e :: cs =>
    if e == 'e' || e == 'E' then
      let (negative, ds) := spanSign cs
      if ds.isEmpty || !ds.all Char.isDigit then none
      else some (if negative then -(natural ds : Int) else natural ds)
    else none

/-- An unsigned decimal: digits, a point, digits, an exponent; some digit must be there. -/
def unsigned? (negative : Bool) (cs : List Char) : Option Binary64 :=
  let (whole, rest) := spanDigits cs
  let (part, rest) := match rest with
    | '.' :: rest => spanDigits rest
    | rest => ([], rest)
  if whole.isEmpty && part.isEmpty then none
  else (exponent? rest).map fun e =>
    Binary64.ofDecimal negative (natural (whole ++ part)) (e - part.length)

/-- A signed decimal in digits of any script, or a word for infinity or for no number, with blanks
around it. -/
def read? (s : String) : Option Binary64 :=
  let (negative, cs) := spanSign ((Text.strip s).toList.map Text.plainDigit)
  match (String.ofList cs).toLower with
  | "inf" => some (.infinity negative)
  | "infinity" => some (.infinity negative)
  | "nan" => some .nan
  | _ => unsigned? negative cs

end Scaffold.Number.Decimal
