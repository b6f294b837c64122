import Scaffold.Number.Binary64

/-!
# Shortest decimal texts

A floating-point number is written with the fewest digits that read back to it, and of those the
nearest to its value. The digits are searched for on decimal grids, from coarse to fine: on each
grid only the two neighbours of the value can do.
-/

namespace Scaffold.Number.Shortest

/-- Powers of ten, as a numerator and a denominator. -/
def tenPower (p : Int) : Nat × Nat :=
  if 0 ≤ p then (Nat.pow 10 p.toNat, 1) else (1, Nat.pow 10 (-p).toNat)

/-- The values that round to a number: from `low / den` to `high / den` around `mid / den`,
the ends included or not. -/
structure Interval where
  low : Nat
  mid : Nat
  high : Nat
  den : Nat
  closed : Bool
deriving Repr

/-- The interval of `m * 2 ^ q`; a power of two lies closer to its lower neighbour, except at the
smallest exponent. -/
def interval (m : Nat) (q : Int) : Interval :=
  let below := if m == Nat.pow 2 52 && q > -1074 then 1 else 2
  let up := if 2 ≤ q then Nat.pow 2 (q - 2).toNat else 1
  let den := if 2 ≤ q then 1 else Nat.pow 2 (2 - q).toNat
  ⟨(4 * m - below) * up, 4 * m * up, (4 * m + 2) * up, den, m % 2 == 0⟩

/-- The decimal `n * 10 ^ p` lies in the interval. -/
def Interval.holds (i : Interval) (n : Nat) (p : Int) : Bool :=
  let (a, b) := tenPower p
  let x := n * a * i.den
  if i.closed then i.low * b ≤ x && x ≤ i.high * b else i.low * b < x && x < i.high * b

/-- The decimal exponent of the leading digit. -/
def Interval.magnitude (i : Interval) : Int :=
  let shift : Nat := 400
  ((Nat.toDigits 10 (i.mid * Nat.pow 10 shift / i.den)).length : Int) - 1 - shift

/-- The digits on the grid of `10 ^ p`, where one of the two neighbours does. -/
def Interval.onGrid (i : Interval) (p : Int) : Option Nat :=
  let (a, b) := tenPower p
  let num := i.mid * b
  let den := i.den * a
  let n := num / den
  let r := num % den
  match i.holds n p, i.holds (n + 1) p with
  | true, true => if 2 * r < den || (2 * r == den && n % 2 == 0) then some n else some (n + 1)
  | true, false => some n
  | false, true => some (n + 1)
  | false, false => none

/-- The first grid with a hit, from `count` digits on. -/
def Interval.search (i : Interval) (top : Int) : Nat → Nat → Option (Nat × Int)
  | 0, _ => none
  | tries + 1, count =>
    let p := top - (count - 1 : Nat)
    match i.onGrid p with
    | some n => some (n, p)
    | none => i.search top tries (count + 1)

/-- Digits without zeros at the end, and the exponent of the last of them. -/
def trim : Nat → Nat → Int → Nat × Int
  | 0, n, p => (n, p)
  | tries + 1, n, p => if n % 10 == 0 && n != 0 then trim tries (n / 10) (p + 1) else (n, p)

/-- The shortest decimal `n * 10 ^ p` of a positive finite number. -/
def digits (x : Binary64) : Nat × Int :=
  let (m, q) := x.decompose
  let i := interval m q
  match i.search i.magnitude 17 1 with
  | some (n, p) => trim 20 n p
  | none => (m, q)

/-- Two digits at least. -/
def exponentText (e : Nat) : String :=
  if e < 10 then "0" ++ toString e else toString e

/-- Positional from `1e-4` on and below `1e16`, with a point and a digit behind it at least;
otherwise one digit, a point where more digits follow, and a signed exponent. -/
def layout (n : Nat) (p : Int) : String :=
  let ds := Nat.toDigits 10 n
  let e : Int := p + ds.length - 1
  if -4 ≤ e && e < 16 then
    if 0 ≤ p then String.ofList (ds ++ List.replicate p.toNat '0') ++ ".0"
    else if 0 ≤ e then
      String.ofList (ds.take (e.toNat + 1)) ++ "." ++ String.ofList (ds.drop (e.toNat + 1))
    else "0." ++ String.ofList (List.replicate ((-e).toNat - 1) '0' ++ ds)
  else
    let head := String.ofList (ds.take 1)
    let tail := if ds.length == 1 then "" else "." ++ String.ofList (ds.drop 1)
    let sign := if e < 0 then "-" else "+"
    head ++ tail ++ "e" ++ sign ++ exponentText e.natAbs

/-- The text of any number. -/
def text (x : Binary64) : String :=
  if x.isNaN then "nan"
  else
    let sign := if x.isNegative then "-" else ""
    if x.isInfinite then sign ++ "inf"
    else if x.isZero then sign ++ "0.0"
    else
      let (n, p) := digits x
      sign ++ layout n p

end Scaffold.Number.Shortest
