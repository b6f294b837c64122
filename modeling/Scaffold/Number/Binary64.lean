/-!
# Binary floating-point numbers of 64 bits

A number is kept as its bits. `ofRatio` rounds a quotient of natural numbers to the nearest
number, ties to the even one; `decompose` is its inverse on finite numbers.
-/

namespace Scaffold.Number

structure Binary64 where
  bits : UInt64
deriving Repr, DecidableEq, Inhabited

namespace Binary64

def isNegative (x : Binary64) : Bool :=
  x.bits.toNat / Nat.pow 2 63 == 1

/-- The eleven bits of the exponent. -/
def exponentField (x : Binary64) : Nat :=
  x.bits.toNat / Nat.pow 2 52 % 2048

/-- The fifty-two bits of the fraction. -/
def fractionField (x : Binary64) : Nat :=
  x.bits.toNat % Nat.pow 2 52

def isNaN (x : Binary64) : Bool :=
  x.exponentField == 2047 && x.fractionField != 0

def isInfinite (x : Binary64) : Bool :=
  x.exponentField == 2047 && x.fractionField == 0

/-- The magnitude of a finite number is `m * 2 ^ q`. -/
def decompose (x : Binary64) : Nat × Int :=
  if x.exponentField == 0 then (x.fractionField, -1074)
  else (x.fractionField + Nat.pow 2 52, (x.exponentField : Int) - 1075)

def isZero (x : Binary64) : Bool :=
  x.bits.toNat % Nat.pow 2 63 == 0

def ofFields (negative : Bool) (exponent fraction : Nat) : Binary64 :=
  ⟨((if negative then Nat.pow 2 63 else 0) + exponent * Nat.pow 2 52 + fraction).toUInt64⟩

def infinity (negative : Bool) : Binary64 :=
  ofFields negative 2047 0

def nan : Binary64 :=
  ofFields false 2047 (Nat.pow 2 51)

def zero (negative : Bool) : Binary64 :=
  ofFields negative 0 0

/-- The quotient, rounded to the nearest natural number, a tie to the even one. -/
def roundDiv (num den : Nat) : Nat :=
  let q := num / den
  let r := num % den
  if 2 * r > den || (2 * r == den && q % 2 == 1) then q + 1 else q

/-- The number nearest to `num / den`. -/
def ofRatio (negative : Bool) (num den : Nat) : Binary64 :=
  if num == 0 || den == 0 then zero negative
  else
    -- the binary exponent of the quotient, at most one too large
    let e : Int := (num.log2 : Int) - (den.log2 : Int)
    let fits (e : Int) : Bool :=
      if 0 ≤ e then den * Nat.pow 2 e.toNat ≤ num else den ≤ num * Nat.pow 2 (-e).toNat
    let e := if fits e then e else e - 1
    let q := max (e - 52) (-1074)
    let m :=
      if 0 ≤ q then roundDiv num (den * Nat.pow 2 q.toNat)
      else roundDiv (num * Nat.pow 2 (-q).toNat) den
    let (m, q) := if m == Nat.pow 2 53 then (Nat.pow 2 52, q + 1) else (m, q)
    if m < Nat.pow 2 52 then ofFields negative 0 m
    else if q > 971 then infinity negative
    else ofFields negative (q + 1075).toNat (m - Nat.pow 2 52)

/-- The number nearest to `digits * 10 ^ exponent`. -/
def ofDecimal (negative : Bool) (digits : Nat) (exponent : Int) : Binary64 :=
  if digits == 0 then zero negative
  else if exponent > 400 then infinity negative
  else if exponent < -(400 + (digits.log2 : Int)) then zero negative
  else if 0 ≤ exponent then ofRatio negative (digits * Nat.pow 10 exponent.toNat) 1
  else ofRatio negative digits (Nat.pow 10 (-exponent).toNat)

def neg (x : Binary64) : Binary64 :=
  ⟨if x.isNegative then x.bits - 0x8000000000000000 else x.bits + 0x8000000000000000⟩

def add (x y : Binary64) : Binary64 :=
  ⟨(Float.ofBits x.bits + Float.ofBits y.bits).toBits⟩

def mul (x y : Binary64) : Binary64 :=
  ⟨(Float.ofBits x.bits * Float.ofBits y.bits).toBits⟩

/-- Finite numbers compare by value. -/
def finite (x : Binary64) : Bool :=
  x.exponentField != 2047

/-- The value of a number times the common denominator of all finite numbers. -/
def scaled (x : Binary64) : Int :=
  let (m, q) := x.decompose
  let n : Int := m * Nat.pow 2 (q + 1074).toNat
  if x.isNegative then -n else n

/-- The scale of `scaled`. -/
def scale : Int :=
  Nat.pow 2 1074

end Binary64

end Scaffold.Number
