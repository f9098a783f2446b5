/-! Numbers with 53 binary digits, as exact values. A finite number is a significand times a power of
two; the significand has 53 binary digits, or fewer with the least exponent. -/
namespace ConnectorHub.Number

/-- Two to the power `n`. -/
def twoTo (n : Nat) : Nat := Nat.pow 2 n

/-- Ten to the power `n`. -/
def tenTo (n : Nat) : Nat := Nat.pow 10 n

inductive Binary64
  | finite (negative : Bool) (significand : Nat) (exponent : Int)
  | infinite (negative : Bool)
  | nan
  deriving DecidableEq, Repr

namespace Binary64

/-- The least exponent of a significand. -/
def minExponent : Int := -1074

/-- The greatest exponent of a significand. -/
def maxExponent : Int := 971

def zero (negative : Bool) : Binary64 := .finite negative 0 minExponent

/-- The whole number next to `num / den`, the even one of two that are equally near. -/
def nearest (num den : Nat) : Nat :=
  let q := num / den
  let r := num % den
  if 2 * r < den then q
  else if den < 2 * r then q + 1
  else if q % 2 = 0 then q else q + 1

/-- `num / den` divided by `2 ^ e`, as a fraction. -/
def scaleDown (num den : Nat) (e : Int) : Nat × Nat :=
  if 0 ≤ e then (num, den * twoTo e.toNat) else (num * twoTo (-e).toNat, den)

/-- The exponent under which `num / den` has 53 binary digits before the point, not below the
least one. -/
def exponentOf (num den : Nat) : Int :=
  let e : Int := (Nat.log2 num : Int) - Nat.log2 den - 53
  let (n, d) := scaleDown num den e
  max minExponent (if twoTo 53 ≤ n / d then e + 1 else e)

/-- The number nearest to the fraction `num / den`, infinite beyond the greatest finite one. -/
def ofFraction (negative : Bool) (num den : Nat) : Binary64 :=
  if num = 0 then zero negative
  else
    let e := exponentOf num den
    let (n, d) := scaleDown num den e
    let m := nearest n d
    let (m, e) := if m = twoTo 53 then (twoTo 52, e + 1) else (m, e)
    if maxExponent < e then .infinite negative else .finite negative m e

/-- The number nearest to `digits` times `10 ^ exponent`. Exponents far out of range are answered
without computing the power. -/
def ofDecimal (negative : Bool) (digits : Nat) (exponent : Int) : Binary64 :=
  let magnitude : Int := exponent + (toString digits).length
  if digits = 0 then zero negative
  else if 310 < magnitude then .infinite negative
  else if magnitude < -330 then zero negative
  else if 0 ≤ exponent then ofFraction negative (digits * tenTo exponent.toNat) 1
  else ofFraction negative digits (tenTo (-exponent).toNat)

/-- The whole part of a finite number, its fraction cut off. -/
def truncate (negative : Bool) (significand : Nat) (exponent : Int) : Int :=
  let n : Nat := if 0 ≤ exponent then significand * twoTo exponent.toNat
    else significand / twoTo (-exponent).toNat
  if negative then -(n : Int) else n

/-- A finite number has no fraction. -/
def isWhole (significand : Nat) (exponent : Int) : Bool :=
  if 0 ≤ exponent then true else significand % twoTo (-exponent).toNat == 0

example : ofDecimal false 15 (-1) = .finite false (3 * twoTo 51) (-52) := by decide +kernel
example : ofDecimal false 5 (-324) = .finite false 1 (-1074) := by decide +kernel

end Binary64

end ConnectorHub.Number
