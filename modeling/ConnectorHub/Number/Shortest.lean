import ConnectorHub.Number.Binary64
import ConnectorHub.Text.Padded

/-! The shortest decimal that reads back as a given number, and its layout as text. -/
namespace ConnectorHub.Number

/-- A decimal number `digits` times `10 ^ exponent`. -/
structure Decimal where
  digits : Nat
  exponent : Int
  deriving DecidableEq, Repr

/-- The reals that round to the number `significand * 2 ^ exponent`, in quarters of its last binary
digit: from `low` to `high` around `value`, the ends included if the significand is even. -/
structure Basin where
  low : Nat
  value : Nat
  high : Nat
  closed : Bool

/-- Below a power of two the neighbours are twice as close. -/
def Basin.of (significand : Nat) (exponent : Int) : Basin where
  low := 4 * significand - (if significand = twoTo 52 ∧ Binary64.minExponent < exponent then 1 else 2)
  value := 4 * significand
  high := 4 * significand + 2
  closed := significand % 2 = 0

/-- The point lies in the basin, both measured in the same unit after scaling by `unit` and
`step`. -/
def Basin.holds (b : Basin) (unit step c : Nat) : Bool :=
  if b.closed then b.low * unit ≤ c * step && c * step ≤ b.high * unit
  else b.low * unit < c * step && c * step < b.high * unit

/-- The point of the grid of multiples of `10 ^ g` that lies in the basin, the nearer one of two. -/
def gridPoint? (b : Basin) (exponent g : Int) : Option Nat :=
  let quarter := exponent - 2
  let unit := twoTo quarter.toNat * tenTo (-g).toNat
  let step := tenTo g.toNat * twoTo (-quarter).toNat
  let v := b.value * unit
  let c := v / step
  match b.holds unit step c, b.holds unit step (c + 1) with
  | true, true => if v - c * step ≤ (c + 1) * step - v then some c else some (c + 1)
  | true, false => some c
  | false, true => some (c + 1)
  | false, false => none

/-- Tries ever finer grids, from multiples of `10 ^ g` on. -/
def firstPoint (b : Basin) (exponent : Int) : Nat → Int → Decimal
  | 0, g => ⟨(gridPoint? b exponent g).getD 0, g⟩
  | fuel + 1, g =>
    match gridPoint? b exponent g with
    | some c => ⟨c, g⟩
    | none => firstPoint b exponent fuel (g - 1)

/-- A grid too coarse for the first digit of the number. -/
def coarse (significand : Nat) (exponent : Int) : Int :=
  ((Nat.log2 significand : Int) + exponent) * 30103 / 100000 + 2

/-- The decimal with the fewest digits that reads back as the number, and of those the nearest. -/
def shortest (significand : Nat) (exponent : Int) : Decimal :=
  firstPoint (.of significand exponent) exponent 22 (coarse significand exponent)

/-- How a decimal is laid out: between `minPoint` and `maxPoint` places before the point it is
written without an exponent; an exponent has at least `exponentDigits` digits. -/
structure DecimalLayout where
  minPoint : Int
  maxPoint : Int
  exponentDigits : Nat

/-- From 0.0001 up to sixteen digits before the point there is no exponent; an exponent has at
least two digits. -/
def plainLayout : DecimalLayout := ⟨-3, 16, 2⟩

/-- A decimal as text; whole numbers keep `.0`. -/
def DecimalLayout.text (layout : DecimalLayout) (d : Decimal) : List Char :=
  let digits := (toString d.digits).toList
  let point : Int := digits.length + d.exponent
  if layout.minPoint ≤ point ∧ point ≤ layout.maxPoint then
    if point ≤ 0 then '0' :: '.' :: List.replicate (-point).toNat '0' ++ digits
    else if (digits.length : Int) ≤ point then
      digits ++ List.replicate (point.toNat - digits.length) '0' ++ ['.', '0']
    else digits.take point.toNat ++ '.' :: digits.drop point.toNat
  else
    let e := point - 1
    digits.take 1 ++ (if digits.length = 1 then [] else '.' :: digits.drop 1) ++
      'e' :: (if e < 0 then '-' else '+') :: Text.padded layout.exponentDigits e.natAbs

/-- The text of a number. -/
def Binary64.text : Binary64 → String
  | .finite negative m e =>
    (if negative then "-" else "") ++
      (if m = 0 then "0.0" else String.ofList (plainLayout.text (shortest m e)))
  | .infinite negative => if negative then "-inf" else "inf"
  | .nan => "nan"

example : (Binary64.ofDecimal false 1 (-1)).text = "0.1" := by decide +kernel
example : (Binary64.ofDecimal false 1 22).text = "1e+22" := by decide +kernel
example : (Binary64.ofDecimal false 5 (-324)).text = "5e-324" := by decide +kernel
example : (Binary64.ofDecimal true 100 0).text = "-100.0" := by decide +kernel

end ConnectorHub.Number
