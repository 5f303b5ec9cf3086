import Countoff.Decimal.Binary64

/-!
# Shortest decimal text

The decimal number with the fewest digits that rounds to a given magnitude, and of those the
nearest. The numbers that round to a magnitude form an interval around it; for each count of
digits the two decimal numbers next to the magnitude are tried, and the first count with one of
them in the interval wins. The text is positional whatever the size, with a fraction always.
-/

namespace Countoff.Decimal

/-- The number `digits * 10 ^ exponent`. -/
structure Scientific where
  digits : Nat
  exponent : Int
  deriving DecidableEq

/-- `num / den` compared with the magnitude, both over one denominator: `x` and `unit` with
`num / den = x / unit` and `mantissa * 2 ^ exponent = y / unit`. -/
def overCommon (n : Scientific) (b : Binary64) : Nat × Nat × Nat :=
  let x := if 0 ≤ n.exponent then n.digits * Nat.pow 10 n.exponent.toNat else n.digits
  let unitX := if 0 ≤ n.exponent then 1 else Nat.pow 10 (-n.exponent).toNat
  let y := if 0 ≤ b.exponent then b.mantissa * Nat.pow 2 b.exponent.toNat else b.mantissa
  let unitY := if 0 ≤ b.exponent then 1 else Nat.pow 2 (-b.exponent).toNat
  (x * unitY, y * unitX, unitX * unitY)

/-- The distance between a decimal number and a magnitude, as numerator and denominator. -/
def distance (n : Scientific) (b : Binary64) : Nat × Nat :=
  let (x, y, unit) := overCommon n b
  (if x ≤ y then y - x else x - y, unit)

/-- Whether a decimal number rounds to a magnitude. Below a power of two the magnitudes lie twice
as close, and a number at the very edge of the interval rounds to the even mantissa. -/
def roundsTo (n : Scientific) (b : Binary64) : Bool :=
  let (x, y, unit) := overCommon n b
  let step :=
    if 0 ≤ b.exponent then unit * Nat.pow 2 b.exponent.toNat
    else unit / Nat.pow 2 (-b.exponent).toNat
  let edge := b.mantissa = Nat.pow 2 (Binary64.precision - 1) ∧ Binary64.minExponent < b.exponent
  let even := b.mantissa % 2 = 0
  if y ≤ x then
    if even then 2 * (x - y) ≤ step else 2 * (x - y) < step
  else
    let width := if edge then 4 else 2
    if even then width * (y - x) ≤ step else width * (y - x) < step

/-- The exponent of the leading decimal digit of a positive magnitude. -/
def leading (b : Binary64) : Int :=
  if 0 ≤ b.exponent then (Nat.toDigits 10 (b.mantissa * Nat.pow 2 b.exponent.toNat)).length - 1
  else
    let unit := Nat.pow 2 (-b.exponent).toNat
    let whole := b.mantissa / unit
    if 0 < whole then (Nat.toDigits 10 whole).length - 1
    else
      -- the first power of ten by which the fraction reaches a whole
      let shift := (Nat.toDigits 10 (unit / b.mantissa)).length
      if unit ≤ b.mantissa * Nat.pow 10 (shift - 1) then -(shift - 1 : Nat) else -(shift : Nat)

/-- The two decimal numbers with `count` digits next to a magnitude, the smaller one first. -/
def neighbours (b : Binary64) (count : Nat) : Scientific × Scientific :=
  let exponent := leading b - count + 1
  let (num, den) :=
    if 0 ≤ b.exponent then (b.mantissa * Nat.pow 2 b.exponent.toNat, 1)
    else (b.mantissa, Nat.pow 2 (-b.exponent).toNat)
  let low :=
    if 0 ≤ exponent then num / (den * Nat.pow 10 exponent.toNat)
    else num * Nat.pow 10 (-exponent).toNat / den
  (⟨low, exponent⟩, ⟨low + 1, exponent⟩)

/-- The decimal number with `count` digits that rounds to a magnitude, if there is one. Of two the
nearer is taken, and the greater one in a tie. -/
def withDigits? (b : Binary64) (count : Nat) : Option Scientific :=
  let (low, high) := neighbours b count
  let below := distance low b
  let above := distance high b
  match roundsTo low b, roundsTo high b with
  | true, true => if below.1 * above.2 < above.1 * below.2 then some low else some high
  | true, false => some low
  | false, true => some high
  | false, false => none

/-- The shortest decimal number that rounds to a positive magnitude. Seventeen digits always do. -/
def shortest (b : Binary64) : Scientific :=
  (((List.range 17).map (· + 1)).findSome? (withDigits? b)).getD (neighbours b 17).1

/-- A decimal number in positional notation, with at least one digit on each side of the point and
no zero at the end that could be left out. -/
def Scientific.positional (n : Scientific) : List Char :=
  let digits := Nat.toDigits 10 n.digits
  let digits := if 0 ≤ n.exponent then digits ++ List.replicate n.exponent.toNat '0' else digits
  let places := (-n.exponent).toNat
  let digits := List.replicate (places + 1 - digits.length) '0' ++ digits
  let whole := digits.take (digits.length - places)
  let fraction := ((digits.drop (digits.length - places)).reverse.dropWhile (· = '0')).reverse
  whole ++ '.' :: if fraction.isEmpty then ['0'] else fraction

def Binary64.text (b : Binary64) : String :=
  if b.mantissa = 0 then "0.0" else String.ofList (shortest b).positional

end Countoff.Decimal
