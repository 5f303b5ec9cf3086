/-!
# Binary floating-point numbers

The magnitudes of 64-bit binary floating-point numbers, as a whole number times a power of two,
and the one of them that is nearest to a decimal number. All arithmetic is exact: a decimal number
is a quotient of natural numbers, and a tie goes to the even neighbour.
-/

namespace Countoff.Decimal

/-- The magnitude `mantissa * 2 ^ exponent`. -/
structure Binary64 where
  mantissa : Nat
  exponent : Int
  deriving DecidableEq

namespace Binary64

/-- The number of digits after which a mantissa no longer fits. -/
def precision : Nat := 53

def minExponent : Int := -1074

/-- The greatest exponent of a mantissa of full length. -/
def maxExponent : Int := 971

/-- A quotient rounded to the nearest natural number, a tie to the even one. -/
def roundQuotient (num den : Nat) : Nat :=
  let q := num / den
  let r := num % den
  if 2 * r < den then q
  else if den < 2 * r then q + 1
  else if q % 2 = 0 then q
  else q + 1

/-- `num / den` divided by a power of two, as numerator and denominator. -/
def scale (num den : Nat) (exponent : Int) : Nat × Nat :=
  if 0 ≤ exponent then (num, den * Nat.pow 2 exponent.toNat)
  else (num * Nat.pow 2 (-exponent).toNat, den)

/-- The magnitude nearest to a positive quotient, unless it is too great. -/
def ofQuotient? (num den : Nat) : Option Binary64 :=
  let log := (num.log2 : Int) - den.log2
  let (scaled, unit) := scale num den log
  let top := if unit ≤ scaled then log else log - 1
  let exponent := max (top - (precision - 1 : Nat)) minExponent
  let (scaled, unit) := scale num den exponent
  let mantissa := roundQuotient scaled unit
  let rounded : Binary64 :=
    if mantissa = Nat.pow 2 precision then ⟨Nat.pow 2 (precision - 1), exponent + 1⟩
    else ⟨mantissa, exponent⟩
  if maxExponent < rounded.exponent then none else some rounded

/-- The magnitude nearest to `digits * 10 ^ exponent`, unless it is too great. Numbers far outside
the range are not computed. -/
def ofDecimal? (digits : Nat) (exponent : Int) : Option Binary64 :=
  let magnitude := exponent + (Nat.toDigits 10 digits).length
  if digits = 0 ∨ magnitude < -400 then some ⟨0, minExponent⟩
  else if 400 < magnitude then none
  else if 0 ≤ exponent then ofQuotient? (digits * Nat.pow 10 exponent.toNat) 1
  else ofQuotient? digits (Nat.pow 10 (-exponent).toNat)

end Binary64

end Countoff.Decimal
