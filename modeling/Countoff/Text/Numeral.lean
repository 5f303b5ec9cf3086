/-!
# Reading 64-bit integers

A numeral is an optional sign and at least one decimal digit, and nothing else: no blanks, no
separators. `readInt64` says of every other text why it was refused, and of a numeral outside the
64-bit range on which side it lies.
-/

namespace Countoff

/-- Why a text is not the numeral of a 64-bit integer. -/
inductive NumeralProblem where
  | empty
  | invalidDigit
  | tooLarge
  | tooSmall
  deriving DecidableEq

namespace NumeralProblem

def text : NumeralProblem → String
  | .empty => "cannot parse integer from empty string"
  | .invalidDigit => "invalid digit found in string"
  | .tooLarge => "number too large to fit in target type"
  | .tooSmall => "number too small to fit in target type"

end NumeralProblem

namespace Text

/-- The 64-bit integer with the value `n`, or the side on which `n` lies outside. -/
def int64Of (n : Int) : Except NumeralProblem Int64 :=
  if n < Int64.minValue.toInt then .error .tooSmall
  else if Int64.maxValue.toInt < n then .error .tooLarge
  else .ok (Int64.ofInt n)

/-- Reads what follows the sign, from the left: the first character at which the text stops being
the numeral of a 64-bit integer decides, so digits that leave the range are reported before a
foreign character behind them. -/
def readMagnitude (negative : Bool) (cs : List Char) : Except NumeralProblem Int64 :=
  let digits := cs.takeWhile Char.isDigit
  if digits.isEmpty then .error .invalidDigit
  else
    let n := Nat.ofDigitChars 10 digits 0
    match int64Of (if negative then -(n : Int) else n) with
    | .error problem => .error problem
    | .ok value => if digits.length = cs.length then .ok value else .error .invalidDigit

def readInt64 (s : String) : Except NumeralProblem Int64 :=
  match s.toList with
  | [] => .error .empty
  | '+' :: digits => readMagnitude false digits
  | '-' :: digits => readMagnitude true digits
  | digits => readMagnitude false digits

end Text

end Countoff
