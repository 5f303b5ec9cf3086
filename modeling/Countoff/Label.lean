/-!
# Labels

Counting off by three and five: every integer is called by a label. A multiple of both numbers is
`FizzBuzz`, a multiple of one of them `Fizz` or `Buzz`, and any other integer is called by its
own decimal numeral. The rule is the same on both sides of zero, since divisibility is.
-/

namespace Countoff

inductive Label where
  | fizzBuzz
  | fizz
  | buzz
  | number (n : Int)
  deriving DecidableEq

namespace Label

/-- The label of an integer: a multiple of fifteen is a multiple of three and of five. Remainders
have the sign of `n`. -/
def of (n : Int) : Label :=
  if n.tmod 15 = 0 then .fizzBuzz
  else if n.tmod 3 = 0 then .fizz
  else if n.tmod 5 = 0 then .buzz
  else .number n

def text : Label → String
  | .fizzBuzz => "FizzBuzz"
  | .fizz => "Fizz"
  | .buzz => "Buzz"
  | .number n => toString n

end Label

/-- The text an integer is called by. -/
def callOut (n : Int) : String :=
  (Label.of n).text

end Countoff
