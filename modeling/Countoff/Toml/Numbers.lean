import Countoff.Toml.Strings
import Countoff.Toml.Table

/-!
# Numbers

The texts of integers and floating-point numbers. Underscores may stand between digits, decimal
numbers have no leading zeros, and integers in another base have no sign. An integer is read
whatever its size; one outside 128 bits has no value. Once its digits are grouped by an underscore,
a text counts as a decimal integer whatever else is in it, and has no value if anything else is.
-/

namespace Countoff.Toml

/-- A text without its underscores. Each of them has a digit on either side; `behindDigit` tells
whether one stands in front of the text. -/
def ungroup? (isDigit : Char → Bool) (behindDigit : Bool) : List Char → Option (List Char)
  | [] => some []
  | c :: rest =>
    if c = '_' then
      if behindDigit && rest.head?.any isDigit then ungroup? isDigit false rest else none
    else (ungroup? isDigit (isDigit c) rest).map (c :: ·)

def isHexDigit (c : Char) : Bool :=
  (Text.hexDigit? c).isSome

/-- An integer of 128 bits, with a sign or without. -/
def int128? (n : Int) : Option Int :=
  if -Int.pow 2 127 ≤ n ∧ n < Int.pow 2 128 then some n else none

def baseValue (base : Nat) (digits : List Char) : Nat :=
  digits.foldl (fun n c => n * base + (Text.hexDigit? c).getD 0) 0

/-- The number of digits of the base that a letter stands for. -/
def base? : Char → Option Nat
  | 'x' => some 16
  | 'o' => some 8
  | 'b' => some 2
  | _ => none

/-- Reads an integer in another base than ten. Without digits it has no value. -/
def readBased? : List Char → Option Scalar
  | '0' :: letter :: digits => do
    let base ← base? letter
    if digits.isEmpty then return .integer none
    let digits ← ungroup? isHexDigit false digits
    guard (digits.all fun c => (Text.hexDigit? c).any (· < base))
    return .integer (int128? (baseValue base digits))
  | _ => none

/-- Whether a decimal number has a zero in front of other digits. -/
def hasLeadingZero : List Char → Bool
  | '0' :: _ :: _ => true
  | _ => false

/-- The value of a text if it holds decimal digits and nothing else. -/
def decimalValue? (negative : Bool) (cs : List Char) : Option Int :=
  if cs.all Char.isDigit then
    let n : Int := Nat.ofDigitChars 10 cs 0
    int128? (if negative then -n else n)
  else none

def readInteger? (negative : Bool) (cs : List Char) : Option Scalar :=
  if hasLeadingZero cs then none
  else (ungroup? isHexDigit false cs).map fun digits => .integer (decimalValue? negative digits)

/-- Reads the digits behind a point, if there is one. -/
def readFraction? : List Char → Option (List Char × List Char)
  | '.' :: rest =>
    let digits := rest.takeWhile Char.isDigit
    if digits.isEmpty then none else some (digits, rest.drop digits.length)
  | cs => some ([], cs)

/-- Reads an exponent, if there is one, up to the end of the text. -/
def readExponent? : List Char → Option Int
  | [] => some 0
  | e :: rest => do
    guard (e = 'e' ∨ e = 'E')
    let (negative, digits) :=
      match rest with
      | '-' :: digits => (true, digits)
      | '+' :: digits => (false, digits)
      | digits => (false, digits)
    guard (!digits.isEmpty && digits.all Char.isDigit)
    let n : Int := Nat.ofDigitChars 10 digits 0
    return if negative then -n else n

def readFloat? (negative : Bool) (cs : List Char) : Option FloatLiteral := do
  let text ← ungroup? Char.isDigit false cs
  let whole := text.takeWhile Char.isDigit
  guard !whole.isEmpty
  guard !(cs.head? = some '0' && hasLeadingZero whole)
  let (fraction, rest) ← readFraction? (text.drop whole.length)
  let exponent ← readExponent? rest
  return .finite negative (Nat.ofDigitChars 10 (whole ++ fraction) 0) (exponent - fraction.length)

/-- The marks by which a text is told to be a floating-point number. -/
def isFloatMark (c : Char) : Bool :=
  c = '.' || c = 'e' || c = 'E'

/-- Reads a number in base ten behind its sign. What stands behind its first digits says of which
kind it is; a date or a time is none. -/
def readDecimal? (negative : Bool) (cs : List Char) : Option Scalar :=
  if cs = "inf".toList then some (.float (.infinite negative))
  else if cs = "nan".toList then some (.float .nan)
  else
    match cs.dropWhile Char.isDigit with
    | [] => if cs.isEmpty then none else readInteger? negative cs
    | c :: rest =>
      if c = '-' ∨ c = ':' ∨ ' ' ∈ c :: rest then none
      else if (c :: rest).any isFloatMark then (readFloat? negative cs).map .float
      else if c = '_' then readInteger? negative cs
      else none

def readNumber? : List Char → Option Scalar
  | '+' :: cs => readDecimal? false cs
  | '-' :: cs => readDecimal? true cs
  | cs => readBased? cs <|> readDecimal? false cs

end Countoff.Toml
