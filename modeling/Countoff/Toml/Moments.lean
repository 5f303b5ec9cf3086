/-!
# Dates and times

The texts of dates, times of day and both together. A date has a year of four digits and has to
exist in the calendar; a time may leave out its seconds, and only seconds have a fraction; a date
with a time may have an offset from universal time. A leap second may be written on any minute.
-/

namespace Countoff.Toml.Moment

def two? (a b : Char) : Option Nat :=
  if a.isDigit ∧ b.isDigit then some (Nat.ofDigitChars 10 [a, b] 0) else none

def daysIn (year month : Nat) : Nat :=
  if month = 2 then
    if year % 4 = 0 ∧ (year % 100 ≠ 0 ∨ year % 400 = 0) then 29 else 28
  else if month = 4 ∨ month = 6 ∨ month = 9 ∨ month = 11 then 30
  else 31

def readDate : List Char → Option (List Char)
  | y₁ :: y₂ :: y₃ :: y₄ :: '-' :: m₁ :: m₂ :: '-' :: d₁ :: d₂ :: rest => do
    let century ← two? y₁ y₂
    let year ← two? y₃ y₄
    let month ← two? m₁ m₂
    let day ← two? d₁ d₂
    if 1 ≤ month ∧ month ≤ 12 ∧ 1 ≤ day ∧ day ≤ daysIn (century * 100 + year) month then some rest
    else none
  | _ => none

/-- Reads the fraction of a second, if there is one. -/
def readFraction : List Char → Option (List Char)
  | '.' :: rest =>
    let digits := rest.takeWhile Char.isDigit
    if digits.isEmpty then none else some (rest.drop digits.length)
  | cs => some cs

/-- Reads the seconds of a time, if there are any. -/
def readSeconds : List Char → Option (List Char)
  | ':' :: s₁ :: s₂ :: rest => do
    if (← two? s₁ s₂) ≤ 60 then readFraction rest else none
  | cs => some cs

def readMinutes : List Char → Option (List Char)
  | h₁ :: h₂ :: ':' :: m₁ :: m₂ :: rest => do
    if (← two? h₁ h₂) ≤ 23 ∧ (← two? m₁ m₂) ≤ 59 then some rest else none
  | _ => none

def readTime (cs : List Char) : Option (List Char) := do
  readSeconds (← readMinutes cs)

/-- Whether a text is an offset from universal time, or empty. -/
def isOffset : List Char → Bool
  | [] => true
  | ['Z'] | ['z'] => true
  | sign :: rest => (sign = '+' || sign = '-') && readMinutes rest = some []

def isMoment (cs : List Char) : Bool :=
  match readDate cs with
  | some [] => true
  | some (mark :: rest) =>
    (mark = 'T' || mark = 't' || mark = ' ') && (readTime rest).any isOffset
  | none => readTime cs = some []

end Countoff.Toml.Moment
