import Countoff.Listing
import Mathlib.Algebra.Order.Ring.Int

/-!
# What an integer is called

The tests on remainders say no more than divisibility, on both sides of zero: `callOut_eq` states
the rule by divisors alone. What is called out is made of letters and digits, with a minus sign
perhaps (`mem_callOut`), so no format has to escape or to quote it.
-/

namespace Countoff

/-- The rule of the game: a word for each of the divisors three and five, and the numeral of an
integer that has neither. -/
def byDivisors (n : Int) : String :=
  if 3 ∣ n ∧ 5 ∣ n then "FizzBuzz"
  else if 3 ∣ n then "Fizz"
  else if 5 ∣ n then "Buzz"
  else toString n

theorem fifteen_dvd_iff (n : Int) : 15 ∣ n ↔ 3 ∣ n ∧ 5 ∣ n := by
  omega

/-- Integers are called by the rule, whichever sign they have. -/
theorem callOut_eq (n : Int) : callOut n = byDivisors n := by
  unfold callOut Label.of byDivisors
  simp only [← Int.dvd_iff_tmod_eq_zero, fifteen_dvd_iff]
  split_ifs <;> rfl

/-! ## Characters -/

/-- A character of a word or of a numeral. -/
def IsWordChar (c : Char) : Prop :=
  c.isAlphanum = true ∨ c = '-'

instance : DecidablePred IsWordChar := fun c =>
  inferInstanceAs (Decidable (c.isAlphanum = true ∨ c = '-'))

theorem IsWordChar.ne {c d : Char} (h : IsWordChar c) (hd : ¬IsWordChar d) : c ≠ d := by
  rintro rfl
  exact hd h

theorem mem_toString_nat {n : Nat} {c : Char} (h : c ∈ n.repr.toList) : IsWordChar c := by
  rw [Nat.toList_repr] at h
  have hdigit := Nat.isDigit_of_mem_toDigits (by decide) (by decide) h
  left
  rw [Char.isAlphanum, hdigit, Bool.or_true]

theorem mem_toString {n : Int} {c : Char} (h : c ∈ (toString n).toList) : IsWordChar c := by
  rw [Int.toString_eq_repr, Int.repr_eq_if] at h
  split at h
  · exact mem_toString_nat h
  · rw [String.toList_append, List.mem_append] at h
    rcases h with h | h
    · exact .inr (List.mem_singleton.1 h)
    · exact mem_toString_nat h

/-- Words and numerals are made of letters, digits and the minus sign. -/
theorem mem_callOut {n : Int} {c : Char} (h : c ∈ (callOut n).toList) : IsWordChar c := by
  have word {s : String} (hs : s.toList.all Char.isAlphanum = true) (hc : c ∈ s.toList) :
      IsWordChar c := .inl (List.all_eq_true.1 hs c hc)
  rw [callOut_eq] at h
  unfold byDivisors at h
  split_ifs at h
  · exact word (by decide) h
  · exact word (by decide) h
  · exact word (by decide) h
  · exact mem_toString h

end Countoff
