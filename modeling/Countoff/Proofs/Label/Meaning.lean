import Countoff.Proofs.Label
import Countoff.Proofs.Text.Numeral

/-!
# What a label tells of its integer

A label is put together: a word for each of the divisors three and five that an integer has, one
behind the other, and its numeral if there is no word (`callOut_of_words`, `callOut_of_plain`). No
word is a numeral, so the two kinds are told apart by reading them (`numeral?_callOut`). A numeral
tells its integer, and words tell which of the divisors it has; nothing else is lost
(`callOut_eq_iff`).
-/

namespace Countoff

open Text (numeral? readInt64)

/-- The words that an integer calls for, one behind the other. -/
def words (n : Int) : String :=
  (if 3 ∣ n then "Fizz" else "") ++ (if 5 ∣ n then "Buzz" else "")

theorem words_mem {n : Int} (h : 3 ∣ n ∨ 5 ∣ n) : words n ∈ ["FizzBuzz", "Fizz", "Buzz"] := by
  unfold words
  by_cases h3 : 3 ∣ n
  · by_cases h5 : 5 ∣ n
    · rw [if_pos h3, if_pos h5]
      decide
    · rw [if_pos h3, if_neg h5]
      decide
  · have h5 : 5 ∣ n := h.resolve_left h3
    rw [if_neg h3, if_pos h5]
    decide

theorem words_ne_empty {n : Int} (h : 3 ∣ n ∨ 5 ∣ n) : words n ≠ "" := by
  intro hempty
  have hmem := words_mem h
  rw [hempty] at hmem
  exact absurd hmem (by decide)

theorem words_of_plain {n : Int} (h : ¬(3 ∣ n ∨ 5 ∣ n)) : words n = "" := by
  rw [not_or] at h
  rw [words, if_neg h.1, if_neg h.2]
  rfl

/-- Words tell which of the divisors an integer has. -/
theorem words_inj {a b : Int} : words a = words b ↔ (3 ∣ a ↔ 3 ∣ b) ∧ (5 ∣ a ↔ 5 ∣ b) := by
  have htell : ∀ three five three' five' : Bool,
      (if three then "Fizz" else "") ++ (if five then "Buzz" else "") =
        (if three' then "Fizz" else "") ++ (if five' then "Buzz" else "") ↔
      three = three' ∧ five = five' := by decide
  have h := htell (decide (3 ∣ a)) (decide (5 ∣ a)) (decide (3 ∣ b)) (decide (5 ∣ b))
  simp only [decide_eq_true_eq, decide_eq_decide] at h
  exact h

theorem callOut_of_words {n : Int} (h : 3 ∣ n ∨ 5 ∣ n) : callOut n = words n := by
  rw [callOut_eq]
  unfold byDivisors words
  by_cases h3 : 3 ∣ n
  · by_cases h5 : 5 ∣ n
    · rw [if_pos ⟨h3, h5⟩, if_pos h3, if_pos h5]
      rfl
    · rw [if_neg fun hboth => h5 hboth.2, if_pos h3, if_pos h3, if_neg h5]
      rfl
  · have h5 : 5 ∣ n := h.resolve_left h3
    rw [if_neg fun hboth => h3 hboth.1, if_neg h3, if_pos h5, if_neg h3, if_pos h5]
    rfl

theorem callOut_of_plain {n : Int} (h : ¬(3 ∣ n ∨ 5 ∣ n)) : callOut n = toString n := by
  rw [not_or] at h
  rw [callOut_eq, byDivisors, if_neg fun hboth => h.1 hboth.1, if_neg h.1, if_neg h.2]

/-! ## Reading labels -/

/-- Reading a label is reading a numeral, for whoever refuses the words. -/
theorem read_callOut {α : Type} {read : String → α} {refused value : α} {n : Int}
    (hwords : ∀ word ∈ ["FizzBuzz", "Fizz", "Buzz"], read word = refused)
    (hnumeral : read (toString n) = value) :
    read (callOut n) = if 3 ∣ n ∨ 5 ∣ n then refused else value := by
  by_cases h : 3 ∣ n ∨ 5 ∣ n
  · rw [if_pos h, callOut_of_words h]
    exact hwords _ (words_mem h)
  · rw [if_neg h, callOut_of_plain h]
    exact hnumeral

theorem numeral?_callOut (n : Int) :
    numeral? (callOut n) = if 3 ∣ n ∨ 5 ∣ n then none else some n := by
  apply read_callOut
  · decide
  · exact Text.numeral?_eq_some.2 (Text.numeral_toString n)

/-- In 64 bits, words are refused for their letters. -/
theorem readInt64_callOut (n : Int64) :
    readInt64 (callOut n.toInt) =
      if 3 ∣ n.toInt ∨ 5 ∣ n.toInt then .error .invalidDigit else .ok n := by
  apply read_callOut
  · decide
  · exact Text.readInt64_eq_ok.2 (Text.numeral_toString n.toInt)

/-- Two integers are called alike if they are the same, or if both are called by words and have the
same divisors. -/
theorem callOut_eq_iff {a b : Int} :
    callOut a = callOut b ↔
      a = b ∨ (3 ∣ a ∨ 5 ∣ a) ∧ (3 ∣ b ∨ 5 ∣ b) ∧ (3 ∣ a ↔ 3 ∣ b) ∧ (5 ∣ a ↔ 5 ∣ b) := by
  constructor
  · intro h
    have hread : numeral? (callOut a) = numeral? (callOut b) := congrArg numeral? h
    rw [numeral?_callOut, numeral?_callOut] at hread
    by_cases ha : 3 ∣ a ∨ 5 ∣ a
    · by_cases hb : 3 ∣ b ∨ 5 ∣ b
      · rw [callOut_of_words ha, callOut_of_words hb] at h
        exact .inr ⟨ha, hb, words_inj.1 h⟩
      · rw [if_pos ha, if_neg hb] at hread
        cases hread
    · by_cases hb : 3 ∣ b ∨ 5 ∣ b
      · rw [if_neg ha, if_pos hb] at hread
        cases hread
      · rw [if_neg ha, if_neg hb] at hread
        exact .inl (Option.some.inj hread)
  · rintro (rfl | ⟨ha, hb, hdivisors⟩)
    · rfl
    · rw [callOut_of_words ha, callOut_of_words hb]
      exact words_inj.2 hdivisors

/-- **A label loses nothing that it need not lose.** It is made of the words for the divisors of its
integer, or is its numeral where there are none. Read as a 64-bit integer, it is refused if it is made
of words, and is its own integer otherwise. So it tells which integer it stands for, or, where the game
asks for words, which of the two divisors that has. -/
theorem callOut_composed (n : Int64) :
    callOut n.toInt = (if words n.toInt = "" then toString n.toInt else words n.toInt) ∧
      readInt64 (callOut n.toInt) =
        (if 3 ∣ n.toInt ∨ 5 ∣ n.toInt then .error .invalidDigit else .ok n) ∧
      ∀ other : Int64, callOut n.toInt = callOut other.toInt ↔
        n = other ∨ (3 ∣ n.toInt ∨ 5 ∣ n.toInt) ∧ (3 ∣ other.toInt ∨ 5 ∣ other.toInt) ∧
          (3 ∣ n.toInt ↔ 3 ∣ other.toInt) ∧ (5 ∣ n.toInt ↔ 5 ∣ other.toInt) := by
  refine ⟨?_, readInt64_callOut n, fun other => ?_⟩
  · by_cases h : 3 ∣ n.toInt ∨ 5 ∣ n.toInt
    · rw [if_neg (words_ne_empty h), callOut_of_words h]
    · rw [if_pos (words_of_plain h), callOut_of_plain h]
  · rw [callOut_eq_iff, Int64.toInt_inj]

end Countoff
