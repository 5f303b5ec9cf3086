import Countoff.Proofs.Interval
import Countoff.Proofs.Label.Meaning
import Mathlib.Data.Int.CardIntervalMod

/-!
# The census of a listing

How many entries have each of the words, and how many a numeral, is settled by how many integers the
divisors three, five and fifteen have: every integer of a listing adds to one of the four counts and to
the multiples that it belongs to (`census_cons`), so the counts are in balance with the multiples
(`balanced_ofNumbers`). In an interval the multiples need not be counted, floor division tells how many
there are (`countP_numbers`), and so it tells the census (`listing_census`).
-/

namespace Countoff

open Text (numeral?)

/-- How often each kind of label occurs. -/
structure Census where
  fizzBuzz : Nat
  fizz : Nat
  buzz : Nat
  numerals : Nat
  deriving DecidableEq

/-- The labels of a listing counted by kind. -/
def Listing.census (listing : Listing) : Census where
  fizzBuzz := listing.labels.count "FizzBuzz"
  fizz := listing.labels.count "Fizz"
  buzz := listing.labels.count "Buzz"
  numerals := listing.labels.countP fun label => (numeral? label).isSome

/-! ## Which integers have which label -/

theorem callOut_eq_fizzBuzz {n : Int} : callOut n = "FizzBuzz" ↔ 3 ∣ n ∧ 5 ∣ n := by
  have hword : callOut 15 = "FizzBuzz" := by decide
  rw [← hword, callOut_eq_iff]
  omega

theorem callOut_eq_fizz {n : Int} : callOut n = "Fizz" ↔ 3 ∣ n ∧ ¬5 ∣ n := by
  have hword : callOut 3 = "Fizz" := by decide
  rw [← hword, callOut_eq_iff]
  omega

theorem callOut_eq_buzz {n : Int} : callOut n = "Buzz" ↔ ¬3 ∣ n ∧ 5 ∣ n := by
  have hword : callOut 5 = "Buzz" := by decide
  rw [← hword, callOut_eq_iff]
  omega

theorem isSome_numeral?_callOut {n : Int} :
    (numeral? (callOut n)).isSome = true ↔ ¬3 ∣ n ∧ ¬5 ∣ n := by
  rw [numeral?_callOut, ← not_or]
  by_cases h : 3 ∣ n ∨ 5 ∣ n
  · simp [h]
  · simp [h]

namespace Listing

/-- One more integer adds to the count of its label. -/
theorem census_cons (n : Int) (numbers : List Int) :
    (ofNumbers (n :: numbers)).census =
      { fizzBuzz := (ofNumbers numbers).census.fizzBuzz + if 3 ∣ n ∧ 5 ∣ n then 1 else 0
        fizz := (ofNumbers numbers).census.fizz + if 3 ∣ n ∧ ¬5 ∣ n then 1 else 0
        buzz := (ofNumbers numbers).census.buzz + if ¬3 ∣ n ∧ 5 ∣ n then 1 else 0
        numerals := (ofNumbers numbers).census.numerals + if ¬3 ∣ n ∧ ¬5 ∣ n then 1 else 0 } := by
  have hlabels : (ofNumbers (n :: numbers)).labels = callOut n :: (ofNumbers numbers).labels := rfl
  simp only [census, hlabels, List.count_cons, List.countP_cons, beq_iff_eq, callOut_eq_fizzBuzz,
    callOut_eq_fizz, callOut_eq_buzz, isSome_numeral?_callOut]

/-- The census of integers that have so many multiples of three, five and fifteen among them. -/
structure Balanced (census : Census) (numbers : List Int) : Prop where
  fifteens : census.fizzBuzz = numbers.countP (15 ∣ ·)
  threes : census.fizz + census.fizzBuzz = numbers.countP (3 ∣ ·)
  fives : census.buzz + census.fizzBuzz = numbers.countP (5 ∣ ·)
  /-- Multiples of fifteen are among those of three and among those of five. -/
  all : census.numerals + numbers.countP (3 ∣ ·) + numbers.countP (5 ∣ ·) =
    numbers.length + numbers.countP (15 ∣ ·)

/-- One more integer keeps the balance. -/
theorem Balanced.cons {numbers : List Int} (h : Balanced (ofNumbers numbers).census numbers)
    (n : Int) : Balanced (ofNumbers (n :: numbers)).census (n :: numbers) := by
  obtain ⟨hfifteens, hthrees, hfives, hall⟩ := h
  rw [census_cons]
  -- the integer has both divisors, one of them or none, and the counts it adds to follow from that
  constructor
  · simp only [List.countP_cons, decide_eq_true_eq]
    split_ifs <;> omega
  · simp only [List.countP_cons, decide_eq_true_eq]
    split_ifs <;> omega
  · simp only [List.countP_cons, decide_eq_true_eq]
    split_ifs <;> omega
  · simp only [List.countP_cons, List.length_cons, decide_eq_true_eq]
    split_ifs <;> omega

/-- The census of any integers is in balance. -/
theorem balanced_ofNumbers (numbers : List Int) :
    Balanced (ofNumbers numbers).census numbers := by
  induction numbers with
  | nil => exact ⟨rfl, rfl, rfl, rfl⟩
  | cons n numbers ih => exact ih.cons n

end Listing

/-! ## Intervals -/

namespace Interval

/-- How many multiples of `k` an interval has, by floor division. -/
def multiples (i : Interval) (k : Int) : Int :=
  (i.stop - 1).fdiv k - (i.start - 1).fdiv k

/-- Counting the integers of an interval is finding the size of a set. -/
theorem countP_eq_card (i : Interval) (p : Int → Prop) [DecidablePred p] :
    i.numbers.countP (fun n => p n) = ((Finset.Ico i.start i.stop).filter p).card := by
  rw [i.numbers_eq_sort, ← Multiset.coe_countP, Finset.sort_eq, Multiset.countP_eq_card_filter]
  rfl

/-- Up to an integer there is one multiple for every time that the divisor fits, below zero as well. -/
theorem countP_numbers (i : Interval) {k : Nat} (hk : 0 < k) :
    (i.numbers.countP (fun n => (k : Int) ∣ n) : Int) = i.multiples k := by
  have hpos : (0 : Int) < k := Int.natCast_pos.2 hk
  have hico : Finset.Ico i.start i.stop = Finset.Ioc (i.start - 1) (i.stop - 1) := by
    ext n
    rw [Finset.mem_Ico, Finset.mem_Ioc]
    omega
  have hfloors : (i.start - 1) / (k : Int) ≤ (i.stop - 1) / (k : Int) := by
    apply Int.ediv_le_ediv hpos
    have hordered := i.start_le_stop
    omega
  rw [countP_eq_card, hico, Int.Ioc_filter_dvd_card _ _ hpos, Int.cast_natCast,
    Rat.floor_intCast_div_natCast, Rat.floor_intCast_div_natCast, multiples,
    Int.fdiv_eq_ediv_of_nonneg _ hpos.le, Int.fdiv_eq_ediv_of_nonneg _ hpos.le]
  omega

/-- **The census of an interval.** Wherever an interval lies, and however long it is, floor division
of its bounds by three, five and fifteen tells how many of its integers are called by each word, and
how many by a numeral. -/
theorem listing_census (i : Interval) :
    ((Listing.ofNumbers i.numbers).census.fizzBuzz : Int) = i.multiples 15 ∧
      ((Listing.ofNumbers i.numbers).census.fizz : Int) = i.multiples 3 - i.multiples 15 ∧
      ((Listing.ofNumbers i.numbers).census.buzz : Int) = i.multiples 5 - i.multiples 15 ∧
      ((Listing.ofNumbers i.numbers).census.numerals : Int) =
        i.length - i.multiples 3 - i.multiples 5 + i.multiples 15 := by
  obtain ⟨hfifteens, hthrees, hfives, hall⟩ := Listing.balanced_ofNumbers i.numbers
  have hthree := i.countP_numbers (k := 3) (by decide)
  have hfive := i.countP_numbers (k := 5) (by decide)
  have hfifteen := i.countP_numbers (k := 15) (by decide)
  have hlength := i.length_numbers
  simp only [Nat.cast_ofNat] at hthree hfive hfifteen
  refine ⟨?_, ?_, ?_, ?_⟩
  · omega
  · omega
  · omega
  · omega

/-- From fifteen below zero to fifteen above it. -/
example : (Listing.ofNumbers ((List.range 31).map fun (k : Nat) => (k : Int) - 15)).census =
    ⟨3, 8, 4, 16⟩ := by
  decide +kernel

end Interval

end Countoff
