import Countoff.Text.Numeral
import Mathlib.Data.List.TakeWhile

/-!
# Numerals

The numerals of an integer are digits behind a sign, of which a plus sign may be left out, and the
decimal form is one of them (`numeral_toString`). The numerals of 64-bit integers are all that is
read (`readInt64_eq_ok`). Without that bound `numeral?` reads every numeral and nothing else
(`numeral?_eq_some`), so a text is a numeral of one integer at most.
-/

namespace Countoff.Text

/-- At least one character, all of them digits. -/
def IsDigits (cs : List Char) : Prop :=
  cs ≠ [] ∧ ∀ c ∈ cs, c.isDigit = true

/-- The texts that stand for an integer. Zeros may stand in front of its digits. -/
inductive Numeral (n : Int) (text : String) : Prop where
  | plain (hdigits : IsDigits text.toList) (hvalue : n = Nat.ofDigitChars 10 text.toList 0)
  | plus {digits : List Char} (htext : text.toList = '+' :: digits) (hdigits : IsDigits digits)
    (hvalue : n = Nat.ofDigitChars 10 digits 0)
  | minus {digits : List Char} (htext : text.toList = '-' :: digits) (hdigits : IsDigits digits)
    (hvalue : n = -Nat.ofDigitChars 10 digits 0)

theorem isDigits_repr (n : Nat) : IsDigits n.repr.toList := by
  rw [Nat.toList_repr]
  exact ⟨Nat.toDigits_ne_nil, fun c hc => Nat.isDigit_of_mem_toDigits (by decide) (by decide) hc⟩

theorem ofDigitChars_repr (n : Nat) : Nat.ofDigitChars 10 n.repr.toList 0 = n := by
  rw [Nat.toList_repr, Nat.ofDigitChars_toDigits (by decide) (by decide)]

theorem numeral_toString (n : Int) : Numeral n (toString n) := by
  rw [Int.toString_eq_repr, Int.repr_eq_if]
  split
  · refine .plain (isDigits_repr _) ?_
    rw [ofDigitChars_repr]
    omega
  · refine .minus (by rw [String.toList_append]; rfl) (isDigits_repr (-n).toNat) ?_
    rw [ofDigitChars_repr]
    omega

/-! ## Reading -/

theorem int64Of_eq_ok {m : Int} {n : Int64} : int64Of m = .ok n ↔ m = n.toInt := by
  have hlow := n.minValue_le_toInt
  have hhigh := n.toInt_le
  have hmin : Int64.minValue.toInt = -2 ^ 63 := by decide
  have hmax : Int64.maxValue.toInt = 2 ^ 63 - 1 := by decide
  unfold int64Of
  split
  · simp only [reduceCtorEq, false_iff]
    omega
  split
  · simp only [reduceCtorEq, false_iff]
    omega
  · rw [Except.ok.injEq]
    constructor
    · rintro rfl
      exact (Int64.toInt_ofInt_of_le (by omega) (by omega)).symm
    · rintro rfl
      exact Int64.ofInt_toInt n

theorem readMagnitude_eq_ok {negative : Bool} {cs : List Char} {n : Int64} :
    readMagnitude negative cs = .ok n ↔
      IsDigits cs ∧ n.toInt = if negative then -(Nat.ofDigitChars 10 cs 0 : Int)
        else Nat.ofDigitChars 10 cs 0 := by
  constructor
  · intro h
    simp only [readMagnitude] at h
    split at h
    · cases h
    next hne =>
    split at h
    · cases h
    next value hvalue =>
    split at h
    · next hlength =>
      cases h
      -- no character is left behind the digits
      have hall : cs.takeWhile Char.isDigit = cs :=
        (List.IsPrefix.eq_of_length ( List.takeWhile_prefix _) hlength)
      rw [hall] at hne hvalue
      refine ⟨⟨by simpa using hne, List.takeWhile_eq_self_iff.1 hall⟩, ?_⟩
      exact (int64Of_eq_ok.1 hvalue).symm
    · cases h
  · rintro ⟨⟨hne, hall⟩, hvalue⟩
    have hcs : cs.takeWhile Char.isDigit = cs := List.takeWhile_eq_self_iff.2 hall
    simp only [readMagnitude, hcs]
    rw [int64Of_eq_ok.2 hvalue.symm]
    simp [hne]

theorem IsDigits.sign_ne {c : Char} {cs : List Char} (h : IsDigits (c :: cs)) :
    c ≠ '+' ∧ c ≠ '-' := by
  have hc := h.2 c List.mem_cons_self
  constructor <;> rintro rfl <;> simp at hc

/-- The texts that are read as a 64-bit integer are its numerals. -/
theorem readInt64_eq_ok {text : String} {n : Int64} :
    readInt64 text = .ok n ↔ Numeral n.toInt text := by
  unfold readInt64
  constructor
  · intro h
    split at h
    · cases h
    · next digits htext =>
      obtain ⟨hdigits, hvalue⟩ := readMagnitude_eq_ok.1 h
      exact .plus htext hdigits hvalue
    · next digits htext =>
      obtain ⟨hdigits, hvalue⟩ := readMagnitude_eq_ok.1 h
      exact .minus htext hdigits hvalue
    · obtain ⟨hdigits, hvalue⟩ := readMagnitude_eq_ok.1 h
      exact .plain hdigits hvalue
  · intro h
    cases h with
    | plain hdigits hvalue =>
      split
      · next htext => exact absurd htext hdigits.1
      · next htext => exact absurd rfl (htext ▸ hdigits).sign_ne.1
      · next htext => exact absurd rfl (htext ▸ hdigits).sign_ne.2
      · exact readMagnitude_eq_ok.2 ⟨hdigits, hvalue⟩
    | plus htext hdigits hvalue =>
      rw [htext]
      exact readMagnitude_eq_ok.2 ⟨hdigits, hvalue⟩
    | minus htext hdigits hvalue =>
      rw [htext]
      exact readMagnitude_eq_ok.2 ⟨hdigits, hvalue⟩

/-! ## Reading integers of any size -/

instance : DecidablePred IsDigits := fun cs =>
  decidable_of_iff (cs ≠ [] ∧ cs.all Char.isDigit = true) (by rw [IsDigits, List.all_eq_true])

/-- The integer that digits stand for. -/
def magnitude? (cs : List Char) : Option Int :=
  if IsDigits cs then some (Nat.ofDigitChars 10 cs 0) else none

/-- The integer that a text is a numeral of, however large. -/
def numeral? (text : String) : Option Int :=
  match text.toList with
  | '+' :: digits => magnitude? digits
  | '-' :: digits => (magnitude? digits).map fun n => -n
  | digits => magnitude? digits

theorem magnitude?_eq_some {cs : List Char} {n : Int} :
    magnitude? cs = some n ↔ IsDigits cs ∧ n = Nat.ofDigitChars 10 cs 0 := by
  unfold magnitude?
  by_cases h : IsDigits cs
  · rw [if_pos h, Option.some.injEq, eq_comm, and_iff_right h]
  · simp [h]

/-- The numerals of an integer are the texts that it is read from. -/
theorem numeral?_eq_some {text : String} {n : Int} : numeral? text = some n ↔ Numeral n text := by
  unfold numeral?
  constructor
  · intro h
    split at h
    · next digits htext =>
      obtain ⟨hdigits, hvalue⟩ := magnitude?_eq_some.1 h
      exact .plus htext hdigits hvalue
    · next digits htext =>
      obtain ⟨m, hm, rfl⟩ := Option.map_eq_some_iff.1 h
      obtain ⟨hdigits, rfl⟩ := magnitude?_eq_some.1 hm
      exact .minus htext hdigits rfl
    · obtain ⟨hdigits, hvalue⟩ := magnitude?_eq_some.1 h
      exact .plain hdigits hvalue
  · intro h
    cases h with
    | plain hdigits hvalue =>
      split
      · next htext => exact absurd rfl (htext ▸ hdigits).sign_ne.1
      · next htext => exact absurd rfl (htext ▸ hdigits).sign_ne.2
      · exact magnitude?_eq_some.2 ⟨hdigits, hvalue⟩
    | plus htext hdigits hvalue =>
      rw [htext]
      exact magnitude?_eq_some.2 ⟨hdigits, hvalue⟩
    | minus htext hdigits hvalue =>
      rw [htext]
      exact Option.map_eq_some_iff.2 ⟨_, magnitude?_eq_some.2 ⟨hdigits, rfl⟩, hvalue.symm⟩

end Countoff.Text
