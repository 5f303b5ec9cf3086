import Countoff.Proofs.Interval

/-!
# Intervals out of machine words

The bounds of an interval are given as 64-bit integers. How far they lie apart is found in 128 bits
and kept in 64, and the end of a closed interval is moved up within 64 bits, if that can be done.
Wherever one of these steps is taken it loses nothing (`Lossless`), so machine words make the same
intervals as unbounded integers and find the same faults. Both notations accept exactly the bounds
that mean at most ten million integers, and name the first cause that applies where they do not
(`notations_exact`).
-/

namespace Countoff.Interval

/-! ## Steps in machine words -/

/-- How far it is from one 64-bit integer to another, in 128 bits. -/
def difference (start stop : Int64) : BitVec 128 :=
  stop.toBitVec.signExtend 128 - start.toBitVec.signExtend 128

/-- How far it is from one 64-bit integer to another, kept in 64 bits without a sign. -/
def distance (start stop : Int64) : BitVec 64 :=
  (difference start stop).setWidth 64

/-- One more than a 64-bit integer, if that is one too. -/
def succ? (n : Int64) : Option Int64 :=
  if n = Int64.maxValue then none else some (n + 1)

theorem toInt_difference (start stop : Int64) :
    (difference start stop).toInt = stop.toInt - start.toInt := by
  have hstart := start.minValue_le_toInt
  have hstart' := start.toInt_le
  have hstop := stop.minValue_le_toInt
  have hstop' := stop.toInt_le
  rw [Int64.toInt_minValue] at hstart hstop
  rw [Int64.toInt_maxValue] at hstart' hstop'
  rw [difference, BitVec.toInt_sub, BitVec.toInt_signExtend_of_le (by decide),
    BitVec.toInt_signExtend_of_le (by decide), Int64.toInt_toBitVec, Int64.toInt_toBitVec]
  refine Int.bmod_eq_of_le ?_ ?_
  · omega
  · omega

/-- Between bounds in the right order there are fewer than two to the power of 64 steps, so none of
them is lost. -/
theorem toNat_distance {start stop : Int64} (h : start.toInt ≤ stop.toInt) :
    (distance start stop).toNat = (stop.toInt - start.toInt).toNat := by
  have hstart := start.minValue_le_toInt
  have hstop := stop.toInt_le
  rw [Int64.toInt_minValue] at hstart
  rw [Int64.toInt_maxValue] at hstop
  have hdifference : ((difference start stop).toNat : Int) = stop.toInt - start.toInt := by
    rw [← toInt_difference, BitVec.toInt_eq_toNat_of_msb]
    rw [BitVec.msb_eq_toInt, toInt_difference, decide_eq_false_iff_not]
    omega
  rw [distance, BitVec.toNat_setWidth, Nat.mod_eq_of_lt (by omega)]
  omega

theorem succ?_eq_none {n : Int64} : succ? n = none ↔ n = Int64.maxValue := by
  unfold succ?
  split
  · simp [*]
  · simp [*]

theorem ne_maxValue_iff {n : Int64} :
    n ≠ Int64.maxValue ↔ n.toInt < Int64.maxValue.toInt := by
  have hn := n.toInt_le
  rw [Ne, ← Int64.toInt_inj]
  omega

theorem toInt_of_succ? {n next : Int64} (h : succ? n = some next) :
    next.toInt = n.toInt + 1 := by
  unfold succ? at h
  split at h
  · cases h
  · next hmax =>
    cases h
    have hn := n.minValue_le_toInt
    have hlt := ne_maxValue_iff.1 hmax
    rw [Int64.toInt_minValue] at hn
    rw [Int64.toInt_maxValue] at hlt
    rw [Int64.toInt_add, Int64.toInt_one]
    exact Int.bmod_eq_of_le (by omega) (by omega)

theorem toInt_add_one {n : Int64} (h : n ≠ Int64.maxValue) : (n + 1).toInt = n.toInt + 1 :=
  toInt_of_succ? (if_neg h)

/-! ## Construction in machine words -/

/-- The bounds of an interval as 64-bit integers. -/
structure Words where
  start : Int64
  stop : Int64

namespace Words

def bounds (words : Words) : Int × Int :=
  (words.start.toInt, words.stop.toInt)

/-- Bounds in the right order, unless they are too far apart. -/
def between (start stop : Int64) : Except Fault Words := do
  Check.length "range" (distance start stop).toNat maxLength
  return ⟨start, stop⟩

/-- The integers from `start` up to, and without, `stop`. -/
def halfOpen (start stop : Int64) : Except Fault Words := do
  Check.bounds "range" start.toInt stop.toInt
  between start stop

/-- The integers from `start` up to `stop`, both included. -/
def closed (start stop : Int64) : Except Fault Words := do
  Check.bounds "range" start.toInt stop.toInt
  match succ? stop with
  | none => .error (.invalidValue "range.end" (toString stop.toInt) .endOverflows)
  | some next => between start next

end Words

def bounds (i : Interval) : Int × Int :=
  (i.start, i.stop)

theorem map_bounds_between {start stop : Int64} {first last : Int} (hstart : start.toInt = first)
    (hstop : stop.toInt = last) (ordered : first ≤ last)
    (le_start : Int64.minValue.toInt ≤ first) (stop_le : last ≤ Int64.maxValue.toInt) :
    (Words.between start stop).map Words.bounds =
      (between first last ordered le_start stop_le).map bounds := by
  subst hstart hstop
  unfold Words.between between Check.length
  rw [toNat_distance ordered]
  by_cases h : stop.toInt - start.toInt ≤ maxLength
  · rw [dif_pos h, if_pos (by omega)]
    rfl
  · rw [dif_neg h, if_neg (by omega)]
    rfl

theorem map_bounds_halfOpen (start stop : Int64) :
    (Words.halfOpen start stop).map Words.bounds = (halfOpen start stop).map bounds := by
  unfold Words.halfOpen halfOpen Check.bounds
  by_cases h : start.toInt ≤ stop.toInt
  · rw [dif_pos h, if_pos h]
    exact map_bounds_between rfl rfl h _ _
  · rw [dif_neg h, if_neg h]
    rfl

theorem map_bounds_closed (start stop : Int64) :
    (Words.closed start stop).map Words.bounds = (closed start stop).map bounds := by
  unfold Words.closed closed Check.bounds
  by_cases h : start.toInt ≤ stop.toInt
  · rw [dif_pos h, if_pos h]
    cases hnext : succ? stop with
    | none =>
      have hmax : stop.toInt = Int64.maxValue.toInt :=
        congrArg Int64.toInt (succ?_eq_none.1 hnext)
      rw [dif_neg (by omega)]
      rfl
    | some next =>
      have hlt : stop.toInt < Int64.maxValue.toInt := by
        rw [← ne_maxValue_iff, Ne, ← succ?_eq_none, hnext]
        exact nofun
      rw [dif_pos (by omega)]
      exact map_bounds_between rfl (toInt_of_succ? hnext) _ _ _
  · rw [dif_neg h, if_neg h]
    rfl

/-! ## What is accepted -/

/-- Why bounds that mean the integers of a span give no interval. The causes stand in the order in
which they are looked for, each where those in front of it do not apply; `endless` tells whether the
notation asks for a word behind the last one. -/
inductive Rejected (start stop : Int64) (span : Finset Int) (endless : Prop) : Fault → Prop where
  | disordered (horder : stop.toInt < start.toInt) :
    Rejected start stop span endless
      (.invalidValue "range" s!"{start.toInt}..{stop.toInt}" .startExceedsEnd)
  | overflow (horder : start.toInt ≤ stop.toInt) (hend : endless) :
    Rejected start stop span endless
      (.invalidValue "range.end" (toString stop.toInt) .endOverflows)
  | tooLong (horder : start.toInt ≤ stop.toInt) (hend : ¬endless) (hlength : 10000000 < span.card) :
    Rejected start stop span endless
      (.invalidValue "range" (toString span.card) (.tooLong 10000000))

/-- What a notation makes of two bounds is settled by what they mean. -/
structure Exact (made : Except Fault Interval) (accepted : Prop) (span : Finset Int)
    (rejected : Fault → Prop) : Prop where
  accepts : (∃ i, made = .ok i) ↔ accepted
  numbers : ∀ i, made = .ok i → i.numbers = span.sort
  rejects : ∀ fault, made = .error fault ↔ rejected fault

/-- No step in machine words loses anything: the difference of two bounds is the true one, and so is
what is kept of it where the bounds are in order; the end is moved up wherever there is room for
it; and what is made of the bounds is what unbounded integers make of them. -/
structure Lossless (start stop : Int64) : Prop where
  difference : (difference start stop).toInt = stop.toInt - start.toInt
  distance : start.toInt ≤ stop.toInt →
    ((distance start stop).toNat : Int) = stop.toInt - start.toInt
  endless : succ? stop = none ↔ stop = Int64.maxValue
  next : ∀ next, succ? stop = some next → next.toInt = stop.toInt + 1
  halfOpen : (Words.halfOpen start stop).map Words.bounds = (halfOpen start stop).map bounds
  closed : (Words.closed start stop).map Words.bounds = (closed start stop).map bounds

theorem lossless (start stop : Int64) : Lossless start stop where
  difference := toInt_difference start stop
  distance h := by
    rw [toNat_distance h]
    omega
  endless := succ?_eq_none
  next _ := toInt_of_succ?
  halfOpen := map_bounds_halfOpen start stop
  closed := map_bounds_closed start stop

section Exact

variable {start stop : Int64} {span : Finset Int} {endless accepted : Prop} {fault : Fault}
  {made : Except Fault Interval} {rejected : Fault → Prop}

theorem rejected_of_disordered (h : stop.toInt < start.toInt) :
    Rejected start stop span endless fault ↔
      fault = .invalidValue "range" s!"{start.toInt}..{stop.toInt}" .startExceedsEnd := by
  constructor
  · rintro (_ | horder | horder)
    · rfl
    · omega
    · omega
  · rintro rfl
    exact .disordered h

theorem rejected_of_endless (h : start.toInt ≤ stop.toInt) (hend : endless) :
    Rejected start stop span endless fault ↔
      fault = .invalidValue "range.end" (toString stop.toInt) .endOverflows := by
  constructor
  · rintro (horder | _ | ⟨-, hnot, -⟩)
    · omega
    · rfl
    · exact absurd hend hnot
  · rintro rfl
    exact .overflow h hend

theorem rejected_of_ordered (h : start.toInt ≤ stop.toInt) (hend : ¬endless) :
    Rejected start stop span endless fault ↔ 10000000 < span.card ∧
      fault = .invalidValue "range" (toString span.card) (.tooLong 10000000) := by
  constructor
  · rintro (horder | ⟨-, hendless⟩ | ⟨-, -, hlength⟩)
    · omega
    · exact absurd hendless hend
    · exact ⟨hlength, rfl⟩
  · rintro ⟨hlength, rfl⟩
    exact .tooLong h hend hlength

theorem Exact.of_error (hmade : made = .error fault) (haccepted : ¬accepted)
    (hrejected : ∀ other, rejected other ↔ other = fault) : Exact made accepted span rejected where
  accepts := by simp [hmade, haccepted]
  numbers := by simp [hmade]
  rejects other := by
    rw [hmade, hrejected, Except.error.injEq, eq_comm]

/-- Bounds in the right order are looked at for the number of integers between them, and for nothing
else. -/
theorem Exact.of_between {first last : Int} {ordered : first ≤ last}
    {le_start : Int64.minValue.toInt ≤ first} {stop_le : last ≤ Int64.maxValue.toInt}
    (hmade : made = between first last ordered le_start stop_le)
    (hspan : span = Finset.Ico first last) (haccepted : accepted ↔ last - first ≤ 10000000)
    (hrejected : ∀ other, rejected other ↔ 10000000 < span.card ∧
      other = .invalidValue "range" (toString span.card) (.tooLong 10000000)) :
    Exact made accepted span rejected := by
  have hcard : span.card = (last - first).toNat := by
    rw [hspan, Int.card_Ico]
  unfold between at hmade
  by_cases h : last - first ≤ maxLength
  · rw [dif_pos h] at hmade
    have hshort : last - first ≤ 10000000 := h
    refine ⟨?_, fun i hi => ?_, fun other => ?_⟩
    · simp [hmade, haccepted, hshort]
    · rw [hmade] at hi
      cases hi
      rw [numbers_eq_sort, hspan]
    · rw [hmade, hrejected]
      simp only [reduceCtorEq, false_iff, not_and]
      omega
  · rw [dif_neg h] at hmade
    have hlong : 10000000 < last - first := not_le.1 h
    have hcount : 10000000 < (last - first).toNat := by omega
    refine .of_error hmade (by rw [haccepted]; exact not_le.2 hlong) fun other => ?_
    rw [hrejected, hcard]
    exact and_iff_right hcount

theorem halfOpen_exact (start stop : Int64) :
    Exact (halfOpen start stop)
      (0 ≤ stop.toInt - start.toInt ∧ stop.toInt - start.toInt ≤ 10000000)
      (Finset.Ico start.toInt stop.toInt)
      (Rejected start stop (Finset.Ico start.toInt stop.toInt) False) := by
  by_cases h : start.toInt ≤ stop.toInt
  · refine .of_between (dif_pos h) rfl ?_ fun _ => rejected_of_ordered h id
    omega
  · exact .of_error (dif_neg h) (by omega) fun _ => rejected_of_disordered (by omega)

theorem closed_exact (start stop : Int64) :
    Exact (closed start stop)
      (start.toInt ≤ stop.toInt ∧ stop.toInt < Int64.maxValue.toInt ∧
        stop.toInt - start.toInt + 1 ≤ 10000000)
      (Finset.Icc start.toInt stop.toInt)
      (Rejected start stop (Finset.Icc start.toInt stop.toInt) (stop = Int64.maxValue)) := by
  by_cases h : start.toInt ≤ stop.toInt
  · by_cases hmax : stop = Int64.maxValue
    · have hfull : ¬stop.toInt + 1 ≤ Int64.maxValue.toInt := by
        rw [hmax]
        omega
      refine .of_error ((dif_pos h).trans (dif_neg hfull)) (by omega) fun _ =>
        rejected_of_endless h hmax
    · have hlt : stop.toInt < Int64.maxValue.toInt := ne_maxValue_iff.1 hmax
      refine .of_between ((dif_pos h).trans (dif_pos hlt)) ?_ ?_ fun _ =>
        rejected_of_ordered h hmax
      · ext n
        rw [Finset.mem_Icc, Finset.mem_Ico, Int.lt_add_one_iff]
      · omega
  · exact .of_error (dif_neg h) (by omega) fun _ => rejected_of_disordered (by omega)

end Exact

/-- **Both notations are exact.** They accept the bounds that mean at most ten million integers, of
which closed ones leave room for an end, and the interval has those integers in ascending order.
All others are rejected for the first cause that applies, with the number of integers that they mean
where these are too many. Machine words come to the same. -/
theorem notations_exact (start stop : Int64) :
    Exact (halfOpen start stop)
        (0 ≤ stop.toInt - start.toInt ∧ stop.toInt - start.toInt ≤ 10000000)
        (Finset.Ico start.toInt stop.toInt)
        (Rejected start stop (Finset.Ico start.toInt stop.toInt) False) ∧
      Exact (closed start stop)
        (start.toInt ≤ stop.toInt ∧ stop.toInt < Int64.maxValue.toInt ∧
          stop.toInt - start.toInt + 1 ≤ 10000000)
        (Finset.Icc start.toInt stop.toInt)
        (Rejected start stop (Finset.Icc start.toInt stop.toInt) (stop = Int64.maxValue)) ∧
      Lossless start stop :=
  ⟨halfOpen_exact start stop, closed_exact start stop, lossless start stop⟩

/-- All 64-bit integers together are too many for 64 bits to count, so a closed interval of them is
rejected for its end, and a half-open one for its length. -/
example : closed Int64.minValue Int64.maxValue =
      .error (.invalidValue "range.end" "9223372036854775807" .endOverflows) ∧
    halfOpen Int64.minValue Int64.maxValue =
      .error (.invalidValue "range" "18446744073709551615" (.tooLong 10000000)) := by
  decide +kernel

end Countoff.Interval
