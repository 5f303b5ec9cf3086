import Countoff.Request
import Mathlib.Data.Finset.Sort
import Mathlib.Data.Int.ConditionallyCompleteOrder
import Mathlib.Data.Int.Interval
import Mathlib.Order.ConditionallyCompleteLattice.Basic

/-!
# The integers of an interval

An interval lists the integers between its bounds in ascending order, each once
(`numbers_eq_sort`). Whichever notation a request uses, an interval that meets it has the integers
of its span, the closed or half-open interval that the bounds mean in mathematics
(`Request.numbers_eq_sort`).
-/

namespace Countoff

namespace Interval

theorem sortedLT_numbers (i : Interval) : i.numbers.SortedLT := by
  unfold numbers
  rw [List.sortedLT_iff_pairwise, List.pairwise_map]
  refine List.pairwise_lt_range.imp ?_
  intro j k h
  omega

theorem numbers_eq_sort (i : Interval) : i.numbers = (Finset.Ico i.start i.stop).sort := by
  refine List.Subset.antisymm_of_sortedLT ?_ ?_ i.sortedLT_numbers (Finset.sortedLT_sort _)
  · intro n hn
    rw [Finset.mem_sort, Finset.mem_Ico]
    exact mem_numbers.1 hn
  · intro n hn
    rw [Finset.mem_sort, Finset.mem_Ico] at hn
    exact mem_numbers.2 hn

theorem between_eq_ok {start stop : Int} {ordered : start ≤ stop} {le_start : Int64.minValue.toInt ≤ start}
    {stop_le : stop ≤ Int64.maxValue.toInt} {i : Interval}
    (h : between start stop ordered le_start stop_le = .ok i) : i.start = start ∧ i.stop = stop := by
  unfold between at h
  split at h
  · cases h
    exact ⟨rfl, rfl⟩
  · cases h

theorem halfOpen_eq_ok {start stop : Int64} {i : Interval} (h : halfOpen start stop = .ok i) :
    i.start = start.toInt ∧ i.stop = stop.toInt := by
  unfold halfOpen at h
  split at h
  · exact between_eq_ok h
  · cases h

/-- A closed interval is stored with its end moved up by one. -/
theorem closed_eq_ok {start stop : Int64} {i : Interval} (h : closed start stop = .ok i) :
    i.start = start.toInt ∧ i.stop = stop.toInt + 1 := by
  unfold closed at h
  split at h
  · split at h
    · exact between_eq_ok h
    · cases h
  · cases h

end Interval

namespace Request

/-- The integers that the bounds of a request mean, however many they are. -/
noncomputable def span (request : Request) : Finset Int :=
  if request.inclusive then Finset.Icc request.start.toInt request.stop.toInt
  else Finset.Ico request.start.toInt request.stop.toInt

theorem ico_eq_span {request : Request} {i : Interval} (h : request.interval = .ok i) :
    Finset.Ico i.start i.stop = request.span := by
  unfold interval at h
  unfold span
  split at h
  · next hinclusive =>
    obtain ⟨hstart, hstop⟩ := Interval.closed_eq_ok h
    rw [if_pos hinclusive, hstart, hstop]
    ext n
    rw [Finset.mem_Ico, Finset.mem_Icc, Int.lt_add_one_iff]
  · next hinclusive =>
    obtain ⟨hstart, hstop⟩ := Interval.halfOpen_eq_ok h
    rw [if_neg hinclusive, hstart, hstop]

/-- A request is met by the integers of its span in ascending order. -/
theorem numbers_eq_sort {request : Request} {i : Interval} (h : request.interval = .ok i) :
    i.numbers = request.span.sort := by
  rw [i.numbers_eq_sort, ico_eq_span h]

theorem length_eq_card {request : Request} {i : Interval} (h : request.interval = .ok i) :
    i.length = request.span.card := by
  rw [← i.length_numbers, numbers_eq_sort h, Finset.length_sort]

end Request

end Countoff
