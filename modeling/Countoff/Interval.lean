import Countoff.Check

/-!
# Intervals

An interval is the half-open interval of integers from `start` up to, and without, `stop`. Its
bounds are 64-bit integers in the right order, and it holds at most ten million integers; both
facts are part of the type. `Interval.closed` and `Interval.halfOpen` are the two notations for
it: a closed interval is stored with its end moved up by one, which the largest 64-bit integer
does not allow.
-/

namespace Countoff

/-- The most integers that an interval may hold. -/
def Interval.maxLength : Nat := 10000000

/-- A half-open interval of integers. -/
structure Interval where
  start : Int
  stop : Int
  start_le_stop : start ≤ stop
  length_le : stop - start ≤ Interval.maxLength
  le_start : Int64.minValue.toInt ≤ start
  stop_le : stop ≤ Int64.maxValue.toInt
  deriving DecidableEq

namespace Interval

def length (i : Interval) : Nat :=
  (i.stop - i.start).toNat

def isEmpty (i : Interval) : Bool :=
  i.start = i.stop

def numbers (i : Interval) : List Int :=
  (List.range i.length).map fun (k : Nat) => i.start + k

def text (i : Interval) : String :=
  s!"{i.start}..{i.stop}"

/-- The interval between two bounds in the right order, if it is not too long. -/
def between (start stop : Int) (ordered : start ≤ stop) (le_start : Int64.minValue.toInt ≤ start)
    (stop_le : stop ≤ Int64.maxValue.toInt) : Except Fault Interval :=
  if h : stop - start ≤ maxLength then .ok ⟨start, stop, ordered, h, le_start, stop_le⟩
  else .error (Check.tooLong "range" (stop - start).toNat maxLength)

/-- The integers from `start` up to, and without, `stop`. -/
def halfOpen (start stop : Int64) : Except Fault Interval :=
  if h : start.toInt ≤ stop.toInt then
    between start.toInt stop.toInt h start.minValue_le_toInt stop.toInt_le
  else .error (Check.disordered "range" start.toInt stop.toInt)

/-- The integers from `start` up to `stop`, both included. -/
def closed (start stop : Int64) : Except Fault Interval :=
  if h : start.toInt ≤ stop.toInt then
    if h' : stop.toInt + 1 ≤ Int64.maxValue.toInt then
      between start.toInt (stop.toInt + 1) (by omega) start.minValue_le_toInt h'
    else .error (.invalidValue "range.end" (toString stop.toInt) .endOverflows)
  else .error (Check.disordered "range" start.toInt stop.toInt)

/-- The integers from one to ten thousand. -/
def oneBased : Interval where
  start := 1
  stop := 10001
  start_le_stop := by decide
  length_le := by decide
  le_start := by decide
  stop_le := by decide

/-- The integers from zero up to, and without, ten thousand. -/
def zeroBased : Interval where
  start := 0
  stop := 10000
  start_le_stop := by decide
  length_le := by decide
  le_start := by decide
  stop_le := by decide

instance : Inhabited Interval := ⟨oneBased⟩

@[simp] theorem length_numbers (i : Interval) : i.numbers.length = i.length := by
  simp [numbers]

theorem mem_numbers {i : Interval} {n : Int} : n ∈ i.numbers ↔ i.start ≤ n ∧ n < i.stop := by
  have := i.start_le_stop
  simp only [numbers, length, List.mem_map, List.mem_range]
  constructor
  · rintro ⟨k, hk, rfl⟩
    omega
  · rintro ⟨h₁, h₂⟩
    exact ⟨(n - i.start).toNat, by omega, by omega⟩

theorem length_le_maxLength (i : Interval) : i.length ≤ maxLength := by
  have := i.length_le
  simp only [length]
  omega

end Interval

end Countoff
