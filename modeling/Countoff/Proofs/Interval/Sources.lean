import Countoff.Proofs.Interval.Words
import Countoff.Proofs.Run
import Countoff.Proofs.Run.Protocol
import Countoff.CommandLine.RangeOptions
import Countoff.Settings.Reading

/-!
# Where intervals come from

Two 64-bit integers can lie further apart than a 64-bit integer tells, so nothing about `Words` alone
makes their length, a difference of words, the right one. But every way to come by an interval gives
bounds in the right order that are close enough (`Words.Bounded`): both notations check them, and the
presets, which nobody checks, keep to it. From this one invariant it follows that the length is exact,
that there are as many integers as it says, and that a run never has more entries than an interval
may hold (`sources_counted`).

What an interval lists does not hang on the invariant: integers are given out one by one as long as
the lower bound is below the upper one, and `map_toInt_numbers` follows that by induction for all
bounds.
-/

namespace Countoff

namespace Interval

namespace Words

/-! ## Counting in machine words -/

/-- The integers from one to ten thousand. -/
def oneBased : Words where
  start := 1
  stop := 10001

/-- The integers from zero up to, and without, ten thousand. -/
def zeroBased : Words where
  start := 0
  stop := 10000

instance : Inhabited Words := ⟨oneBased⟩

/-- How many integers there are: the difference of the bounds as a 64-bit integer, taken for the
size of something in memory. -/
def length (words : Words) : USize :=
  (words.stop - words.start).toUInt64.toUSize

def isEmpty (words : Words) : Bool :=
  words.start = words.stop

/-- A word below another one is not the last. -/
theorem toInt_add_one_of_lt {n m : Int64} (h : n < m) : (n + 1).toInt = n.toInt + 1 := by
  apply toInt_add_one
  have hm := m.toInt_le
  rw [Int64.lt_iff_toInt_lt] at h
  rw [ne_maxValue_iff]
  omega

/-- The integers one by one: the lower bound is given out and moved up for as long as it is below
the upper one. -/
def numbers (words : Words) : List Int64 :=
  if words.start < words.stop then
    words.start :: numbers { words with start := words.start + 1 }
  else []
termination_by (words.stop.toInt - words.start.toInt).toNat
decreasing_by
  rename_i h
  have hnext := toInt_add_one_of_lt h
  rw [Int64.lt_iff_toInt_lt] at h
  simp only [hnext]
  omega

/-- What is given out, step by step, are the integers from the lower bound on. -/
theorem map_toInt_numbers (words : Words) :
    words.numbers.map Int64.toInt =
      (List.range (words.stop.toInt - words.start.toInt).toNat).map fun (k : Nat) =>
        words.start.toInt + k := by
  induction words using numbers.induct with
  | case1 words h ih =>
    have hnext := toInt_add_one_of_lt h
    rw [numbers, if_pos h, List.map_cons, ih, hnext]
    rw [Int64.lt_iff_toInt_lt] at h
    have hcount : (words.stop.toInt - words.start.toInt).toNat =
        (words.stop.toInt - (words.start.toInt + 1)).toNat + 1 := by
      omega
    rw [hcount, List.range_succ_eq_map, List.map_cons, List.map_map]
    congr 1
    · omega
    · apply List.map_congr_left
      intro k _
      simp only [Function.comp_apply, Nat.succ_eq_add_one]
      omega
  | case2 words h =>
    rw [Int64.lt_iff_toInt_lt] at h
    have hcount : (words.stop.toInt - words.start.toInt).toNat = 0 := by
      omega
    rw [numbers, if_neg (by rwa [Int64.lt_iff_toInt_lt]), hcount]
    rfl

theorem length_numbers (words : Words) :
    words.numbers.length = (words.stop.toInt - words.start.toInt).toNat := by
  rw [← List.length_map Int64.toInt, map_toInt_numbers, List.length_map, List.length_range]

theorem pairwise_numbers (words : Words) : words.numbers.Pairwise (· < ·) := by
  have hascending : (words.numbers.map Int64.toInt).Pairwise (· < ·) := by
    rw [map_toInt_numbers, List.pairwise_map]
    refine List.pairwise_lt_range.imp ?_
    intro j k h
    omega
  rw [List.pairwise_map] at hascending
  exact hascending.imp Int64.lt_iff_toInt_lt.2

/-! ## The invariant -/

/-- The bounds are in the right order, and not further apart than an interval is long. -/
structure Bounded (words : Words) : Prop where
  ordered : words.start.toInt ≤ words.stop.toInt
  near : words.stop.toInt - words.start.toInt ≤ 10000000

theorem between_bounded {start stop : Int64} {words : Words} (h : start.toInt ≤ stop.toInt)
    (hwords : between start stop = .ok words) : words.Bounded := by
  unfold between Check.length at hwords
  rw [toNat_distance h] at hwords
  split at hwords
  · next hnear =>
    cases hwords
    unfold maxLength at hnear
    have hfits : stop.toInt - start.toInt ≤ 10000000 := by
      omega
    exact ⟨h, hfits⟩
  · cases hwords

theorem halfOpen_bounded {start stop : Int64} {words : Words}
    (h : halfOpen start stop = .ok words) : words.Bounded := by
  unfold halfOpen Check.bounds at h
  split at h
  · next hordered => exact between_bounded hordered h
  · cases h

theorem closed_bounded {start stop : Int64} {words : Words}
    (h : closed start stop = .ok words) : words.Bounded := by
  unfold closed Check.bounds at h
  split at h
  · next hordered =>
    cases hnext : succ? stop with
    | none =>
      rw [hnext] at h
      cases h
    | some next =>
      rw [hnext] at h
      have hstop := toInt_of_succ? hnext
      exact between_bounded (by omega) h
  · cases h

theorem oneBased_bounded : oneBased.Bounded where
  ordered := by decide
  near := by decide

theorem zeroBased_bounded : zeroBased.Bounded where
  ordered := by decide
  near := by decide

section Bounded

variable {words : Words} (h : words.Bounded)
include h

/-- The difference of the bounds fits in a word. -/
theorem toInt_sub : (words.stop - words.start).toInt = words.stop.toInt - words.start.toInt := by
  obtain ⟨hordered, hnear⟩ := h
  rw [Int64.toInt_sub]
  exact Int.bmod_eq_of_le (by omega) (by omega)

/-- Nothing of the difference is lost where it is taken for a size, be it of 32 bits or of 64. -/
theorem toNat_length : (words.length.toNat : Int) = words.stop.toInt - words.start.toInt := by
  have hsub := toInt_sub h
  have hsize := USize.le_size
  obtain ⟨hordered, hnear⟩ := h
  have hmagnitude : ((words.stop - words.start).toUInt64.toNat : Int) =
      words.stop.toInt - words.start.toInt := by
    rw [← hsub]
    have hmsb : (words.stop - words.start).toBitVec.msb = false := by
      rw [BitVec.msb_eq_toInt, Int64.toInt_toBitVec, hsub, decide_eq_false_iff_not]
      omega
    exact (BitVec.toInt_eq_toNat_of_msb hmsb).symm
  have hkept : words.length.toNat = (words.stop - words.start).toUInt64.toNat := by
    unfold length
    rw [UInt64.toNat_toUSize]
    exact Nat.mod_eq_of_lt (lt_of_lt_of_le (by omega) hsize)
  rw [hkept, hmagnitude]

theorem isEmpty_iff : words.isEmpty = true ↔ words.numbers = [] := by
  have hordered := h.ordered
  rw [← List.length_eq_zero_iff, length_numbers, isEmpty, decide_eq_true_iff, ← Int64.toInt_inj]
  omega

end Bounded

end Words

/-! ## The same count everywhere -/

/-- Machine words count right: what they say of an interval is true of the integers between its
bounds, and is what the interval says. -/
structure Counted (words : Words) (i : Interval) : Prop where
  same : words.bounds = i.bounds
  bounded : words.Bounded
  /-- The difference of the bounds does not wrap. -/
  difference : (words.stop - words.start).toInt = words.stop.toInt - words.start.toInt
  /-- Nothing is lost where it is taken for a size. -/
  length : (words.length.toNat : Int) = words.stop.toInt - words.start.toInt
  /-- The length is the number of integers that are given out. -/
  count : words.length.toNat = words.numbers.length
  /-- They are given out in ascending order, from the lower bound on, one after the other. -/
  ascending : words.numbers.Pairwise (· < ·)
  numbers : words.numbers.map Int64.toInt =
    (List.range words.numbers.length).map fun (k : Nat) => words.start.toInt + k
  isEmpty : words.isEmpty = true ↔ words.numbers = []
  interval : i.length = words.length.toNat ∧ i.numbers = words.numbers.map Int64.toInt ∧
    i.isEmpty = words.isEmpty
  /-- There is a request for it. -/
  requested : halfOpen words.start words.stop = .ok i

/-- An interval is what the half-open notation makes of its own bounds. -/
theorem halfOpen_of_bounds {start stop : Int64} {i : Interval} (hstart : start.toInt = i.start)
    (hstop : stop.toInt = i.stop) : halfOpen start stop = .ok i := by
  obtain ⟨first, last, ordered, near, le_start, stop_le⟩ := i
  subst hstart hstop
  unfold halfOpen between
  rw [dif_pos ordered, dif_pos near]

theorem counted {words : Words} {i : Interval} (hsame : words.bounds = i.bounds)
    (h : words.Bounded) : Counted words i := by
  obtain ⟨hstart, hstop⟩ := Prod.mk.inj hsame
  have hlength := Words.toNat_length h
  have hnumbers := Words.map_toInt_numbers words
  have hcount := Words.length_numbers words
  have hcounted : i.length = (words.stop.toInt - words.start.toInt).toNat := by
    rw [Interval.length, hstart, hstop]
  refine {
    same := hsame
    bounded := h
    difference := Words.toInt_sub h
    length := hlength
    count := by omega
    ascending := Words.pairwise_numbers words
    numbers := by rw [hnumbers, hcount]
    isEmpty := Words.isEmpty_iff h
    interval := ⟨by omega, ?_, ?_⟩
    requested := halfOpen_of_bounds hstart hstop }
  · rw [hnumbers, Interval.numbers, hcounted, hstart]
  · rw [Interval.isEmpty, Words.isEmpty, decide_eq_decide, ← hstart, ← hstop, Int64.toInt_inj]

/-! ## Sources -/

/-- What a request makes of its bounds in machine words. -/
def Words.ofRequest (request : Request) : Except Fault Words :=
  if request.inclusive then closed request.start request.stop
  else halfOpen request.start request.stop

theorem Words.map_bounds_ofRequest (request : Request) :
    (ofRequest request).map bounds = request.interval.map Interval.bounds := by
  unfold ofRequest Request.interval
  split
  · exact map_bounds_closed _ _
  · exact map_bounds_halfOpen _ _

theorem Words.ofRequest_bounded {request : Request} {words : Words}
    (h : ofRequest request = .ok words) : words.Bounded := by
  unfold ofRequest at h
  split at h
  · exact closed_bounded h
  · exact halfOpen_bounded h

/-- A way to come by an interval. -/
inductive Source where
  | closed (start stop : Int64)
  | halfOpen (start stop : Int64)
  | oneBased
  | zeroBased
  | default
  /-- The arguments of a command line. -/
  | options (arguments : List String)
  /-- The text of a configuration file. -/
  | settings (text : String)

namespace Source

open CommandLine (RangeOptions)

def interval? : Source → Option Interval
  | closed start stop => (Interval.closed start stop).toOption
  | halfOpen start stop => (Interval.halfOpen start stop).toOption
  | oneBased => some Interval.oneBased
  | zeroBased => some Interval.zeroBased
  | default => some Inhabited.default
  | options arguments => (RangeOptions.parse arguments).toOption.bind fun options =>
    options.request.interval.toOption
  | settings text => (Settings.ofText text).toOption.bind fun settings =>
    settings.request.interval.toOption

/-- The same in machine words. -/
def words? : Source → Option Words
  | closed start stop => (Words.closed start stop).toOption
  | halfOpen start stop => (Words.halfOpen start stop).toOption
  | oneBased => some Words.oneBased
  | zeroBased => some Words.zeroBased
  | default => some Inhabited.default
  | options arguments => (RangeOptions.parse arguments).toOption.bind fun options =>
    (Words.ofRequest options.request).toOption
  | settings text => (Settings.ofText text).toOption.bind fun settings =>
    (Words.ofRequest settings.request).toOption

/-- What keeps to the invariant and has the bounds of an interval wherever there is one counts as it
does. -/
theorem rel_toOption {x : Except Fault Words} {y : Except Fault Interval}
    (hsame : x.map Words.bounds = y.map bounds)
    (hbounded : ∀ words, x = .ok words → words.Bounded) :
    Option.Rel Counted x.toOption y.toOption := by
  cases x with
  | error fault =>
    cases y with
    | error other => exact .none
    | ok i => cases hsame
  | ok words =>
    cases y with
    | error fault => cases hsame
    | ok i => exact .some (counted (Except.ok.inj hsame) (hbounded words rfl))

/-- Whatever makes a request, or fails to. -/
theorem rel_ofRequest {ε α : Type} (made : Except ε α) (request : α → Request) :
    Option.Rel Counted (made.toOption.bind fun a => (Words.ofRequest (request a)).toOption)
      (made.toOption.bind fun a => (request a).interval.toOption) := by
  cases made with
  | error _ => exact .none
  | ok a =>
    exact rel_toOption (Words.map_bounds_ofRequest (request a)) fun _ => Words.ofRequest_bounded

/-- Wherever an interval comes from, machine words come to the same one and count it right. -/
theorem rel_counted (source : Source) : Option.Rel Counted source.words? source.interval? := by
  cases source with
  | closed start stop =>
    exact rel_toOption (map_bounds_closed start stop) fun _ => Words.closed_bounded
  | halfOpen start stop =>
    exact rel_toOption (map_bounds_halfOpen start stop) fun _ => Words.halfOpen_bounded
  | oneBased => exact .some (counted rfl Words.oneBased_bounded)
  | zeroBased => exact .some (counted rfl Words.zeroBased_bounded)
  | default => exact .some (counted rfl Words.oneBased_bounded)
  | options arguments => exact rel_ofRequest (RangeOptions.parse arguments) RangeOptions.request
  | settings text => exact rel_ofRequest (Settings.ofText text) Settings.request

end Source

end Interval

/-! ## Runs -/

namespace Stages

/-- The number of integers or entries that a call of a stage has to do with. -/
def Call.size : Call → Nat
  | .gather answer => (answer.toOption.getD []).length
  | .label numbers answer => max numbers.length (answer.toOption.getD []).length
  | .deliver listing _ => listing.length

end Stages

namespace Request

open Stages (Watch)

variable {σ : Type}

theorem gather_answers (request : Request) (log : Log.Event → StateM σ Unit) (state : σ) :
    (request.gather log state).1 = request.interval.map Interval.numbers := by
  unfold gather
  cases request.interval with
  | error fault => rfl
  | ok i => rfl

/-- No stage of a run is given more than an interval may hold, and none answers with more. -/
theorem run_ends_bounded (request : Request) (log : Log.Event → StateM σ Unit)
    (outlet : Outlet (StateM σ)) :
    Watch.Ends [] ((request.stages log outlet).watched.run fun event => Watch.quietly (log event))
      fun result calls => (∀ call ∈ calls, call.size ≤ 10000000) ∧
        ∀ summary, result = .ok summary → summary.count ≤ 10000000 := by
  unfold Stages.run
  refine .quietly_bind fun _ => .noting_bind_of (request.gather_answers log) ?_
  cases request.interval with
  | error fault =>
    refine .pure ⟨?_, nofun⟩
    simp [Stages.Call.size, Except.map, Except.toOption]
  | ok i =>
    have hlength := i.length_le_maxLength
    unfold Interval.maxLength at hlength
    refine .quietly_bind fun _ => .noting_bind_of (fun _ => rfl) ?_
    have hcount : (Listing.ofNumbers i.numbers).length = i.numbers.length :=
      Listing.length_ofNumbers _
    simp only [if_pos hcount]
    refine .quietly_bind fun _ => .noting_bind fun delivered => ?_
    have hnumbers : i.numbers.length ≤ 10000000 := i.length_numbers.trans_le hlength
    have hcalls : ∀ call ∈ [Stages.Call.gather (.ok i.numbers),
        .label i.numbers (.ok (.ofNumbers i.numbers)),
        .deliver (.ofNumbers i.numbers) delivered], call.size ≤ 10000000 := by
      simp only [List.forall_mem_cons, Stages.Call.size, Except.toOption, Option.getD_some, hcount]
      exact ⟨hnumbers, max_le hnumbers hnumbers, hnumbers, nofun⟩
    cases delivered with
    | error fault => exact .pure ⟨hcalls, nofun⟩
    | ok destination =>
      refine .quietly_bind fun _ => .pure ⟨hcalls, ?_⟩
      rintro _ ⟨⟩
      exact hnumbers

end Request

/-- **Every interval is counted right.** Wherever an interval comes from, machine words make the same
of it as unbounded integers do, or reject it as these do; its bounds are in the right order and at
most ten million apart, so that the length, which is a difference of words, is exact and is the
number of integers that are given out. A run of any request, on any outlet, is never concerned with
more than that many integers or entries. -/
theorem Interval.sources_counted :
    (∀ source : Interval.Source, Option.Rel Interval.Counted source.words? source.interval?) ∧
      ∀ {σ : Type} (request : Request) (log : Log.Event → StateM σ Unit)
        (outlet : Outlet (StateM σ)) (before : σ),
        let (result, watch) := (request.stages log outlet).watched.run
          (fun event => Stages.Watch.quietly (log event)) ⟨before, []⟩
        (∀ call ∈ watch.calls, call.size ≤ 10000000) ∧
          ∀ summary, result = .ok summary → summary.count ≤ 10000000 :=
  ⟨Source.rel_counted, fun request log outlet before => request.run_ends_bounded log outlet before⟩

end Countoff
