import Countoff.Proofs.Interval.Words
import Countoff.Proofs.Run.Faults

/-!
# Two notations

A closed interval is stored half-open, with its end moved up by one, so `closed` from one integer to
another and `halfOpen` to the next one mean the same integers. Where the bounds are in the right order
they come to the same interval or to the same fault (`closed_eq_halfOpen`), and so runs of requests
with these bounds are one and the same program (`Request.run_congr`). The notations check the order of
different bounds, though: `closed` of those it was given, `halfOpen` of those it stores. The two checks
part at one place, the empty interval, which only the half-open notation can express
(`notations_agree_iff`).
-/

namespace Countoff

/-! ## Runs that cannot be told apart -/

/-- A run depends on the interval and on the format of a request, not on the notation of its
bounds. -/
theorem Request.run_congr {m : Type → Type} [Monad m] {request other : Request}
    (log : Log.Event → m Unit) (outlet : Outlet m) (hinterval : request.interval = other.interval)
    (hformat : request.format = other.format) : request.run log outlet = other.run log outlet := by
  have hgather : request.gather log = other.gather log := by
    unfold gather
    rw [hinterval]
  have hdeliver : request.deliver log outlet = other.deliver log outlet := by
    funext listing
    unfold deliver
    rw [hformat]
  unfold run stages
  rw [hgather, hdeliver]

/-- Two runs that both fail, or both succeed with the same summary, and have made the same calls on
an outlet that they leave in the same state. -/
structure Outlet.SameRun {σ : Type} (ran other : Except Fault Summary × Outlet.Watch σ) : Prop where
  result : ran.1.toOption = other.1.toOption
  calls : ran.2.calls = other.2.calls
  state : ran.2.state = other.2.state

namespace Interval

/-! ## Bounds in both notations -/

section Bounds

variable {start stop : Int64} (hstop : stop ≠ Int64.maxValue)
include hstop

/-- The same interval or the same fault, if the bounds are in the right order before the end is
moved. -/
theorem closed_eq_halfOpen (h : start.toInt ≤ stop.toInt) :
    closed start stop = halfOpen start (stop + 1) := by
  have hnext := toInt_add_one hstop
  have hlast := (stop + 1).toInt_le
  unfold closed halfOpen
  rw [dif_pos h, dif_pos (by omega), dif_pos (by omega)]
  simp only [hnext]

/-- Bounds that are out of order once the end is moved are out of order before. -/
theorem halfOpen_of_gt (h : stop.toInt + 1 < start.toInt) :
    halfOpen start (stop + 1) = .error (Check.disordered "range" start.toInt (stop.toInt + 1)) := by
  have hnext := toInt_add_one hstop
  unfold halfOpen
  rw [dif_neg (by omega), hnext]

end Bounds

/-- From an integer up to, and without, itself there is nothing, which is a valid interval. -/
theorem halfOpen_same (n : Int64) : ∃ i, halfOpen n n = .ok i ∧ i.numbers = [] := by
  unfold halfOpen between
  rw [dif_pos le_rfl, dif_pos (by rw [sub_self]; decide)]
  refine ⟨_, rfl, ?_⟩
  simp [numbers, length]

theorem closed_of_gt {start stop : Int64} (h : stop.toInt < start.toInt) :
    closed start stop = .error (Check.disordered "range" start.toInt stop.toInt) :=
  dif_neg (by omega)

/-- The notations come to the same interval, or both to none, unless the closed one would be empty. -/
theorem toOption_closed {start stop : Int64} (hstop : stop ≠ Int64.maxValue)
    (h : start ≠ stop + 1) : (closed start stop).toOption = (halfOpen start (stop + 1)).toOption := by
  have hnext := toInt_add_one hstop
  rw [Ne, ← Int64.toInt_inj] at h
  by_cases hordered : start.toInt ≤ stop.toInt
  · rw [closed_eq_halfOpen hstop hordered]
  · rw [closed_of_gt (by omega), halfOpen_of_gt hstop (by omega)]
    rfl

end Interval

namespace Request

open Outlet (SameRun Watch)

variable {σ : Type}

/-- Requests that come to the same interval, or both to none, are run alike. -/
theorem sameRun_of_interval {request other : Request}
    (hinterval : request.interval.toOption = other.interval.toOption)
    (hformat : request.format = other.format) (outlet : Outlet (StateM σ)) (before : σ) :
    SameRun (request.run Watch.log outlet.watched ⟨before, [], []⟩)
      (other.run Watch.log outlet.watched ⟨before, [], []⟩) := by
  cases hrequest : request.interval with
  | ok i =>
    cases hother : other.interval with
    | ok j =>
      have hsame : request.interval = other.interval := by
        rw [hrequest, hother] at hinterval ⊢
        exact congrArg Except.ok (Option.some.inj hinterval)
      rw [run_congr _ _ hsame hformat]
      exact ⟨rfl, rfl, rfl⟩
    | error fault =>
      rw [hrequest, hother] at hinterval
      cases hinterval
  | error fault =>
    cases hother : other.interval with
    | ok j =>
      rw [hrequest, hother] at hinterval
      cases hinterval
    | error fault' =>
      obtain ⟨hresult, hcalls, hstate⟩ := run_untouched hrequest outlet before
      obtain ⟨hresult', hcalls', hstate'⟩ := run_untouched hother outlet before
      refine ⟨?_, hcalls.trans hcalls'.symm, hstate.trans hstate'.symm⟩
      rw [hresult, hresult']
      rfl

end Request

/-! ## Where the notations part -/

namespace Interval

open Outlet (SameRun Watch)

/-- The closed notation of two bounds and the half-open one of the same integers come to the same,
and so do runs that are asked for in them. -/
structure NotationsAgree (start stop : Int64) : Prop where
  made : (closed start stop).toOption = (halfOpen start (stop + 1)).toOption
  runs : ∀ (format : Format) (path : Option String) {σ : Type} (outlet : Outlet (StateM σ))
    (before : σ),
    SameRun
      (Request.run Watch.log outlet.watched ⟨start, stop, true, format, path⟩ ⟨before, [], []⟩)
      (Request.run Watch.log outlet.watched ⟨start, stop + 1, false, format, path⟩ ⟨before, [], []⟩)

/-- The closed notation is rejected, and a run that is asked for in it touches nothing. The half-open
one is empty, and a run that is asked for in it writes the empty listing. -/
structure NotationsPart (start stop : Int64) : Prop where
  rejected : closed start stop = .error (Check.disordered "range" start.toInt stop.toInt)
  accepted : ∃ i, halfOpen start (stop + 1) = .ok i ∧ i.numbers = []
  runs : ∀ (format : Format) (path : Option String) {σ : Type} (outlet : Outlet (StateM σ))
    (before : σ),
    let ran :=
      Request.run Watch.log outlet.watched ⟨start, stop, true, format, path⟩ ⟨before, [], []⟩
    let other :=
      Request.run Watch.log outlet.watched ⟨start, stop + 1, false, format, path⟩ ⟨before, [], []⟩
    (ran.1 = .error (Check.disordered "range" start.toInt stop.toInt) ∧ ran.2.calls = [] ∧
      ran.2.state = before) ∧
      outlet.Settles before (Listing.render [] format) 0 other.1 other.2.calls other.2.state

theorem notationsPart_of_eq {start stop : Int64} (hstop : stop ≠ Int64.maxValue)
    (h : start = stop + 1) : NotationsPart start stop := by
  subst h
  have hnext := toInt_add_one hstop
  have hrejected : closed (stop + 1) stop =
      .error (Check.disordered "range" (stop + 1).toInt stop.toInt) := closed_of_gt (by omega)
  obtain ⟨i, hi, hempty⟩ := halfOpen_same (stop + 1)
  refine ⟨hrejected, ⟨i, hi, hempty⟩, ?_⟩
  intro format path σ outlet before
  constructor
  · have hinterval : (⟨stop + 1, stop, true, format, path⟩ : Request).interval =
        .error (Check.disordered "range" (stop + 1).toInt stop.toInt) := hrejected
    exact Request.run_untouched hinterval outlet before
  · have hinterval : (⟨stop + 1, stop + 1, false, format, path⟩ : Request).interval = .ok i := hi
    have hsettles := Request.run_settles hinterval outlet before
    rw [listing, ← i.length_numbers, hempty] at hsettles
    exact hsettles

/-- **Two notations of the same integers.** The closed notation up to an integer and the half-open one
up to the next come to the same interval, or are both rejected, and runs that are asked for in them
cannot be told apart, if and only if the lower bound is not that next integer. If it is, there are no
integers, and only the half-open notation accepts that. -/
theorem notations_agree_iff {start stop : Int64} (hstop : stop ≠ Int64.maxValue) :
    (NotationsAgree start stop ↔ start ≠ stop + 1) ∧
      (start = stop + 1 → NotationsPart start stop) := by
  refine ⟨⟨?_, ?_⟩, notationsPart_of_eq hstop⟩
  · intro hagree heq
    obtain ⟨hrejected, ⟨i, hi, -⟩, -⟩ := notationsPart_of_eq hstop heq
    have hmade := hagree.made
    rw [hrejected, hi] at hmade
    cases hmade
  · intro hne
    have hmade := toOption_closed hstop hne
    refine ⟨hmade, ?_⟩
    intro format path σ outlet before
    have hinterval : (⟨start, stop, true, format, path⟩ : Request).interval.toOption =
        (⟨start, stop + 1, false, format, path⟩ : Request).interval.toOption := hmade
    exact Request.sameRun_of_interval hinterval rfl outlet before

/-- One to fifteen in both notations, and nothing at all in both. -/
theorem notations_agree_iff_of_fifteen :
    (15 : Int64) ≠ Int64.maxValue ∧ (4 : Int64) ≠ Int64.maxValue ∧
      NotationsAgree 1 15 ∧ NotationsPart 5 4 := by
  refine ⟨by decide, by decide, ?_, ?_⟩
  · exact (notations_agree_iff (by decide)).1.2 (by decide)
  · exact (notations_agree_iff (by decide)).2 (by decide)

/-- From five up to four there is nothing, as from five up to, and without, five, but only the latter
is an interval. -/
theorem closed_rejects_nothing :
    (4 : Int64) ≠ Int64.maxValue ∧ closed 5 4 = .error (Check.disordered "range" 5 4) ∧
      (∃ i, halfOpen 5 (4 + 1) = .ok i ∧ i.numbers = []) ∧ ¬NotationsAgree 5 4 := by
  have hrejected : closed 5 4 = .error (Check.disordered "range" 5 4) := by decide
  have haccepted := halfOpen_same 5
  refine ⟨by decide, hrejected, haccepted, ?_⟩
  intro hagree
  obtain ⟨i, hi, -⟩ := haccepted
  have hmade := hagree.made
  rw [hrejected, show (4 : Int64) + 1 = 5 from rfl, hi] at hmade
  cases hmade

end Interval

end Countoff
