import Countoff.Run

/-!
# What a run comes to

A request that cannot be met ends a run before anything is written (`run_of_error`). One that can
be met comes to a single write of the whole listing, after which the outlet is asked what it is
(`run_of_ok`): the listing always has as many entries as there were integers, so that check never
ends a run. Both are equations between programs, for effects of any kind.
-/

namespace Countoff

/-- The listing of the integers of an interval. -/
def Interval.listing (i : Interval) : Listing :=
  .ofNumbers i.numbers

@[simp] theorem Interval.length_listing (i : Interval) : i.listing.length = i.length := by
  rw [listing, Listing.length_ofNumbers, length_numbers]

namespace Request

variable {m : Type → Type} [Monad m] [LawfulMonad m] (log : Log.Event → m Unit) (outlet : Outlet m)
  {request : Request}

/-- A run of a request that cannot be met ends with the fault of its interval. -/
theorem run_of_error {fault : Fault} (h : request.interval = .error fault) :
    request.run log outlet = do
      log ⟨.info, Stages.target, "Starting FizzBuzz run..."⟩
      return .error fault := by
  simp only [run, Stages.run, stages, gather, h, pure_bind]

/-- A run of a request that can be met: the log is told of every stage, the listing is written
once, and an outlet that has taken it is asked what it is. -/
theorem run_of_ok {i : Interval} (h : request.interval = .ok i) :
    request.run log outlet = do
      log ⟨.info, Stages.target, "Starting FizzBuzz run..."⟩
      log ⟨.debug, target, s!"Generating numbers for range {i.text}"⟩
      log ⟨.info, Stages.target, s!"Extracted {i.length} numbers"⟩
      log ⟨.info, Stages.target, s!"Classified {i.length} numbers"⟩
      log ⟨.debug, target, s!"Rendering {i.length} entries as {request.format.title}"⟩
      match ← outlet.write (i.listing.render request.format) with
      | .error fault => return .error fault
      | .ok () =>
        let destination ← outlet.describe
        log ⟨.info, Stages.target, s!"Output written to: {destination}"⟩
        return .ok ⟨i.length, destination⟩ := by
  simp only [run, Stages.run, stages, gather, deliver, h, pure_bind, bind_assoc,
    Listing.length_ofNumbers, Interval.length_numbers, if_true, Interval.listing]
  refine bind_congr fun _ => bind_congr fun _ => bind_congr fun _ => bind_congr fun _ =>
    bind_congr fun _ => bind_congr fun written => ?_
  -- the stage that delivers ends in the outcome of the write, and the run goes on from there
  cases written with
  | error fault => rw [pure_bind]
  | ok _ => simp only [bind_assoc, pure_bind]

end Request

end Countoff
