import Countoff.Log
import Countoff.Outlet
import Countoff.Request

/-!
# Runs

A run has three stages: it gathers integers, gives them their texts, and delivers the listing.
`Stages.run` is the same for all stages: the first fault ends it, and a listing that has not as
many entries as there were integers is never delivered. `Request.stages` are the stages that a
request asks for.
-/

namespace Countoff

/-- What a run does, with effects in `m`. -/
structure Stages (m : Type → Type) where
  gather : m (Except Fault (List Int))
  label : List Int → m (Except Fault Listing)
  /-- Delivers a listing and says where it went. -/
  deliver : Listing → m (Except Fault String)

structure Summary where
  count : Nat
  destination : String
  deriving DecidableEq

namespace Stages

variable {m : Type → Type} [Monad m]

/-- The name under which runs write to the log. -/
def target : String := "fizzbuzz::core::engine"

/-- Runs the stages in order and tells the log of each that is done. -/
def run (log : Log.Event → m Unit) (stages : Stages m) : m (Except Fault Summary) := do
  log ⟨.info, target, "Starting FizzBuzz run..."⟩
  match ← stages.gather with
  | .error fault => return .error fault
  | .ok numbers =>
    log ⟨.info, target, s!"Extracted {numbers.length} numbers"⟩
    match ← stages.label numbers with
    | .error fault => return .error fault
    | .ok listing =>
      if listing.length = numbers.length then
        log ⟨.info, target, s!"Classified {listing.length} numbers"⟩
        match ← stages.deliver listing with
        | .error fault => return .error fault
        | .ok destination =>
          log ⟨.info, target, s!"Output written to: {destination}"⟩
          return .ok ⟨numbers.length, destination⟩
      else return .error (.internal (.countMismatch listing.length numbers.length))

end Stages

namespace Request

variable {m : Type → Type} [Monad m]

/-- The name under which the stages of a request write to the log. -/
def target : String := "fizzbuzz::core::pipeline"

def gather (log : Log.Event → m Unit) (request : Request) : m (Except Fault (List Int)) := do
  match request.interval with
  | .error fault => return .error fault
  | .ok interval =>
    log ⟨.debug, target, s!"Generating numbers for range {interval.text}"⟩
    return .ok interval.numbers

/-- Writes a listing to an outlet in the format of a request. -/
def deliver (log : Log.Event → m Unit) (outlet : Outlet m) (request : Request)
    (listing : Listing) : m (Except Fault String) := do
  log ⟨.debug, target, s!"Rendering {listing.length} entries as {request.format.title}"⟩
  match ← outlet.write (listing.render request.format) with
  | .error fault => return .error fault
  | .ok () => return .ok (← outlet.describe)

/-- The stages of a request whose output goes to an outlet. -/
def stages (log : Log.Event → m Unit) (outlet : Outlet m) (request : Request) : Stages m where
  gather := request.gather log
  label numbers := return .ok (.ofNumbers numbers)
  deliver := request.deliver log outlet

def run (log : Log.Event → m Unit) (outlet : Outlet m) (request : Request) :
    m (Except Fault Summary) :=
  (request.stages log outlet).run log

end Request

end Countoff
