import Countoff.Outlet.Buffer
import Countoff.Proofs.Run

/-!
# Histories of a request

A request and its outlet may be used any number of times, stage by stage, in whole runs and in dry
runs. Here the outlet is a buffer, which refuses whatever attempts it likes. All that can be done
comes down to one rule: an operation that has a listing to write comes to exactly one write of it
(`perform_of_listing`), and any other leaves the buffer alone (`perform_of_no_listing`). From this
it follows by induction what a history has attempted and what it has stored, and that its accounts
are in order at every point (`history_accounts`).
-/

namespace Countoff

theorem Buffer.stored_of_refused {refuses : Nat → Bool} {text : String} {buffer : Buffer}
    {fault : Fault} (h : ((outlet refuses).write text buffer).1 = .error fault) :
    ((outlet refuses).write text buffer).2.stored = buffer.stored := by
  cases hrefuses : refuses (buffer.attempts + 1) with
  | true => simp [outlet, hrefuses]
  | false => simp [outlet, hrefuses] at h

namespace Request

/-! ## Operations -/

/-- Something that is done with a request and its outlet. -/
inductive Operation where
  | gather
  | label (numbers : List Int)
  | deliver (listing : Listing)
  /-- A whole run. -/
  | run
  | dryRun
  deriving DecidableEq

/-- What is answered to an operation. -/
inductive Answer where
  | numbers (answer : Except Fault (List Int))
  | listing (answer : Except Fault Listing)
  | destination (answer : Except Fault String)
  | summary (answer : Except Fault Summary)
  | report (answer : Except Fault String)

/-- Whether an operation was done, or the fault that ended it. -/
def Answer.outcome : Answer → Except Fault Unit
  | numbers answer => answer.map fun _ => ()
  | listing answer => answer.map fun _ => ()
  | destination answer => answer.map fun _ => ()
  | summary answer => answer.map fun _ => ()
  | report answer => answer.map fun _ => ()

/-- A log that nobody keeps. -/
def noLog (_ : Log.Event) : StateM Buffer Unit :=
  return ()

/-- Does one operation; `refuses` tells which attempts to write the buffer refuses. -/
def perform (request : Request) (refuses : Nat → Bool) : Operation → StateM Buffer Answer
  | .gather => return .numbers (← (request.stages noLog (Buffer.outlet refuses)).gather)
  | .label numbers =>
    return .listing (← (request.stages noLog (Buffer.outlet refuses)).label numbers)
  | .deliver listing =>
    return .destination (← (request.stages noLog (Buffer.outlet refuses)).deliver listing)
  | .run => return .summary (← request.run noLog (Buffer.outlet refuses))
  | .dryRun => return .report request.dryRun

def carryOut (request : Request) (refuses : Nat → Bool) (history : List Operation) :
    StateM Buffer (List Answer) :=
  history.mapM (request.perform refuses)

/-- The listing that an operation has to write, if any. A run has one if its request can be met. -/
def listing? (request : Request) : Operation → Option Listing
  | .deliver listing => some listing
  | .run => request.interval.toOption.map Interval.listing
  | .gather | .label _ | .dryRun => none

/-- The text that an operation has stored, by its answer. -/
def storedText? (request : Request) : Operation × Answer → Option String
  | (operation, answer) =>
    if answer.outcome.isOk then (request.listing? operation).map (·.render request.format) else none

variable (request : Request) (refuses : Nat → Bool)

/-! ## One operation -/

theorem perform_gather (buffer : Buffer) : request.perform refuses .gather buffer =
    (.numbers (request.interval.map Interval.numbers), buffer) := by
  simp only [perform, stages, gather, noLog, pure_bind]
  cases request.interval <;> rfl

/-- What needs an interval ends with the fault of the interval where there is none. -/
theorem perform_of_error {fault : Fault} (h : request.interval = .error fault)
    {operation : Operation} (hmem : operation ∈ [Operation.gather, .run, .dryRun])
    (buffer : Buffer) : (request.perform refuses operation buffer).1.outcome = .error fault ∧
      (request.perform refuses operation buffer).2 = buffer := by
  simp only [List.mem_cons, List.not_mem_nil, or_false] at hmem
  obtain rfl | rfl | rfl := hmem
  · rw [perform_gather, h]
    exact ⟨rfl, rfl⟩
  · simp only [perform, run_of_error _ _ h, noLog, pure_bind]
    exact ⟨rfl, rfl⟩
  · have hreport : request.dryRun = .error fault := by
      rw [Request.dryRun, h]
      rfl
    simp only [perform, hreport]
    exact ⟨rfl, rfl⟩

theorem perform_of_no_listing {operation : Operation} (h : request.listing? operation = none)
    (buffer : Buffer) : (request.perform refuses operation buffer).2 = buffer := by
  cases operation with
  | gather => rw [perform_gather]
  | label numbers => rfl
  | dryRun => rfl
  | deliver listing => cases h
  | run =>
    cases hi : request.interval with
    | ok i => simp [listing?, hi, Except.toOption] at h
    | error fault => exact (request.perform_of_error refuses hi (by simp) buffer).2

theorem interval_of_listing {request : Request} {listing : Listing}
    (h : request.listing? .run = some listing) :
    ∃ i, request.interval = .ok i ∧ listing = i.listing := by
  unfold listing? at h
  cases hi : request.interval with
  | error fault =>
    rw [hi] at h
    cases h
  | ok i =>
    rw [hi] at h
    cases h
    exact ⟨i, rfl, rfl⟩

/-- Whatever is answered to a write, the outcome is that of the write, for a buffer says without
effect what it is. -/
theorem outcome_of_write {α : Type} (answer : Except Fault α → Answer)
    (houtcome : ∀ result, (answer result).outcome = result.map fun _ => ())
    (value : String → α) (text : String) (buffer : Buffer) :
    let written : StateM Buffer (Except Fault α) := do
      match ← (Buffer.outlet refuses).write text with
      | .error fault => return .error fault
      | .ok () => return .ok (value (← (Buffer.outlet refuses).describe))
    let answered : StateM Buffer Answer := return answer (← written)
    ((answered buffer).1.outcome, (answered buffer).2) =
      (Buffer.outlet refuses).write text buffer := by
  simp only [Buffer.outlet, bind, StateT.bind]
  cases refuses (buffer.attempts + 1) with
  | true => exact Prod.ext (houtcome _) rfl
  | false => exact Prod.ext (houtcome _) rfl

/-- An operation that has a listing to write comes to one write of it. -/
theorem perform_of_listing {operation : Operation} {listing : Listing}
    (h : request.listing? operation = some listing) (buffer : Buffer) :
    ((request.perform refuses operation buffer).1.outcome,
        (request.perform refuses operation buffer).2) =
      (Buffer.outlet refuses).write (listing.render request.format) buffer := by
  cases operation with
  | gather => cases h
  | label numbers => cases h
  | dryRun => cases h
  | deliver given =>
    cases h
    exact outcome_of_write refuses Answer.destination (fun _ => rfl) id _ buffer
  | run =>
    obtain ⟨i, hi, rfl⟩ := interval_of_listing h
    simp only [perform, run_of_ok _ _ hi, noLog, pure_bind]
    exact outcome_of_write refuses Answer.summary (fun _ => rfl) (⟨i.length, ·⟩) _ buffer

variable {request refuses}

/-- What an operation can come to: nothing is attempted, or one write is attempted and refused, or
one is attempted and stored. -/
theorem perform_cases {operation : Operation} {buffer after : Buffer} {answer : Answer}
    (h : request.perform refuses operation buffer = (answer, after)) :
    (request.listing? operation = none ∧ after = buffer) ∨
      (∃ listing fault, request.listing? operation = some listing ∧
        answer.outcome = .error fault ∧ after = { buffer with attempts := buffer.attempts + 1 }) ∨
      ∃ listing, request.listing? operation = some listing ∧ answer.outcome = .ok () ∧
        after = ⟨buffer.attempts + 1, buffer.stored ++ [listing.render request.format]⟩ := by
  cases hlisting : request.listing? operation with
  | none =>
    have hsame := perform_of_no_listing request refuses hlisting buffer
    rw [h] at hsame
    exact .inl ⟨rfl, hsame⟩
  | some listing =>
    have hwrite := perform_of_listing request refuses hlisting buffer
    rw [h] at hwrite
    simp only [Buffer.outlet] at hwrite
    split at hwrite
    · obtain ⟨houtcome, hafter⟩ := Prod.mk.inj hwrite
      exact .inr (.inl ⟨listing, _, rfl, houtcome, hafter⟩)
    · obtain ⟨houtcome, hafter⟩ := Prod.mk.inj hwrite
      exact .inr (.inr ⟨listing, rfl, houtcome, hafter⟩)

/-- One operation counts as one attempt if it has a listing to write, and has stored the listing if
it was done. -/
theorem perform_accounts {operation : Operation} {buffer after : Buffer} {answer : Answer}
    (h : request.perform refuses operation buffer = (answer, after)) :
    after.attempts = buffer.attempts + (if (request.listing? operation).isSome then 1 else 0) ∧
      after.stored = buffer.stored ++ (request.storedText? (operation, answer)).toList := by
  obtain ⟨hlisting, rfl⟩ | ⟨listing, fault, hlisting, houtcome, rfl⟩ |
    ⟨listing, hlisting, houtcome, rfl⟩ := perform_cases h
  · simp [storedText?, hlisting]
  · simp [storedText?, hlisting, houtcome, Except.isOk, Except.toBool]
  · simp [storedText?, hlisting, houtcome, Except.isOk, Except.toBool]

/-! ## Whole histories -/

def deliveries (request : Request) (history : List Operation) : Nat :=
  history.countP fun operation => (request.listing? operation).isSome

/-- Listings are written by deliveries, and by runs if the request can be met. -/
theorem deliveries_eq (history : List Operation) :
    request.deliveries history = history.countP (fun operation => operation matches .deliver _) +
      (if request.interval.isOk then history.count .run else 0) := by
  have hrun : (request.listing? .run).isSome = request.interval.isOk := by
    unfold listing?
    cases request.interval <;> rfl
  unfold deliveries
  induction history with
  | nil => simp
  | cons operation history ih =>
    rw [List.countP_cons, List.countP_cons, List.count_cons, ih]
    cases operation with
    | gather => simp [listing?]
    | label numbers => simp [listing?]
    | deliver listing => simp [listing?, Nat.add_right_comm]
    | run =>
      rw [hrun]
      cases request.interval.isOk <;> simp [Nat.add_assoc]
    | dryRun => simp [listing?]

theorem carryOut_cons (operation : Operation) (history : List Operation) (buffer : Buffer) :
    request.carryOut refuses (operation :: history) buffer =
      let (answer, between) := request.perform refuses operation buffer
      let (answers, after) := request.carryOut refuses history between
      (answer :: answers, after) := by
  simp only [carryOut, List.mapM_cons]
  rfl

/-- The accounts of a history go on from those of the buffer that it finds. The induction is on the
operations, each of which settles its own part. -/
theorem carryOut_accounts {history : List Operation} {buffer after : Buffer} {answers : List Answer}
    (h : request.carryOut refuses history buffer = (answers, after)) :
    answers.length = history.length ∧
      after.attempts = buffer.attempts + request.deliveries history ∧
      after.stored = buffer.stored ++ (history.zip answers).filterMap request.storedText? := by
  induction history generalizing buffer answers with
  | nil =>
    cases h
    exact ⟨rfl, rfl, (List.append_nil _).symm⟩
  | cons operation history ih =>
    rw [carryOut_cons] at h
    rcases hperform : request.perform refuses operation buffer with ⟨answer, between⟩
    rcases hrest : request.carryOut refuses history between with ⟨later, last⟩
    simp only [hperform, hrest] at h
    cases h
    obtain ⟨hattempts, hstored⟩ := perform_accounts hperform
    obtain ⟨hlength, hattempts', hstored'⟩ := ih hrest
    refine ⟨congrArg (· + 1) hlength, ?_, ?_⟩
    · rw [hattempts', hattempts, deliveries, deliveries, List.countP_cons]
      omega
    · rw [hstored', hstored, List.append_assoc, List.zip_cons_cons, List.filterMap_cons]
      cases request.storedText? (operation, answer) <;> rfl

/-- What holds once a history has been carried out: of the buffer, and of whatever is done next. -/
structure Account (request : Request) (refuses : Nat → Bool) (history : List Operation)
    (answers : List Answer) (buffer : Buffer) : Prop where
  answered : answers.length = history.length
  /-- Every delivery, and every run of a request that can be met, has made one attempt. -/
  attempts : buffer.attempts = history.countP (fun operation => operation matches .deliver _) +
    (if request.interval.isOk then history.count .run else 0)
  /-- The listings of those attempts that were done are stored in order, and nothing else is. -/
  stored : buffer.stored = (history.zip answers).filterMap request.storedText?
  /-- What writes nothing is answered as it would be anywhere else. -/
  gather : request.perform refuses .gather buffer =
    (.numbers (request.interval.map Interval.numbers), buffer)
  label : ∀ numbers, request.perform refuses (.label numbers) buffer =
    (.listing (.ok (.ofNumbers numbers)), buffer)
  dryRun : request.perform refuses .dryRun buffer = (.report request.dryRun, buffer)
  /-- What needs an interval ends with the fault of the interval and attempts nothing. -/
  unmet : ∀ fault, request.interval = .error fault →
    ∀ operation ∈ [Operation.gather, .run, .dryRun],
      (request.perform refuses operation buffer).1.outcome = .error fault ∧
        (request.perform refuses operation buffer).2 = buffer
  /-- An attempt that is refused ends with the fault of the buffer and stores nothing. -/
  refused : ∀ operation listing fault, request.listing? operation = some listing →
    ((Buffer.outlet refuses).write (listing.render request.format) buffer).1 = .error fault →
      (request.perform refuses operation buffer).1.outcome = .error fault ∧
        (request.perform refuses operation buffer).2.stored = buffer.stored

/-- **Histories.** Whatever has been done with a request and a buffer, and whichever attempts the
buffer has refused, the accounts are in order. -/
theorem history_accounts (request : Request) (refuses : Nat → Bool) (history : List Operation) :
    let (answers, buffer) := request.carryOut refuses history {}
    request.Account refuses history answers buffer := by
  rcases h : request.carryOut refuses history {} with ⟨answers, buffer⟩
  obtain ⟨hanswered, hattempts, hstored⟩ := carryOut_accounts h
  rw [Nat.zero_add, deliveries_eq] at hattempts
  have hrefused {operation : Operation} {listing : Listing} {fault : Fault}
      (hlisting : request.listing? operation = some listing)
      (hwrite : ((Buffer.outlet refuses).write (listing.render request.format) buffer).1 =
        .error fault) :
      (request.perform refuses operation buffer).1.outcome = .error fault ∧
        (request.perform refuses operation buffer).2.stored = buffer.stored := by
    obtain ⟨houtcome, hafter⟩ := Prod.mk.inj (perform_of_listing request refuses hlisting buffer)
    exact ⟨houtcome.trans hwrite, hafter ▸ Buffer.stored_of_refused hwrite⟩
  exact {
    answered := hanswered
    attempts := hattempts
    stored := hstored
    gather := perform_gather request refuses buffer
    label := fun _ => rfl
    dryRun := rfl
    unmet := fun _ hfault _ hmem => perform_of_error request refuses hfault hmem buffer
    refused := fun _ _ _ hlisting hwrite => hrefused hlisting hwrite }

end Request

end Countoff
