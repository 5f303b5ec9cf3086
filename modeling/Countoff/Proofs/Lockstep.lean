import Countoff.Run

/-!
# Programs in lockstep

Two programs keep step under a relation between their states if, from states that are related, they
give the same answer and come to states that are related again (`Lockstep`). Programs that keep step
one after the other do so as a whole (`Lockstep.bind`), and so do runs whose stages do
(`Stages.run_lockstep`). A request says what its stages are but for the log and the outlet, so its
runs keep step wherever these do (`Request.run_lockstep`).
-/

namespace Countoff

variable {σ τ : Type}

theorem bind_apply {α β : Type} (x : StateM σ α) (f : α → StateM σ β) (s : σ) :
    (x >>= f) s = f (x s).1 (x s).2 :=
  rfl

/-- Two programs, each on a state of its own, cannot be told apart by their answers, and keep a
relation between the states. -/
def Lockstep (R : σ → τ → Prop) {α : Type} (x : StateM σ α) (y : StateM τ α) : Prop :=
  ∀ s t, R s t → (x s).1 = (y t).1 ∧ R (x s).2 (y t).2

namespace Lockstep

variable {R : σ → τ → Prop} {α β : Type}

theorem pure (a : α) : Lockstep R (Pure.pure a) (Pure.pure a) :=
  fun _ _ hst => ⟨rfl, hst⟩

theorem bind {x : StateM σ α} {y : StateM τ α} (hxy : Lockstep R x y) {f : α → StateM σ β}
    {g : α → StateM τ β} (hfg : ∀ a, Lockstep R (f a) (g a)) :
    Lockstep R (x >>= f) (y >>= g) := by
  intro s t hst
  obtain ⟨hanswer, hstates⟩ := hxy s t hst
  rw [bind_apply, bind_apply, hanswer]
  exact hfg _ _ _ hstates

end Lockstep

variable {R : σ → τ → Prop} {log : Log.Event → StateM σ Unit} {log' : Log.Event → StateM τ Unit}

/-- Runs keep step if their logs and their stages do. -/
theorem Stages.run_lockstep {stages : Stages (StateM σ)} {stages' : Stages (StateM τ)}
    (hlog : ∀ event, Lockstep R (log event) (log' event))
    (hgather : Lockstep R stages.gather stages'.gather)
    (hlabel : ∀ numbers, Lockstep R (stages.label numbers) (stages'.label numbers))
    (hdeliver : ∀ listing, Lockstep R (stages.deliver listing) (stages'.deliver listing)) :
    Lockstep R (stages.run log) (stages'.run log') := by
  unfold run
  refine (hlog _).bind fun _ => hgather.bind fun gathered => ?_
  cases gathered with
  | error fault => exact .pure _
  | ok numbers =>
    refine (hlog _).bind fun _ => (hlabel numbers).bind fun labelled => ?_
    cases labelled with
    | error fault => exact .pure _
    | ok listing =>
      show Lockstep R (ite _ _ _) (ite _ _ _)
      split
      · refine (hlog _).bind fun _ => (hdeliver listing).bind fun delivered => ?_
        cases delivered with
        | error fault => exact .pure _
        | ok destination => exact (hlog _).bind fun _ => .pure _
      · exact .pure _

/-- Runs of one request keep step if their logs and their outlets do. -/
theorem Request.run_lockstep {outlet : Outlet (StateM σ)} {outlet' : Outlet (StateM τ)}
    (request : Request) (hlog : ∀ event, Lockstep R (log event) (log' event))
    (hwrite : ∀ text, Lockstep R (outlet.write text) (outlet'.write text))
    (hdescribe : Lockstep R outlet.describe outlet'.describe) :
    Lockstep R (request.run log outlet) (request.run log' outlet') := by
  refine Stages.run_lockstep hlog ?_ (fun numbers => .pure _) fun listing => ?_
  · simp only [stages, gather]
    cases request.interval with
    | error fault => exact .pure _
    | ok i => exact (hlog _).bind fun _ => .pure _
  · simp only [stages, deliver]
    refine (hlog _).bind fun _ => (hwrite _).bind fun written => ?_
    cases written with
    | error fault => exact .pure _
    | ok _ => exact hdescribe.bind fun _ => .pure _

end Countoff
