import Countoff.Outlet.Buffer
import Countoff.Proofs.Format.Plain
import Countoff.Proofs.Interval
import Countoff.Proofs.Run

/-!
# What a run delivers

A run of a request that can be met writes once, and what it writes is read back as the integers
that the bounds of the request mean, each with the text that the rule of the game gives it
(`run_delivers_span`). The outlet may be any machine with a state: a run is watched from outside by
an outlet that notes every call in passing (`Outlet.watched`).
-/

namespace Countoff

/-! ## Watching an outlet -/

namespace Outlet

/-- A call on an outlet. -/
inductive Call where
  | write (text : String)
  | describe
  deriving DecidableEq

/-- What is seen of a run from outside. -/
structure Watch (σ : Type) where
  /-- The state of the outlet. -/
  state : σ
  /-- The calls on the outlet, in order. -/
  calls : List Call
  /-- What the log was told, in order. -/
  events : List Log.Event

/-- A log that keeps all that it is told, and touches nothing else. -/
def Watch.log {σ : Type} (event : Log.Event) : StateM (Watch σ) Unit := fun watch =>
  ((), { watch with events := watch.events ++ [event] })

/-- An outlet whose calls are noted. -/
def watched {σ : Type} (outlet : Outlet (StateM σ)) : Outlet (StateM (Watch σ)) where
  write text := fun watch =>
    let (outcome, state) := outlet.write text watch.state
    (outcome, { watch with state, calls := watch.calls ++ [.write text] })
  describe := fun watch =>
    let (name, state) := outlet.describe watch.state
    (name, { watch with state, calls := watch.calls ++ [.describe] })

end Outlet

/-! ## What is read back -/

/-- Bytes that a reader of a format reads as `numbers` in order, each with its text. -/
def Format.Shows (bytes : ByteArray) (numbers : List Int) : Format → Prop
  | .json =>
    Text.readBytes Json.readArray bytes = some (numbers.map fun n => (byDivisors n).toList)
  | .lines =>
    Text.readBytes (some ∘ Lines.read) bytes = some (numbers.map fun n => (byDivisors n).toList)
  | .csv =>
    Text.readBytes Csv.read bytes = some (["number".toList, "label".toList] ::
      numbers.map fun n => [(toString n).toList, (byDivisors n).toList])

theorem Listing.labelChars_ofNumbers (numbers : List Int) :
    (ofNumbers numbers).labelChars = numbers.map fun n => (byDivisors n).toList := by
  simp [labelChars, ofNumbers, callOut_eq]

theorem Listing.rows_ofNumbers (numbers : List Int) :
    (ofNumbers numbers).rows =
      numbers.map fun n => [(toString n).toList, (byDivisors n).toList] := by
  simp [rows, ofNumbers, callOut_eq]

/-- A listing that calls out integers is read back in every format. -/
theorem Listing.shows_render (numbers : List Int) (format : Format) :
    format.Shows ((ofNumbers numbers).render format).toUTF8 numbers := by
  cases format with
  | json =>
    simp only [Format.Shows]
    rw [← labelChars_ofNumbers]
    exact readBytes_json (ofNumbers numbers)
  | lines =>
    simp only [Format.Shows]
    rw [← labelChars_ofNumbers]
    exact readBytes_lines numbers
  | csv =>
    simp only [Format.Shows]
    rw [render, Text.readBytes_toUTF8, ← rows_ofNumbers]
    exact read_tableChars _

namespace Request

open Outlet (Watch)

/-- **What a run delivers.** A request that can be met has a text, which is read back as the
integers of its span in ascending order, each with the text that the rule gives it. On every outlet
that takes this text, the run writes it and writes nothing else; it answers with the number of
integers in the span and with what the outlet calls itself once it has the text. -/
theorem run_delivers_span {request : Request} {i : Interval} (h : request.interval = .ok i) :
    ∃ text : String, request.format.Shows text.toUTF8 request.span.sort ∧
      ∀ {σ : Type} (outlet : Outlet (StateM σ)) (before after : σ),
        outlet.write text before = (.ok (), after) →
        let (result, watch) := request.run Watch.log outlet.watched ⟨before, [], []⟩
        result = .ok ⟨request.span.card, (outlet.describe after).1⟩ ∧
          watch.calls = [.write text, .describe] ∧ watch.state = (outlet.describe after).2 := by
  refine ⟨i.listing.render request.format, ?_, ?_⟩
  · rw [← numbers_eq_sort h]
    exact Listing.shows_render i.numbers request.format
  · intro σ outlet before after hwrite
    rw [run_of_ok _ _ h, ← length_eq_card h]
    simp only [bind, StateT.bind, Watch.log, Outlet.watched, hwrite]
    exact ⟨rfl, rfl, rfl⟩

/-- A run across zero into a buffer that refuses nothing. -/
theorem run_delivers_span_across_zero :
    let request : Request := ⟨-3, 5, true, .csv, none⟩
    request.interval = .ok ⟨-3, 6, by decide, by decide, by decide, by decide⟩ ∧
      ∃ text : String, Format.csv.Shows text.toUTF8 request.span.sort ∧
        let (result, watch) :=
          request.run Watch.log (Buffer.outlet fun _ => false).watched ⟨{}, [], []⟩
        result = .ok ⟨9, "buffer#1"⟩ ∧ watch.calls = [.write text, .describe] ∧
          watch.state = ⟨1, [text]⟩ := by
  have hinterval : (⟨-3, 5, true, .csv, none⟩ : Request).interval =
      .ok ⟨-3, 6, by decide, by decide, by decide, by decide⟩ := by decide
  have hcard : (⟨-3, 5, true, .csv, none⟩ : Request).span.card = 9 := by decide
  obtain ⟨text, hshows, hrun⟩ := run_delivers_span hinterval
  have hwrite : (Buffer.outlet fun _ => false).write text {} = (.ok (), ⟨1, [text]⟩) := rfl
  have hdescribe : ((Buffer.outlet fun _ => false).describe ⟨1, [text]⟩).1 = "buffer#1" := by
    show toString "buffer#" ++ toString 1 = "buffer#1"
    decide
  have h := hrun (Buffer.outlet fun _ => false) {} ⟨1, [text]⟩ hwrite
  rw [hcard, hdescribe] at h
  exact ⟨hinterval, text, hshows, h⟩

end Request

end Countoff
