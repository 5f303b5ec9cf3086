import Countoff.Proofs.Configuration
import Countoff.Proofs.Delivery
import Countoff.Proofs.FileTree
import Countoff.Proofs.Host

/-!
# How a run can fail

A run of a request that can be met gathers its integers and lists them in any case, and comes to one
write. What the outlet answers to that settles the rest (`Request.run_settles`), so a run of a valid
configuration fails if and only if the write does, and with the fault of the write
(`Configuration.run_fails_by_write`). An outlet for a valid path fails for reasons of storage alone,
and never for a NUL in the path (`Session.outlet_fault`).
-/

namespace Countoff

/-! ## What the outlet settles -/

namespace Outlet

variable {σ : Type}

/-- What a run with one text to write comes to: its answer, its calls on the outlet and the state
that the outlet is left in. -/
inductive Settles (outlet : Outlet (StateM σ)) (before : σ) (text : String) (count : Nat) :
    Except Fault Summary → List Call → σ → Prop where
  /-- The write is refused, and that ends the run. -/
  | refused {fault : Fault} {after : σ} (h : outlet.write text before = (.error fault, after)) :
    Settles outlet before text count (.error fault) [.write text] after
  /-- The text is taken, and the outlet is asked what it is. -/
  | taken {after : σ} (h : outlet.write text before = (.ok (), after)) :
    Settles outlet before text count (.ok ⟨count, (outlet.describe after).1⟩)
      [.write text, .describe] (outlet.describe after).2

/-- A run fails as its write does. -/
theorem Settles.eq_error_iff {outlet : Outlet (StateM σ)} {before after : σ} {text : String}
    {count : Nat} {result : Except Fault Summary} {calls : List Call}
    (h : outlet.Settles before text count result calls after) (fault : Fault) :
    result = .error fault ↔ (outlet.write text before).1 = .error fault := by
  cases h with
  | refused h => simp [h]
  | taken h => simp [h]

/-- An outlet that refuses the text is called no more. -/
theorem Settles.calls_of_refused {outlet : Outlet (StateM σ)} {before after : σ} {text : String}
    {count : Nat} {result : Except Fault Summary} {calls : List Call} {fault : Fault}
    (h : outlet.Settles before text count result calls after)
    (hrefused : (outlet.write text before).1 = .error fault) : calls = [.write text] := by
  cases h with
  | refused h => rfl
  | taken h =>
    rw [h] at hrefused
    cases hrefused

end Outlet

namespace Request

open Outlet (Watch)

variable {request : Request}

/-- The stages in front of the write are done, whatever the log and the outlet: integers are
gathered, and the listing has an entry for each. -/
structure Prepares (request : Request) (numbers : List Int) (listing : Listing) : Prop where
  gathers : ∀ {σ : Type} (log : Log.Event → StateM σ Unit) (outlet : Outlet (StateM σ)) (s : σ),
    ((request.stages log outlet).gather s).1 = .ok numbers
  labels : ∀ {σ : Type} (log : Log.Event → StateM σ Unit) (outlet : Outlet (StateM σ)) (s : σ),
    ((request.stages log outlet).label numbers s).1 = .ok listing
  counts : listing.length = numbers.length

section Interval

variable {i : Interval} (h : request.interval = .ok i)
include h

theorem prepares : request.Prepares i.numbers i.listing where
  gathers log outlet s := by
    simp only [stages, gather, h]
    rfl
  labels _ _ _ := rfl
  counts := Listing.length_ofNumbers _

/-- A run of a request that can be met comes to what the outlet makes of the listing. -/
theorem run_settles {σ : Type} (outlet : Outlet (StateM σ)) (before : σ) :
    let ran := request.run Watch.log outlet.watched ⟨before, [], []⟩
    outlet.Settles before (i.listing.render request.format) i.length ran.1 ran.2.calls
      ran.2.state := by
  rw [run_of_ok _ _ h]
  simp only [bind, StateT.bind, Watch.log, Outlet.watched]
  rcases hwrite : outlet.write (i.listing.render request.format) before with ⟨answer, after⟩
  cases answer with
  | error fault => exact .refused hwrite
  | ok _ => exact .taken hwrite

end Interval

/-- A run of a request that cannot be met has the fault of its interval and calls no outlet. -/
theorem run_untouched {fault : Fault} (h : request.interval = .error fault) {σ : Type}
    (outlet : Outlet (StateM σ)) (before : σ) :
    let ran := request.run Watch.log outlet.watched ⟨before, [], []⟩
    ran.1 = .error fault ∧ ran.2.calls = [] ∧ ran.2.state = before := by
  rw [run_of_error _ _ h]
  exact ⟨rfl, rfl, rfl⟩

end Request

/-! ## Faults of storage -/

theorem Check.nul_not_mem_of_path {field path : String} (h : Check.path field path = .ok ()) :
    '\x00' ∉ path.toList := by
  unfold Check.path at h
  split at h
  · cases h
  split at h
  · cases h
  · next hnul => simpa using hnul

/-- The outlet for a path without a NUL fails as storage does, and never for a NUL. -/
theorem Session.outlet_fault {path : Option String}
    (hpath : ∀ name, path = some name → '\x00' ∉ name.toList) {text : String} {session : Session}
    {fault : Fault} (h : ((host.outlet path).write text session).1 = .error fault) :
    ∃ problem, fault = .storage problem ∧ problem ≠ .nulInPath := by
  cases path with
  | none =>
    rw [outlet_write_none] at h
    cases hrefusal : session.refusal with
    | none =>
      rw [print_of_none hrefusal] at h
      cases h
    | some words =>
      rw [print_of_refusal hrefusal] at h
      cases h
      exact ⟨.other words, rfl, nofun⟩
  | some name =>
    have hnul := FileTree.write_ne_nulInPath (hpath name rfl) text session.tree
    rw [outlet_write_some] at h
    cases hwrite : (FileTree.write name text session.tree).1 with
    | ok _ =>
      rw [hwrite] at h
      cases h
    | error problem =>
      rw [hwrite] at h hnul
      cases h
      exact ⟨problem, rfl, fun hproblem => hnul (congrArg Except.error hproblem)⟩

namespace Configuration

open Outlet (Watch)

theorem interval_of_validate (configuration : Configuration)
    (h : configuration.validate = .ok ()) :
    (∃ i, configuration.request.interval = .ok i) ∧
      ∀ path, configuration.request.path = some path → '\x00' ∉ path.toList := by
  rw [validate_eq, Request.validate_eq_ok] at h
  exact ⟨h.1, fun path hpath => Check.nul_not_mem_of_path (h.2 path hpath)⟩

/-- **Only the outlet can fail** once a configuration is valid. The stages in front of the write are
done, and a run into any outlet answers with a fault if and only if the outlet does, and with the
same. The outlet that the configuration itself asks for, on a host in memory with any files and with
standard output open or not, has no other faults than those of storage, and not the one for a NUL in
its path. If a configuration is
invalid for its integers, on the other hand, a run has that very fault and does not touch the
outlet. -/
theorem run_fails_by_write (configuration : Configuration) :
    (configuration.validate = .ok () → ∃ numbers listing,
      configuration.request.Prepares numbers listing ∧
      (∀ {σ : Type} (outlet : Outlet (StateM σ)) (before : σ),
        let text := listing.render configuration.request.format
        let ran := configuration.request.run Watch.log outlet.watched ⟨before, [], []⟩
        outlet.Settles before text numbers.length ran.1 ran.2.calls ran.2.state ∧
          ∀ fault, ran.1 = .error fault ↔ (outlet.write text before).1 = .error fault) ∧
      ∀ (session : Session) (fault : Fault),
        let outlet := Session.host.outlet configuration.request.path
        (configuration.request.run Watch.log outlet.watched ⟨session, [], []⟩).1 = .error fault →
          ∃ problem, fault = .storage problem ∧ problem ≠ .nulInPath) ∧
    ∀ fault, configuration.request.interval = .error fault →
      ∀ {σ : Type} (outlet : Outlet (StateM σ)) (before : σ),
        let ran := configuration.request.run Watch.log outlet.watched ⟨before, [], []⟩
        ran.1 = .error fault ∧ ran.2.calls = [] ∧ ran.2.state = before := by
  refine ⟨fun hvalid => ?_, fun fault hfault σ outlet before =>
    Request.run_untouched hfault outlet before⟩
  obtain ⟨⟨i, hi⟩, hpath⟩ := configuration.interval_of_validate hvalid
  refine ⟨i.numbers, i.listing, Request.prepares hi, ?_, ?_⟩
  · intro σ outlet before
    rw [i.length_numbers]
    have hsettles := Request.run_settles hi outlet before
    exact ⟨hsettles, hsettles.eq_error_iff⟩
  · intro session fault outlet hfault
    have hsettles := Request.run_settles hi outlet session
    exact Session.outlet_fault hpath ((hsettles.eq_error_iff fault).1 hfault)

/-- Settings with a path, run into a buffer that refuses everything and onto a directory, options
without a path, whose standard output refuses everything, and options whose bounds stand in the wrong
order. -/
theorem run_fails_by_write_of_refusal :
    let settings : Configuration := .settings ⟨⟨1, 3, none⟩, some ⟨some .lines, some "out/a"⟩⟩
    let printing : Configuration := .options ⟨1, 3, false, .json, none, false⟩
    let options : Configuration := .options ⟨3, 1, false, .json, none, false⟩
    let buffer := Buffer.outlet fun _ => true
    let disordered := Check.disordered "range" 3 1
    let barred : Session :=
      .start ((FileTree.empty.put ["out"] .directory).put ["out", "a"] .directory)
    let closed : Session := { Session.start .empty with refusal := some "Broken pipe (os error 32)" }
    let onHost (configuration : Configuration) (session : Session) :=
      (configuration.request.run Watch.log
        (Session.host.outlet configuration.request.path).watched ⟨session, [], []⟩).1
    (settings.validate = .ok () ∧ ∃ numbers listing, settings.request.Prepares numbers listing ∧
      let ran := settings.request.run Watch.log buffer.watched ⟨{}, [], []⟩
      ran.1 = .error (.storage (.other "write 1 refused")) ∧
        ran.2.calls = [.write (listing.render .lines)]) ∧
      (onHost settings barred = .error (.storage .isDirectory) ∧
        ∃ problem, Fault.storage .isDirectory = .storage problem ∧ problem ≠ .nulInPath) ∧
      (printing.validate = .ok () ∧
        onHost printing closed = .error (.storage (.other "Broken pipe (os error 32)"))) ∧
      options.request.interval = .error disordered ∧
        let ran := options.request.run Watch.log buffer.watched ⟨{}, [], []⟩
        ran.1 = .error disordered ∧ ran.2.calls = [] ∧ ran.2.state = {} := by
  intro settings printing options buffer disordered barred closed onHost
  have hvalid : settings.validate = .ok () := by decide
  have hprinting : printing.validate = .ok () := by decide
  have hdisordered : options.request.interval = .error disordered := by decide
  refine ⟨⟨hvalid, ?_⟩, ?_, ⟨hprinting, ?_⟩, hdisordered,
    (run_fails_by_write options).2 _ hdisordered buffer {}⟩
  · obtain ⟨numbers, listing, hprepares, hrun, -⟩ := (run_fails_by_write settings).1 hvalid
    obtain ⟨hsettles, hfault⟩ := hrun buffer {}
    have hrefused : (buffer.write (listing.render .lines) {}).1 =
        .error (.storage (.other "write 1 refused")) := rfl
    exact ⟨numbers, listing, hprepares, (hfault _).2 hrefused, hsettles.calls_of_refused hrefused⟩
  · obtain ⟨numbers, listing, -, hrun, hstorage⟩ := (run_fails_by_write settings).1 hvalid
    have hrefused : ((Session.host.outlet (some "out/a")).write (listing.render .lines) barred).1 =
        .error (.storage .isDirectory) := by rfl
    have hfault := ((hrun (Session.host.outlet (some "out/a")) barred).2 _).2 hrefused
    exact ⟨hfault, hstorage barred _ hfault⟩
  · obtain ⟨numbers, listing, -, hrun, -⟩ := (run_fails_by_write printing).1 hprinting
    exact ((hrun (Session.host.outlet none) closed).2 _).2 rfl

end Configuration

end Countoff
