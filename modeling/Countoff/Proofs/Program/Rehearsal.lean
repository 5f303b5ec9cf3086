import Countoff.Proofs.CommandLine.FileOptions
import Countoff.Proofs.Program.Ending
import Countoff.Proofs.Run.Faults

/-!
# Rehearsals

A dry run and the real run go by two paths through the program: one says in words what a run would
do, the other runs. They tell of the same thing (`Program.rehearsal_foretells`). Whatever stops the
one stops the other in the same way, and where the dry run comes to a report, the real run does what
the report says. That is seen in two places. The run that the program makes is watched from its
outlet (`Plan.Followed`), and watching it changes nothing (`Request.run_watched`); and when the
program has ended, the listing of the plan was printed, or is in the file at its destination
(`Plan.Delivered`).
-/

namespace Countoff

open CommandLine (FileOptions)
open Session (Alike Outcome outcome)

/-! ## Plans -/

/-- What a dry run says that a run would do. -/
structure Plan where
  /-- How many entries the listing has. -/
  count : Nat
  start : Int
  stop : Int
  format : Format
  destination : String

namespace Plan

def bounds (plan : Plan) : String :=
  s!"{plan.start}..{plan.stop}"

/-- The words in which a dry run tells a plan. -/
def report (plan : Plan) : String :=
  s!"Dry run: would classify {plan.count} numbers ({plan.bounds}) as " ++
    s!"{plan.format.title} into {plan.destination}"

/-- The listing of the integers between the bounds of a plan, in ascending order. -/
noncomputable def listing (plan : Plan) : Listing :=
  .ofNumbers (Finset.Ico plan.start plan.stop).sort

end Plan

/-- The text of a call that writes one. -/
def Outlet.Call.text? : Outlet.Call → Option String
  | .write text => some text
  | .describe => none

/-- A run that does what a plan says, by its calls on the outlet and its answer. -/
structure Plan.Followed (plan : Plan) (calls : List Outlet.Call) (result : Except Fault Summary) :
    Prop where
  /-- One text is written, which is the listing of the plan in the format of the plan. -/
  written : calls.filterMap Outlet.Call.text? = [plan.listing.render plan.format]
  /-- The text is read back as the integers between the bounds, each with the text that the rule gives
  it. -/
  shows : plan.format.Shows (plan.listing.render plan.format).toUTF8
    (Finset.Ico plan.start plan.stop).sort
  count : plan.listing.length = plan.count
  /-- A run that succeeds sums up what the plan says. -/
  summary : ∀ summary, result = .ok summary → summary = ⟨plan.count, plan.destination⟩

/-- What a program leaves behind that does what a plan says, by the path that it was given, if any.
Without one it succeeds, and the listing is all that it printed. With one it prints nothing, and the
listing is what the file at the path holds, unless the file refused it. -/
def Plan.Delivered (plan : Plan) (tree : FileTree) (real : Outcome) : Option String → Prop
  | none =>
    plan.destination = "stdout" ∧ real.code = 0 ∧
      real.printed = plan.listing.render plan.format ∧ real.tree = tree
  | some path =>
    plan.destination = path ∧ Program.Files path (plan.listing.render plan.format) tree real

/-- What a request with an interval plans to do. -/
def Request.plan (request : Request) (i : Interval) : Plan :=
  ⟨i.length, i.start, i.stop, request.format, request.destination⟩

theorem Request.dryRun_eq {request : Request} {i : Interval} (h : request.interval = .ok i) :
    request.dryRun = .ok (request.plan i).report := by
  simp only [dryRun, h, bind, Except.bind]
  rfl

theorem Request.listing_plan (request : Request) (i : Interval) :
    (request.plan i).listing = i.listing := by
  rw [Interval.listing, i.numbers_eq_sort]
  rfl

/-! ## Watching the run of a program -/

/-- Does something that is no call on an outlet. -/
def Outlet.Watch.quietly {σ α : Type} (action : StateM σ α) : StateM (Outlet.Watch σ) α :=
  fun watch =>
    let (answer, state) := action watch.state
    (answer, { watch with state })

/-- A run that is watched answers as it does without being watched, and leaves the same state. -/
theorem Request.run_watched {σ : Type} (request : Request) (log : Log.Event → StateM σ Unit)
    (outlet : Outlet (StateM σ)) :
    Lockstep (fun (watch : Outlet.Watch σ) state => watch.state = state)
      (request.run (fun event => Outlet.Watch.quietly (log event)) outlet.watched)
      (request.run log outlet) := by
  refine request.run_lockstep (fun event => ?_) (fun text => ?_) ?_
  · rintro watch _ rfl
    exact ⟨rfl, rfl⟩
  · rintro watch _ rfl
    exact ⟨rfl, rfl⟩
  · rintro watch _ rfl
    exact ⟨rfl, rfl⟩

theorem Session.describe_outlet (path : Option String) (s : Session) :
    (host.outlet path).describe s = (path.getD "stdout", s) := by
  cases path <;> rfl

namespace Program

variable {filter : Log.Filter} {request : Request}

/-- Two watches on sessions that are alike have seen the same calls. -/
structure SameCalls (v w : Outlet.Watch Session) : Prop where
  calls : v.calls = w.calls
  alike : Alike v.state w.state

/-- The run that a program makes has the calls that it would have without the log of the program. -/
theorem run_sameCalls (filter : Log.Filter) (request : Request) :
    let outlet := (Session.host.outlet request.path).watched
    Lockstep SameCalls
      (request.run (fun event => Outlet.Watch.quietly (log Session.host filter event)) outlet)
      (request.run Outlet.Watch.log outlet) := by
  refine request.run_lockstep (fun event => ?_) (fun text => ?_) ?_
  · intro v w h
    exact ⟨rfl, h.calls, (agree_log event _ _ h.alike).2⟩
  · intro v w h
    obtain ⟨hanswer, halike⟩ := Session.alike_kept.outlet_write request.path text _ _ h.alike
    exact ⟨hanswer, congrArg (· ++ [_]) h.calls, halike⟩
  · intro v w h
    simp only [Outlet.watched, Session.describe_outlet]
    exact ⟨trivial, congrArg (· ++ [_]) h.calls, h.alike⟩

/-- The run that a program makes of a request with an interval comes to what the outlet makes of the
listing. -/
theorem run_settles (filter : Log.Filter) {i : Interval} (h : request.interval = .ok i)
    (session : Session) :
    let outlet := Session.host.outlet request.path
    let ran := request.run (fun event => Outlet.Watch.quietly (log Session.host filter event))
      outlet.watched ⟨session, [], []⟩
    ∃ after, outlet.Settles session (i.listing.render request.format) i.length ran.1 ran.2.calls
      after := by
  intro outlet ran
  obtain ⟨hresult, hcalls, -⟩ :=
    run_sameCalls filter request ⟨session, [], []⟩ ⟨session, [], []⟩ ⟨rfl, .refl session⟩
  let logged := request.run Outlet.Watch.log outlet.watched ⟨session, [], []⟩
  refine ⟨logged.2.state, ?_⟩
  rw [show ran.1 = logged.1 from hresult, show ran.2.calls = logged.2.calls from hcalls]
  exact Request.run_settles h outlet session

/-- The run of a request with an interval follows the plan of the request. -/
theorem followed_of_settles {i : Interval} {session after : Session}
    {result : Except Fault Summary} {calls : List Outlet.Call}
    (h : (Session.host.outlet request.path).Settles session (i.listing.render request.format)
      i.length result calls after) : (request.plan i).Followed calls result where
  written := by
    rw [request.listing_plan]
    cases h with
    | refused h => rfl
    | taken h => rfl
  shows := Listing.shows_render _ _
  count := by
    rw [request.listing_plan, i.length_listing]
    rfl
  summary summary hsummary := by
    cases h with
    | refused h => cases hsummary
    | taken h =>
      rw [Session.describe_outlet] at hsummary
      cases hsummary
      rfl

/-- The session of a program that has told the log which file it reads, and done nothing else. -/
def opening (chosen : Log.Filter) (options : FileOptions) (tree : FileTree) : Session :=
  (log Session.host chosen
    ⟨.info, fileTarget, s!"📁 Loading configuration from: {options.config}"⟩ (.start tree)).2

/-- The program with a configuration file makes a run of a request, which calls its outlet so and
answers so. All that the program does from its opening on is that run, for the request of the
settings in the file, and then the words that it ends with. Watched, the run comes to the same. -/
def Runs (filter : Option String) (arguments : List String) (tree : FileTree) (request : Request)
    (calls : List Outlet.Call) (result : Except Fault Summary) : Prop :=
  ∃ options text settings, FileOptions.parse arguments = .ok options ∧
    tree.read options.config = .ok text ∧ Settings.ofText text = .ok settings ∧
    settings.request = request ∧
    let chosen := Log.Filter.choose filter options.verbose
    let session := opening chosen options tree
    let outlet := Session.host.outlet request.path
    let run := request.run (log Session.host chosen) outlet
    let watched := request.run (fun event => Outlet.Watch.quietly (log Session.host chosen event))
      outlet.watched ⟨session, [], []⟩
    Front.file.run filter arguments (.start tree) =
        (run >>= conclude Session.host chosen fileTarget) session ∧
      run session = (watched.1, watched.2.state) ∧
      watched.1 = result ∧ watched.2.calls = calls

theorem conclude_code (target : String) (result : Except Fault Summary) (session : Session) :
    (conclude Session.host filter target result session).1 =
      match result with
      | .ok _ => exitDone
      | .error fault => fault.exitCode := by
  cases result with
  | error fault => rfl
  | ok summary => rfl

/-- What the response to a request with an interval leaves behind is what the request plans. -/
theorem fulfil_delivered {i : Interval} (hi : request.interval = .ok i) (tree : FileTree) :
    (request.plan i).Delivered tree (outcome (fulfil request) tree) request.path := by
  have hdestination : (request.plan i).destination = request.path.getD "stdout" := rfl
  cases hpath : request.path with
  | none =>
    rw [hpath] at hdestination
    rw [Plan.Delivered, request.listing_plan]
    exact ⟨hdestination, outcome_fulfil_of_none hi tree hpath⟩
  | some path =>
    rw [hpath] at hdestination
    rw [Plan.Delivered, request.listing_plan]
    exact ⟨hdestination, outcome_fulfil_of_some hi tree hpath⟩

section Real

variable {options : FileOptions} {arguments : List String} {tree : FileTree} {text : String}
  {settings : Settings} (hparse : FileOptions.parse arguments = .ok options)
  (hreal : options.dryRun = false) (hread : tree.read options.config = .ok text)
  (hsettings : Settings.ofText text = .ok settings) (hvalid : settings.validate = .ok ())
include hparse hreal hread hsettings hvalid

/-- A program with a configuration file that gives valid settings comes to a run of their request,
and ends by that. -/
theorem run_eq_conclude (filter : Option String) :
    let chosen := Log.Filter.choose filter options.verbose
    let outlet := Session.host.outlet settings.request.path
    Front.file.run filter arguments (.start tree) =
      (settings.request.run (log Session.host chosen) outlet >>=
        conclude Session.host chosen fileTarget) (opening chosen options tree) := by
  intro chosen outlet
  have htree : (opening chosen options tree).tree = tree := (agree_log _ _ _ (.refl _)).2.tree
  have hload : load Session.host options.config (opening chosen options tree) =
      (.ok settings, opening chosen options tree) := by
    have hfound : Session.host.read options.config (opening chosen options tree) =
        (.ok text, opening chosen options tree) := by
      show ((opening chosen options tree).tree.read options.config, _) = _
      rw [htree, hread]
    rw [load, bind_apply, hfound, ← hsettings]
    rfl
  simp only [Front.run, byFile, hparse]
  rw [bind_apply]
  show (load Session.host options.config >>= _) (opening chosen options tree) = _
  rw [bind_apply, hload]
  simp only [hvalid, hreal]
  rfl

/-- The program leaves behind what the request plans. -/
theorem run_delivered (filter : Option String) {i : Interval}
    (hi : settings.request.interval = .ok i) :
    (settings.request.plan i).Delivered tree (outcome (Front.file.run filter arguments) tree)
      settings.request.path := by
  have hintake : Front.file.intake tree arguments = .accepted settings.request false := by
    rw [intake_file tree hparse, hread, Intake.ofFile_of_valid hsettings hvalid, hreal]
  rw [Front.outcome_run, hintake]
  exact fulfil_delivered hi tree

/-- The run follows the plan of the request. If it fails, it fails for reasons of storage, and the
exit code tells whether it does. -/
theorem runs_plan (filter : Option String) {i : Interval}
    (hi : settings.request.interval = .ok i) :
    let code := (outcome (Front.file.run filter arguments) tree).code
    ∃ calls result, Runs filter arguments tree settings.request calls result ∧
      (settings.request.plan i).Followed calls result ∧
      (code = 0 ∧ (∃ summary, result = .ok summary) ∨
        code = 3 ∧ ∃ fault, result = .error fault) := by
  intro code
  have hrun := run_eq_conclude hparse hreal hread hsettings hvalid filter
  let chosen := Log.Filter.choose filter options.verbose
  let session := opening chosen options tree
  let outlet := Session.host.outlet settings.request.path
  let ran := settings.request.run
    (fun event => Outlet.Watch.quietly (log Session.host chosen event)) outlet.watched
    ⟨session, [], []⟩
  obtain ⟨hresult, hstate⟩ := settings.request.run_watched (log Session.host chosen) outlet
    ⟨session, [], []⟩ session rfl
  obtain ⟨after, hsettles⟩ := run_settles chosen hi session
  refine ⟨ran.2.calls, ran.1, ⟨options, text, settings, hparse, hread, hsettings, rfl, hrun,
    Prod.ext hresult.symm hstate.symm, rfl, rfl⟩, followed_of_settles hsettles, ?_⟩
  have hcode : code = match ran.1 with
      | .ok _ => exitDone
      | .error fault => fault.exitCode := by
    show (Front.file.run filter arguments (.start tree)).1 = _
    rw [hrun, bind_apply, conclude_code, hresult]
  rw [hcode]
  cases hran : ran.1 with
  | ok summary => exact .inl ⟨rfl, summary, rfl⟩
  | error fault =>
    have hpath := (Configuration.interval_of_validate (.settings settings) hvalid).2
    have hrefused := (hsettles.eq_error_iff fault).1 hran
    obtain ⟨problem, rfl, -⟩ := Session.outlet_fault hpath hrefused
    exact .inr ⟨rfl, _, rfl⟩

end Real

/-! ## What a dry run tells -/

/-- What the outcome of a dry run tells of the real run, which has the same arguments but for the
flag. -/
structure Foretells (filter : Option String) (arguments : List String) (tree : FileTree)
    (dry real : Outcome) : Prop where
  alone : LeavesAlone tree dry
  /-- A dry run that fails fails as the real run does. -/
  refused : dry.code ≠ 0 → real = dry
  /-- A dry run that succeeds reports a plan. The real run follows it and delivers what it says, and
  can still fail in one way. -/
  accepted : dry.code = 0 → (real.code = 0 ∨ real.code = 3) ∧
    ∃ (plan : Plan) (request : Request) (calls : List Outlet.Call) (result : Except Fault Summary),
      dry.notices = [s!"🔍 {plan.report}"] ∧ Runs filter arguments tree request calls result ∧
      plan.Followed calls result ∧ plan.Delivered tree real request.path ∧
      (real.code = 0 ↔ ∃ summary, result = .ok summary)

theorem exitCode_ne_zero (fault : Fault) : fault.exitCode ≠ 0 := by
  rw [Fault.exitCode]
  cases fault.severity <;> decide

theorem outcome_announce_notices {i : Interval} (hi : request.interval = .ok i) (tree : FileTree) :
    (outcome (announce request) tree).notices = [s!"🔍 {(request.plan i).report}"] := by
  simp only [announce, Request.dryRun_eq hi]
  rfl

/-- Whether a run is a dry one counts only where there is a request that can be met. Anything else
that is made of a configuration file ends with a fault, and leaves everything alone. -/
theorem Intake.ofFile_cases (options : FileOptions) (read : Except StorageProblem String) :
    (∃ (intake : Intake) (fault : Fault),
      (∀ dryRun, ofFile { options with dryRun } read = intake) ∧
      ∀ tree, (outcome (intake.respond .file) tree).code = fault.exitCode ∧
        LeavesAlone tree (outcome (intake.respond .file) tree)) ∨
    ∃ text settings, read = .ok text ∧ Settings.ofText text = .ok settings ∧
      settings.validate = .ok () ∧
      ∀ dryRun, ofFile { options with dryRun } read = .accepted settings.request dryRun := by
  cases read with
  | error problem =>
    exact .inl ⟨.unreadable options.config problem, .storage problem, fun _ => rfl,
      outcome_abandon options.config (.storage problem)⟩
  | ok text =>
    simp only [ofFile]
    cases hsettings : Settings.ofText text with
    | error fault =>
      exact .inl ⟨.rejected options.config fault, fault, fun _ => rfl,
        outcome_abandon options.config fault⟩
    | ok settings =>
      cases hvalid : settings.validate with
      | error fault =>
        simp only [hvalid]
        exact .inl ⟨.invalid fault, fault, fun _ => rfl, outcome_complain fault⟩
      | ok _ => exact .inr ⟨text, settings, rfl, hsettings, hvalid, fun _ => by simp only [hvalid]⟩

/-- **A dry run foretells the real run.** For any arguments that are accepted, with the flag at any
place among them and without it, any filter and any tree, the dry run tells how the real run ends:
it fails in the same way, or it names the number of entries, the bounds, the format and the
destination that the real run turns out to have, both in what it writes and in what it leaves
behind. -/
theorem rehearsal_foretells {before after : List String} {options planned : FileOptions}
    (hparse : FileOptions.parse (before ++ after) = .ok options) (hreal : options.dryRun = false)
    (hplanned : FileOptions.parse (before ++ "--dry-run" :: after) = .ok planned)
    (filter : Option String) (tree : FileTree) :
    Foretells filter (before ++ after) tree
      (outcome (Front.file.run filter (before ++ "--dry-run" :: after)) tree)
      (outcome (Front.file.run filter (before ++ after)) tree) := by
  have hflag := FileOptions.parse_dryRun hparse hplanned
  subst hflag
  have hdry := Front.outcome_run .file filter (before ++ "--dry-run" :: after) tree
  rw [intake_file tree hplanned] at hdry
  obtain ⟨intake, fault, hsame, hends⟩ | ⟨text, settings, hread, hsettings, hvalid, haccepted⟩ :=
    Intake.ofFile_cases options (tree.read options.config)
  · rw [hsame true] at hdry
    have hintake : Front.file.intake tree (before ++ after) = intake := by
      rw [intake_file tree hparse, ← hsame false, ← hreal]
    rw [hdry, Front.outcome_run, hintake]
    obtain ⟨hcode, halone⟩ := hends tree
    have hfailed : (outcome (intake.respond .file) tree).code ≠ 0 := by
      rw [hcode]
      exact exitCode_ne_zero fault
    exact ⟨halone, fun _ => rfl, fun hdone => absurd hdone hfailed⟩
  · rw [haccepted true] at hdry
    rw [hdry]
    obtain ⟨i, hi⟩ := (Request.validate_eq_ok.mp hvalid).1
    obtain ⟨calls, result, hruns, hfollowed, hcode⟩ :=
      runs_plan hparse hreal hread hsettings hvalid filter hi
    obtain ⟨hdone, halone⟩ := outcome_announce hi tree
    refine ⟨halone, fun hfailed => absurd hdone hfailed, fun _ => ⟨hcode.imp And.left And.left,
      settings.request.plan i, settings.request, calls, result, outcome_announce_notices hi tree,
      hruns, hfollowed, run_delivered hparse hreal hread hsettings hvalid filter hi, ?_⟩⟩
    obtain ⟨hzero, hresult⟩ | ⟨hthree, fault, rfl⟩ := hcode
    · exact ⟨fun _ => hresult, fun _ => hzero⟩
    · simp [hthree]

/-- A dry run of an empty range, with the flag between the name of the file and another flag, and
the real run. -/
theorem rehearsal_foretells_of_nothing :
    let tree := FileTree.empty.put ["a.toml"] (.file "range = [4, 4, false]".toUTF8)
    let dry := outcome (Front.file.run none ["-c", "a.toml", "--dry-run", "-v"]) tree
    let real := outcome (Front.file.run none ["-c", "a.toml", "-v"]) tree
    FileOptions.parse ["-c", "a.toml", "-v"] = .ok ⟨"a.toml", true, false⟩ ∧
      FileOptions.parse ["-c", "a.toml", "--dry-run", "-v"] = .ok ⟨"a.toml", true, true⟩ ∧
      (dry.code = 0 ∧
        dry.notices = ["🔍 Dry run: would classify 0 numbers (4..4) as Json into stdout"]) ∧
      (real.code = 0 ∧ real.printed = "[]\n") ∧
      Foretells none ["-c", "a.toml", "-v"] tree dry real := by
  intro tree dry real
  have hparse : FileOptions.parse (["-c", "a.toml"] ++ ["-v"]) = .ok ⟨"a.toml", true, false⟩ := by
    rfl
  have hplanned : FileOptions.parse (["-c", "a.toml"] ++ "--dry-run" :: ["-v"]) =
      .ok ⟨"a.toml", true, true⟩ := by
    rfl
  have hread : tree.read "a.toml" = .ok "range = [4, 4, false]" := by rfl
  have hsettings : Settings.ofText "range = [4, 4, false]" =
      .ok ⟨⟨4, 4, some false⟩, none⟩ := by
    rfl
  have hvalid : (⟨⟨4, 4, some false⟩, none⟩ : Settings).validate = .ok () := by rfl
  refine ⟨hparse, hplanned, ?_, ?_, rehearsal_foretells hparse rfl hplanned none tree⟩
  · have hdry : dry = outcome (announce ⟨4, 4, false, .json, none⟩) tree := by
      show outcome (Front.file.run none (["-c", "a.toml"] ++ "--dry-run" :: ["-v"])) tree = _
      rw [Front.outcome_run, intake_file tree hplanned, hread,
        Intake.ofFile_of_valid hsettings hvalid]
      rfl
    rw [hdry]
    exact ⟨rfl, rfl⟩
  · have hreal : real = outcome (fulfil ⟨4, 4, false, .json, none⟩) tree := by
      show outcome (Front.file.run none (["-c", "a.toml"] ++ ["-v"])) tree = _
      rw [Front.outcome_run, intake_file tree hparse, hread,
        Intake.ofFile_of_valid hsettings hvalid]
      rfl
    rw [hreal]
    exact ⟨rfl, rfl⟩

end Program

end Countoff
