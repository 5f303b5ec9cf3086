import Countoff.Program
import Countoff.Proofs.Host
import Countoff.Proofs.Run

/-!
# Programs without their log

What a program does, but for the log, is settled by its intake: what it makes of its arguments and
of the file that they name (`Front.intake`). A program agrees with the response to its intake,
which never speaks to the log (`Front.run_agree`), so neither the filter nor anything that is logged
has a part in the outcome (`Front.outcome_run`).
-/

namespace Countoff

open Session (Agree outcome)

namespace Program

variable {filter : Log.Filter} {target : String}

theorem agree_log (event : Log.Event) : Agree (log Session.host filter event) (pure ()) := by
  unfold log
  split
  · exact Session.agree_pure_of_log event
  · exact .pure ()

/-- A program agrees with what is left of it without something for the log. -/
theorem agree_log_bind {α : Type} {event : Log.Event} {x y : StateM Session α} (h : Agree x y) :
    Agree (do log Session.host filter event; x) y :=
  (agree_log event).bind fun _ => h

section Kept

variable {R : Session → Session → Prop} (hR : Session.Kept R)
include hR

theorem complain_lockstep (fault : Fault) :
    Lockstep R (complain Session.host fault) (complain Session.host fault) :=
  (hR.notice _).bind fun _ => (hR.notice _).bind fun _ => .pure _

theorem abandon_lockstep (path : String) (fault : Fault) :
    Lockstep R (abandon Session.host path fault) (abandon Session.host path fault) :=
  (hR.notice _).bind fun _ => (hR.notice _).bind fun _ => .pure _

theorem load_lockstep (path : String) :
    Lockstep R (load Session.host path) (load Session.host path) := by
  refine (hR.read path).bind fun read => ?_
  cases read with
  | error problem => exact .pure _
  | ok text => exact .pure _

theorem answer_lockstep (help : Bool → String) (stop : CommandLine.Stop) :
    Lockstep R (answer Session.host help stop) (answer Session.host help stop) := by
  cases stop with
  | help detailed => exact (hR.print _).bind fun _ => .pure _
  | misuse misuse => exact (hR.notice _).bind fun _ => .pure _

end Kept

theorem agree_complain (fault : Fault) :
    Agree (complain Session.host fault) (complain Session.host fault) :=
  complain_lockstep Session.alike_kept fault

theorem agree_abandon (path : String) (fault : Fault) :
    Agree (abandon Session.host path fault) (abandon Session.host path fault) :=
  abandon_lockstep Session.alike_kept path fault

/-! ## What a program makes of its arguments -/

/-- The two programs, by where their requests come from. -/
inductive Front where
  | commandLine
  | file
  deriving DecidableEq

namespace Front

/-- The program on a machine in memory. -/
def run : Front → Option String → List String → StateM Session Nat
  | commandLine => byOptions Session.host
  | file => byFile Session.host

def help : Front → Bool → String
  | commandLine => CommandLine.RangeOptions.help
  | file => fun _ => CommandLine.FileOptions.help

end Front

/-- What a program makes of its arguments, and of the file that they name. -/
inductive Intake where
  /-- The arguments give no configuration. -/
  | stopped (stop : CommandLine.Stop)
  /-- The configuration file could not be read. -/
  | unreadable (path : String) (problem : StorageProblem)
  /-- The text of the configuration file gives no settings. -/
  | rejected (path : String) (fault : Fault)
  /-- The request cannot be met. -/
  | invalid (fault : Fault)
  /-- The request can be met; it may be asked what that would do. -/
  | accepted (request : Request) (dryRun : Bool)

namespace Intake

/-- What is made of a request by options. -/
def ofOptions (options : CommandLine.RangeOptions) : Intake :=
  match options.validate with
  | .error fault => .invalid fault
  | .ok () => .accepted options.request false

/-- What is made of a configuration file, by what came of reading it. -/
def ofFile (options : CommandLine.FileOptions) : Except StorageProblem String → Intake
  | .error problem => .unreadable options.config problem
  | .ok text =>
    match Settings.ofText text with
    | .error fault => .rejected options.config fault
    | .ok settings =>
      match settings.validate with
      | .error fault => .invalid fault
      | .ok () => .accepted settings.request options.dryRun

end Intake

/-- What a program makes of its arguments in a tree. -/
def Front.intake (tree : FileTree) (arguments : List String) : Front → Intake
  | commandLine =>
    match CommandLine.RangeOptions.parse arguments with
    | .error stop => .stopped stop
    | .ok options => .ofOptions options
  | file =>
    match CommandLine.FileOptions.parse arguments with
    | .error stop => .stopped stop
    | .ok options => .ofFile options (tree.read options.config)

theorem intake_of_options {options : CommandLine.RangeOptions} {arguments : List String}
    (tree : FileTree) (h : CommandLine.RangeOptions.parse arguments = .ok options) :
    Front.commandLine.intake tree arguments = .ofOptions options := by
  rw [Front.intake, h]

theorem intake_file {options : CommandLine.FileOptions} {arguments : List String}
    (tree : FileTree) (h : CommandLine.FileOptions.parse arguments = .ok options) :
    Front.file.intake tree arguments = .ofFile options (tree.read options.config) := by
  rw [Front.intake, h]

/-- A file whose text gives valid settings is taken as their request. -/
theorem Intake.ofFile_of_valid {text : String} {settings : Settings}
    (hsettings : Settings.ofText text = .ok settings) (hvalid : settings.validate = .ok ())
    (options : CommandLine.FileOptions) :
    ofFile options (.ok text) = .accepted settings.request options.dryRun := by
  simp only [ofFile, hsettings, hvalid]

/-- Meets a request: the listing of its integers is written once. -/
def fulfil (request : Request) : StateM Session Nat :=
  match request.interval with
  | .error fault => complain Session.host fault
  | .ok i => do
    match ← (Session.host.outlet request.path).write (i.listing.render request.format) with
    | .error fault => complain Session.host fault
    | .ok () => return exitDone

/-- Says what meeting a request would do. -/
def announce (request : Request) : StateM Session Nat :=
  match request.dryRun with
  | .error fault => complain Session.host fault
  | .ok report => do
    Session.host.remark (.notice s!"🔍 {report}")
    return exitDone

/-- What a program does after its intake, but for the log. -/
def Intake.respond (front : Front) : Intake → StateM Session Nat
  | stopped stop => answer Session.host front.help stop
  | unreadable path problem => abandon Session.host path (.storage problem)
  | rejected path fault => abandon Session.host path fault
  | invalid fault => complain Session.host fault
  | accepted request true => announce request
  | accepted request false => fulfil request

/-! ## Programs without their log -/

theorem agree_reject (fault : Fault) :
    Agree (reject Session.host filter target fault) (complain Session.host fault) :=
  agree_log_bind (agree_complain fault)

theorem agree_rehearse (request : Request) :
    Agree (rehearse Session.host filter request) (announce request) := by
  unfold rehearse announce
  cases request.dryRun with
  | error fault => exact agree_log_bind (agree_complain fault)
  | ok report => exact (Session.agree_remark _).bind fun _ => .pure _

theorem agree_perform (request : Request) :
    Agree (perform Session.host filter target request) (fulfil request) := by
  unfold perform fulfil
  cases hi : request.interval with
  | error fault =>
    rw [Request.run_of_error _ _ hi]
    simp only [bind_assoc, pure_bind]
    exact agree_log_bind (agree_log_bind (agree_complain fault))
  | ok i =>
    rw [Request.run_of_ok _ _ hi]
    simp only [bind_assoc]
    refine agree_log_bind (agree_log_bind (agree_log_bind (agree_log_bind (agree_log_bind ?_))))
    refine (Session.alike_kept.outlet_write _ _).bind fun written => ?_
    cases written with
    | error fault =>
      rw [pure_bind]
      exact agree_log_bind (agree_complain fault)
    | ok _ =>
      -- both outlets answer without effect what they are
      have hdescribe : ∃ destination, (Session.host.outlet request.path).describe =
          pure destination := by
        cases request.path with
        | none => exact ⟨_, rfl⟩
        | some path => exact ⟨_, rfl⟩
      obtain ⟨destination, hdescribe⟩ := hdescribe
      simp only [hdescribe, bind_assoc, pure_bind]
      exact agree_log_bind (agree_log_bind (.pure exitDone))

/-- Apart from the log, a program does what its intake asks for, whatever the filter. -/
theorem Front.run_agree (front : Front) (filter : Option String) (arguments : List String) :
    Agree (front.run filter arguments) fun session =>
      (front.intake session.tree arguments).respond front session := by
  cases front with
  | commandLine =>
    simp only [Front.run, Front.intake, byOptions]
    cases CommandLine.RangeOptions.parse arguments with
    | error stop => exact answer_lockstep Session.alike_kept _ stop
    | ok options =>
      refine agree_log_bind (agree_log_bind ?_)
      simp only [Intake.ofOptions]
      cases options.validate with
      | error fault => exact agree_reject fault
      | ok _ => exact agree_perform options.request
  | file =>
    simp only [Front.run, Front.intake, byFile]
    cases CommandLine.FileOptions.parse arguments with
    | error stop => exact answer_lockstep Session.alike_kept _ stop
    | ok options =>
      refine agree_log_bind ?_
      simp only [load, bind_assoc]
      refine Session.agree_read_bind options.config
        (g := fun outcome => (Intake.ofFile options outcome).respond .file) fun outcome => ?_
      cases outcome with
      | error problem => exact agree_abandon options.config (.storage problem)
      | ok text =>
        simp only [pure_bind, Intake.ofFile]
        cases Settings.ofText text with
        | error fault => exact agree_abandon options.config fault
        | ok settings =>
          cases hvalidate : settings.validate with
          | error fault =>
            simp only [hvalidate]
            exact agree_reject fault
          | ok _ =>
            simp only [hvalidate]
            cases options.dryRun with
            | false => exact agree_perform settings.request
            | true => exact agree_rehearse settings.request

/-- All that can be seen of a run but the log is settled by the intake. -/
theorem Front.outcome_run (front : Front) (filter : Option String) (arguments : List String)
    (tree : FileTree) : outcome (front.run filter arguments) tree =
      outcome ((front.intake tree arguments).respond front) tree :=
  (front.run_agree filter arguments).outcome_eq tree

end Program

end Countoff
