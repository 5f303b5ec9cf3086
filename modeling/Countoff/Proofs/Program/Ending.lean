import Countoff.Proofs.FileTree
import Countoff.Proofs.Program.Intake
import Countoff.Proofs.Request
import Mathlib.Logic.ExistsUnique

/-!
# How programs end

The outcome of a program is one of six, each with its exit code, its output and its effect on files
(`Ending.Holds`). What brings one of them about rules out the others, and the response to every
intake that can arise is the one that the intake calls for (`Intake.ending_holds`), so every run
has exactly one ending (`existsUnique_ending`). All this is with a standard output that takes what is
printed. One that refuses the listing ends a program as a file does that cannot be written
(`run_refused`).
-/

namespace Countoff

open Session (Outcome outcome)

namespace Program

/-! ## Intakes -/

theorem ofText_exitCode {text : String} {fault : Fault} (h : Settings.ofText text = .error fault) :
    fault.exitCode = 1 := by
  unfold Settings.ofText at h
  cases hparse : Settings.parse text with
  | error problem =>
    rw [hparse] at h
    cases h
    rfl
  | ok settings =>
    rw [hparse] at h
    cases h

/-- What is known of an intake: only the program with a configuration file reads one and can be
told to rehearse, whatever is wrong with a request or with the text of a file has the exit code
one, and a request that is accepted has an interval. -/
def Intake.Proper (front : Front) : Intake → Prop
  | stopped _ => True
  | unreadable _ _ => front = .file
  | rejected _ fault => fault.exitCode = 1
  | invalid fault => fault.exitCode = 1
  | accepted request dryRun => (∃ i, request.interval = .ok i) ∧ (dryRun = true → front = .file)

theorem Intake.ofOptions_proper (options : CommandLine.RangeOptions) :
    (ofOptions options).Proper .commandLine := by
  unfold ofOptions
  cases hvalidate : options.validate with
  | error fault => exact (Request.validate_blames hvalidate).exitCode
  | ok _ => exact ⟨(Request.validate_eq_ok.mp hvalidate).1, nofun⟩

theorem Intake.ofFile_proper (options : CommandLine.FileOptions)
    (outcome : Except StorageProblem String) : (ofFile options outcome).Proper .file := by
  cases outcome with
  | error problem => rfl
  | ok text =>
    cases hsettings : Settings.ofText text with
    | error fault =>
      simp only [ofFile, hsettings]
      exact ofText_exitCode hsettings
    | ok settings =>
      cases hvalidate : settings.validate with
      | error fault =>
        simp only [ofFile, hsettings, hvalidate]
        exact (Request.validate_blames hvalidate).exitCode
      | ok _ =>
        simp only [ofFile, hsettings, hvalidate]
        exact ⟨(Request.validate_eq_ok.mp hvalidate).1, fun _ => rfl⟩

theorem Front.intake_proper (front : Front) (tree : FileTree) (arguments : List String) :
    (front.intake tree arguments).Proper front := by
  cases front with
  | commandLine =>
    unfold intake
    cases CommandLine.RangeOptions.parse arguments with
    | error stop => trivial
    | ok options => exact Intake.ofOptions_proper options
  | file =>
    unfold intake
    cases CommandLine.FileOptions.parse arguments with
    | error stop => trivial
    | ok options => exact Intake.ofFile_proper options _

/-! ## Endings -/

/-- The ways in which a program can end. -/
inductive Ending where
  /-- The arguments are misused, or ask for help. -/
  | stopped
  /-- The configuration file cannot be read. -/
  | unreadable
  /-- The text of the file is rejected, or the request is not valid. -/
  | unusable
  /-- It was said what a valid request would do. -/
  | rehearsed
  /-- The listing was printed. -/
  | printed
  /-- The listing was written to a file, or the file refused it. -/
  | filed
  deriving DecidableEq

/-- Nothing was printed and no file or directory was touched. -/
def LeavesAlone (tree : FileTree) (outcome : Outcome) : Prop :=
  outcome.printed = "" ∧ outcome.tree = tree

/-- Nothing was printed, and a file was given its whole text, or else no file was changed or made.
-/
def Files (path text : String) (tree : FileTree) (outcome : Outcome) : Prop :=
  outcome.printed = "" ∧
    ((outcome.code = 0 ∧ outcome.tree.readFile path.toList = .ok text.toUTF8) ∨
      (outcome.code = 3 ∧ ∀ route content,
        outcome.tree.at? route = some (.file content) ↔ tree.at? route = some (.file content)))

/-- What brings an ending about, and what the outcome is then. -/
def Ending.Holds (front : Front) (arguments : List String) (tree : FileTree) (outcome : Outcome) :
    Ending → Prop
  | stopped =>
    (∃ misuse, front.intake tree arguments = .stopped (.misuse misuse) ∧
      outcome.code = 2 ∧ LeavesAlone tree outcome) ∨
    ∃ detailed, front.intake tree arguments = .stopped (.help detailed) ∧
      outcome.code = 0 ∧ outcome.printed = front.help detailed ∧ outcome.tree = tree
  | unreadable =>
    ∃ path problem, front = .file ∧ front.intake tree arguments = .unreadable path problem ∧
      outcome.code = 3 ∧ LeavesAlone tree outcome
  | unusable =>
    ((∃ path fault, front.intake tree arguments = .rejected path fault) ∨
      ∃ fault, front.intake tree arguments = .invalid fault) ∧
      outcome.code = 1 ∧ LeavesAlone tree outcome
  | rehearsed =>
    ∃ request, front = .file ∧ front.intake tree arguments = .accepted request true ∧
      outcome.code = 0 ∧ LeavesAlone tree outcome
  | printed =>
    ∃ request i, front.intake tree arguments = .accepted request false ∧ request.path = none ∧
      request.interval = .ok i ∧ outcome.code = 0 ∧
      outcome.printed = i.listing.render request.format ∧ outcome.tree = tree
  | filed =>
    ∃ request i path, front.intake tree arguments = .accepted request false ∧
      request.path = some path ∧ request.interval = .ok i ∧
      Files path (i.listing.render request.format) tree outcome

/-- The ending that an intake leads to. -/
def Intake.ending : Intake → Ending
  | stopped _ => .stopped
  | unreadable _ _ => .unreadable
  | rejected _ _ | invalid _ => .unusable
  | accepted _ true => .rehearsed
  | accepted request false => if request.path.isSome then .filed else .printed

/-- What brings an ending about does not bring about another. -/
theorem Ending.Holds.eq_ending {front : Front} {arguments : List String} {tree : FileTree}
    {outcome : Outcome} {ending : Ending} (h : ending.Holds front arguments tree outcome) :
    ending = (front.intake tree arguments).ending := by
  cases ending with
  | stopped =>
    obtain ⟨misuse, hintake, -⟩ | ⟨detailed, hintake, -⟩ := h
    · rw [hintake]
      rfl
    · rw [hintake]
      rfl
  | unreadable =>
    obtain ⟨path, problem, -, hintake, -⟩ := h
    rw [hintake]
    rfl
  | unusable =>
    obtain ⟨⟨path, fault, hintake⟩ | ⟨fault, hintake⟩, -⟩ := h
    · rw [hintake]
      rfl
    · rw [hintake]
      rfl
  | rehearsed =>
    obtain ⟨request, -, hintake, -⟩ := h
    rw [hintake]
    rfl
  | printed =>
    obtain ⟨request, i, hintake, hpath, -⟩ := h
    rw [hintake, Intake.ending, hpath]
    rfl
  | filed =>
    obtain ⟨request, i, path, hintake, hpath, -⟩ := h
    rw [hintake, Intake.ending, hpath]
    rfl

/-! ## Outcomes -/

theorem outcome_complain (fault : Fault) (tree : FileTree) :
    (outcome (complain Session.host fault) tree).code = fault.exitCode ∧
      LeavesAlone tree (outcome (complain Session.host fault) tree) :=
  ⟨rfl, rfl, rfl⟩

theorem outcome_abandon (path : String) (fault : Fault) (tree : FileTree) :
    (outcome (abandon Session.host path fault) tree).code = fault.exitCode ∧
      LeavesAlone tree (outcome (abandon Session.host path fault) tree) :=
  ⟨rfl, rfl, rfl⟩

theorem outcome_answer_help (help : Bool → String) (detailed : Bool) (tree : FileTree) :
    (outcome (answer Session.host help (.help detailed)) tree).code = 0 ∧
      (outcome (answer Session.host help (.help detailed)) tree).printed = help detailed ∧
      (outcome (answer Session.host help (.help detailed)) tree).tree = tree :=
  ⟨rfl, String.empty_append, rfl⟩

section Fulfil

variable {request : Request} {i : Interval} (hi : request.interval = .ok i) (tree : FileTree)
include hi

theorem outcome_announce :
    (outcome (announce request) tree).code = 0 ∧
      LeavesAlone tree (outcome (announce request) tree) := by
  unfold announce Request.dryRun
  rw [hi]
  exact ⟨rfl, rfl, rfl⟩

theorem outcome_fulfil_of_none (hpath : request.path = none) :
    (outcome (fulfil request) tree).code = 0 ∧
      (outcome (fulfil request) tree).printed = i.listing.render request.format ∧
      (outcome (fulfil request) tree).tree = tree := by
  unfold fulfil
  simp only [hi, hpath]
  exact ⟨rfl, String.empty_append, rfl⟩

theorem outcome_fulfil_of_some {path : String} (hpath : request.path = some path) :
    Files path (i.listing.render request.format) tree (outcome (fulfil request) tree) := by
  rcases hwrite : FileTree.write path (i.listing.render request.format) tree with ⟨answer, later⟩
  cases answer with
  | error problem =>
    have hrun : fulfil request (.start tree) =
        complain Session.host (.storage problem) ⟨later, "", [], none⟩ := by
      simp only [fulfil, hi, hpath, bind, StateT.bind, Session.outlet_write_some, Session.start,
        hwrite]
      rfl
    rw [outcome, hrun]
    exact ⟨rfl, .inr ⟨rfl, FileTree.file_iff_of_write_error hwrite⟩⟩
  | ok _ =>
    have hrun : fulfil request (.start tree) = (exitDone, ⟨later, "", [], none⟩) := by
      simp only [fulfil, hi, hpath, bind, StateT.bind, Session.outlet_write_some, Session.start,
        hwrite]
      rfl
    rw [outcome, hrun]
    exact ⟨rfl, .inl ⟨rfl, FileTree.readFile_of_write_ok hwrite⟩⟩

end Fulfil

theorem notices_complain (fault : Fault) (session : Session) :
    (complain Session.host fault session).2.notices =
      session.notices ++ [s!"❌ {fault.notice}", s!"💡 {fault.suggestion}"] := by
  show (Session.host.remark (.notice _) (Session.host.remark (.notice _) session).2).2.notices = _
  rw [Session.notices_append, Session.notices_append, List.append_assoc]
  rfl

/-- A program whose listing is refused by standard output fails for reasons of storage and says so,
and touches nothing. -/
theorem run_refused {front : Front} {arguments : List String} {session : Session} {words : String}
    {request : Request} (hrefusal : session.refusal = some words)
    (hintake : front.intake session.tree arguments = .accepted request false)
    (hpath : request.path = none) (filter : Option String) :
    let fault : Fault := .storage (.other words)
    let (code, after) := front.run filter arguments session
    code = 3 ∧ after.printed = session.printed ∧ after.tree = session.tree ∧
      after.notices = session.notices ++ [s!"❌ {fault.notice}", s!"💡 {fault.suggestion}"] := by
  intro fault
  obtain ⟨i, hi⟩ : ∃ i, request.interval = .ok i := by
    have hproper := front.intake_proper session.tree arguments
    rw [hintake] at hproper
    exact hproper.1
  have hfulfil : fulfil request session = complain Session.host fault session := by
    simp only [fulfil, hi, hpath, bind_apply, Session.outlet_write_none,
      Session.print_of_refusal hrefusal]
    rfl
  have hrespond : (front.intake session.tree arguments).respond front session =
      complain Session.host fault session := by
    rw [hintake]
    exact hfulfil
  obtain ⟨hcode, halike⟩ := front.run_agree filter arguments session session (.refl session)
  dsimp only at hcode halike
  rw [hrespond] at hcode halike
  exact ⟨hcode, halike.printed, halike.tree,
    halike.notices.trans (notices_complain fault session)⟩

/-- An intake that can arise brings about the ending that it leads to. -/
theorem Intake.ending_holds {front : Front} {arguments : List String} {tree : FileTree}
    {intake : Intake} (hproper : intake.Proper front)
    (hintake : front.intake tree arguments = intake) :
    intake.ending.Holds front arguments tree (outcome (intake.respond front) tree) := by
  cases intake with
  | stopped stop =>
    cases stop with
    | misuse misuse => exact .inl ⟨misuse, hintake, rfl, rfl, rfl⟩
    | help detailed => exact .inr ⟨detailed, hintake, outcome_answer_help front.help detailed tree⟩
  | unreadable path problem =>
    exact ⟨path, problem, hproper, hintake, outcome_abandon path (.storage problem) tree⟩
  | rejected path fault =>
    obtain ⟨hcode, halone⟩ := outcome_abandon path fault tree
    exact ⟨.inl ⟨path, fault, hintake⟩, hcode.trans hproper, halone⟩
  | invalid fault =>
    obtain ⟨hcode, halone⟩ := outcome_complain fault tree
    exact ⟨.inr ⟨fault, hintake⟩, hcode.trans hproper, halone⟩
  | accepted request dryRun =>
    obtain ⟨⟨i, hi⟩, hfront⟩ := hproper
    cases dryRun with
    | true => exact ⟨request, hfront rfl, hintake, outcome_announce hi tree⟩
    | false =>
      cases hpath : request.path with
      | none =>
        rw [ending, hpath]
        exact ⟨request, i, hintake, hpath, hi, outcome_fulfil_of_none hi tree hpath⟩
      | some path =>
        rw [ending, hpath]
        exact ⟨request, i, path, hintake, hpath, hi, outcome_fulfil_of_some hi tree hpath⟩

/-- **Every run has exactly one ending**, whatever its arguments, the filter of its log and the tree
that it finds. Nothing but help and the listing is ever printed, and only a listing that was asked
for in a file touches the tree. -/
theorem existsUnique_ending (front : Front) (filter : Option String) (arguments : List String)
    (tree : FileTree) :
    ∃! ending : Ending,
      ending.Holds front arguments tree (outcome (front.run filter arguments) tree) := by
  rw [front.outcome_run filter arguments tree]
  refine ⟨(front.intake tree arguments).ending, ?_, fun ending h => h.eq_ending⟩
  exact Intake.ending_holds (front.intake_proper tree arguments) rfl

end Program

end Countoff
