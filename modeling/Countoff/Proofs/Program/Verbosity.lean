import Countoff.Proofs.CommandLine.FileOptions
import Countoff.Proofs.CommandLine.RangeOptions
import Countoff.Proofs.Format.Lines
import Countoff.Proofs.Log.Filter
import Countoff.Proofs.Program.Intake
import Mathlib.Data.List.Flatten

/-!
# What verbose output and filters change

A flag for verbose output and a filter for the log change the log and nothing else
(`Program.verbosity_invisible`; for the flag put in at any place, `Program.flag_invisible`): the
intake of a program is settled without them, and a program that fails says so in any case
(`Intake.told`). Where no filter is given, verbose output only adds to what is said. The program with
it and the program without it go side by side, and the one has always said what the other has and
perhaps more (`Session.Within`); for that, every event that the terse filter lets through has to pass
the verbose one too (`Log.Filter.admits_standard`).
-/

namespace Countoff

open CommandLine (FileOptions RangeOptions)
open Session (outcome)

/-! ## Sessions that say more -/

namespace Session

/-- All that was written besides what was printed: every remark, with a line feed behind it. -/
def stderr (session : Session) : List Char :=
  Lines.lines (session.remarks.map fun remark => remark.text.toList)

def stderrLines (session : Session) : List (List Char) :=
  Lines.read session.stderr

/-- One session is the same as another, but that it perhaps has fewer remarks. -/
structure Within (s t : Session) : Prop where
  tree : s.tree = t.tree
  printed : s.printed = t.printed
  refusal : s.refusal = t.refusal
  remarks : s.remarks.Sublist t.remarks

theorem Within.refl (s : Session) : Within s s :=
  ⟨rfl, rfl, rfl, .refl _⟩

theorem Within.stderrLines {s t : Session} (h : Within s t) :
    s.stderrLines.Sublist t.stderrLines := by
  unfold Session.stderrLines stderr
  rw [Lines.read_lines_flatMap, Lines.read_lines_flatMap]
  exact (h.remarks.map _).flatMap _

theorem remark_within (remark : Remark) :
    Lockstep Within (host.remark remark) (host.remark remark) :=
  fun _ _ h => ⟨rfl, h.tree, h.printed, h.refusal, h.remarks.append (.refl _)⟩

theorem within_kept : Kept Within where
  tree h := h.tree
  write path text := by
    intro s t h
    show (FileTree.write path text s.tree).1 = (FileTree.write path text t.tree).1 ∧
      Within { s with tree := (FileTree.write path text s.tree).2 }
        { t with tree := (FileTree.write path text t.tree).2 }
    rw [h.tree]
    exact ⟨rfl, rfl, h.printed, h.refusal, h.remarks⟩
  print text := print_lockstep Within.refusal fun h =>
    ⟨h.tree, congrArg (· ++ text) h.printed, h.refusal, h.remarks⟩
  notice text := remark_within (.notice text)

end Session

namespace Program

open Session (Within)

/-! ## What is asked on a command line -/

/-- What a program is asked on its command line. -/
inductive Asked where
  | options (given : RangeOptions)
  | file (given : FileOptions)

namespace Asked

/-- The same, asked with verbose output or without. -/
def withVerbose (verbose : Bool) : Asked → Asked
  | options given => options { given with verbose }
  | file given => file { given with verbose }

def intake (tree : FileTree) : Asked → Intake
  | options given => .ofOptions given
  | file given => .ofFile given (tree.read given.config)

/-- Verbose output has no part in what is made of the rest. -/
theorem intake_withVerbose (tree : FileTree) (verbose : Bool) (asked : Asked) :
    (asked.withVerbose verbose).intake tree = asked.intake tree := by
  cases asked <;> rfl

theorem withVerbose_withVerbose (first second : Bool) (asked : Asked) :
    (asked.withVerbose first).withVerbose second = asked.withVerbose second := by
  cases asked <;> rfl

end Asked

namespace Front

/-- What a program is asked, by arguments that are accepted and do not ask for help. -/
def asked? (arguments : List String) : Front → Option Asked
  | commandLine => (RangeOptions.parse arguments).toOption.map .options
  | file => (FileOptions.parse arguments).toOption.map .file

variable {front : Front} {arguments : List String} {asked : Asked}

theorem intake_of_asked (h : front.asked? arguments = some asked) (tree : FileTree) :
    front.intake tree arguments = asked.intake tree := by
  cases front with
  | commandLine =>
    obtain ⟨given, hparse, rfl⟩ := map_toOption_eq_some.1 h
    exact intake_of_options tree hparse
  | file =>
    obtain ⟨given, hparse, rfl⟩ := map_toOption_eq_some.1 h
    exact intake_file tree hparse

/-- But for the log, a program does what it is asked, with verbose output or without. -/
theorem outcome_of_asked {verbose : Bool}
    (h : front.asked? arguments = some (asked.withVerbose verbose)) (filter : Option String)
    (tree : FileTree) : outcome (front.run filter arguments) tree =
      outcome ((asked.intake tree).respond front) tree := by
  rw [front.outcome_run, intake_of_asked h, Asked.intake_withVerbose]

theorem spells_verbose {α : Type} {opt : CommandLine.Opt α} {flag : String}
    (hname : opt.name = "verbose") (hletter : opt.letter = some 'v')
    (hflag : flag = "--verbose" ∨ flag = "-v") : opt.Spells none [flag] := by
  obtain rfl | rfl := hflag
  · have hlong : "--verbose" = "--" ++ opt.name := by rw [hname]; rfl
    rw [hlong]
    exact .flag
  · exact .letter 'v' hletter

/-- Putting the flag for verbose output anywhere among the arguments asks for the same, with verbose
output. -/
theorem asked?_with_flag {before after : List String} {changed : Asked} {flag : String}
    (hflag : flag = "--verbose" ∨ flag = "-v") (h : front.asked? (before ++ after) = some asked)
    (h' : front.asked? (before ++ flag :: after) = some changed) :
    changed = asked.withVerbose true := by
  cases front with
  | commandLine =>
    have hspells : RangeOptions.verboseOption.Spells none [flag] := spells_verbose rfl rfl hflag
    obtain ⟨given, hparse, rfl⟩ := map_toOption_eq_some.1 h
    obtain ⟨given', hparse', rfl⟩ := map_toOption_eq_some.1 h'
    exact congrArg Asked.options (RangeOptions.parse_verbose hspells hparse hparse')
  | file =>
    have hspells : FileOptions.verboseOption.Spells none [flag] := spells_verbose rfl rfl hflag
    obtain ⟨given, hparse, rfl⟩ := map_toOption_eq_some.1 h
    obtain ⟨given', hparse', rfl⟩ := map_toOption_eq_some.1 h'
    exact congrArg Asked.file (FileOptions.parse_verbose hspells hparse hparse')

end Front

/-! ## Faults are told in any case -/

/-- What the person at the terminal is told of a fault. -/
inductive Told (fault : Fault) : List String → Prop where
  | complaint : Told fault [s!"❌ {fault.notice}", s!"💡 {fault.suggestion}"]
  /-- The fault is that of a configuration file. -/
  | abandoned (path : String) : Told fault
    [s!"❌ Failed to load config file '{path}': {fault.message}",
      "💡 Make sure the file exists and is valid TOML format"]

theorem remarks_outlet_write (path : Option String) (text : String) (s : Session) :
    ((Session.host.outlet path).write text s).2.remarks = s.remarks := by
  cases path with
  | some path => rfl
  | none =>
    rw [Session.outlet_write_none]
    cases hrefusal : s.refusal with
    | some words => rw [Session.print_of_refusal hrefusal]
    | none => rw [Session.print_of_none hrefusal]

/-- A program that fails after its arguments were accepted tells of a fault, by which it ends. -/
theorem Intake.told {intake : Intake} (hgoes : ∀ stop, intake ≠ .stopped stop) (front : Front)
    (tree : FileTree) (hcode : (outcome (intake.respond front) tree).code ≠ 0) :
    ∃ fault, (outcome (intake.respond front) tree).code = fault.exitCode ∧
      Told fault (outcome (intake.respond front) tree).notices := by
  cases intake with
  | stopped stop => exact absurd rfl (hgoes stop)
  | unreadable path problem => exact ⟨.storage problem, rfl, .abandoned path⟩
  | rejected path fault => exact ⟨fault, rfl, .abandoned path⟩
  | invalid fault => exact ⟨fault, rfl, .complaint⟩
  | accepted request dryRun =>
    cases dryRun with
    | true =>
      simp only [respond, announce] at hcode ⊢
      cases hreport : request.dryRun with
      | error fault => exact ⟨fault, rfl, .complaint⟩
      | ok report =>
        rw [hreport] at hcode
        exact absurd rfl hcode
    | false =>
      rw [respond, fulfil] at hcode ⊢
      cases hi : request.interval with
      | error fault => exact ⟨fault, rfl, .complaint⟩
      | ok i =>
        simp only [hi] at hcode ⊢
        have hremarks :=
          remarks_outlet_write request.path (i.listing.render request.format) (.start tree)
        rw [outcome] at hcode ⊢
        simp only [bind, StateT.bind] at hcode ⊢
        generalize (Session.host.outlet request.path).write (i.listing.render request.format)
          (.start tree) = written at hcode hremarks ⊢
        obtain ⟨answer, later, printed, remarks, refusal⟩ := written
        cases hremarks
        cases answer with
        | error fault => exact ⟨fault, rfl, .complaint⟩
        | ok _ => exact absurd rfl hcode

/-! ## Verbose output says more -/

section Lockstep

variable {terse verbose : Log.Filter}

/-- What one program logs, the other logs too. -/
theorem log_within {event event' : Log.Event}
    (h : terse.admits event = true → verbose.admits event' = true ∧ event = event') :
    Lockstep Within (log Session.host terse event) (log Session.host verbose event') := by
  unfold log
  by_cases hterse : terse.admits event = true
  · obtain ⟨hverbose, rfl⟩ := h hterse
    rw [if_pos hterse, if_pos hverbose]
    exact Session.remark_within _
  · rw [if_neg hterse]
    split
    · intro s t hst
      exact ⟨rfl, hst.tree, hst.printed, hst.refusal,
        hst.remarks.trans (List.sublist_append_left _ _)⟩
    · exact .pure ()

variable (h : ∀ event, terse.admits event = true → verbose.admits event = true) (target : String)
include h

theorem reject_within (fault : Fault) :
    Lockstep Within (reject Session.host terse target fault)
      (reject Session.host verbose target fault) :=
  (log_within fun hevent => ⟨h _ hevent, rfl⟩).bind fun _ =>
    complain_lockstep Session.within_kept fault

theorem perform_within (request : Request) :
    Lockstep Within (perform Session.host terse target request)
      (perform Session.host verbose target request) := by
  have hlog (event : Log.Event) :
      Lockstep Within (log Session.host terse event) (log Session.host verbose event) :=
    log_within fun hevent => ⟨h _ hevent, rfl⟩
  have hrun := request.run_lockstep hlog (Session.within_kept.outlet_write request.path)
    (Session.Kept.outlet_describe request.path)
  refine hrun.bind fun result => ?_
  cases result with
  | ok summary => exact (hlog _).bind fun _ => .pure _
  | error fault => exact (hlog _).bind fun _ => complain_lockstep Session.within_kept fault

theorem rehearse_within (request : Request) :
    Lockstep Within (rehearse Session.host terse request)
      (rehearse Session.host verbose request) := by
  unfold rehearse
  cases request.dryRun with
  | ok report => exact (Session.within_kept.notice _).bind fun _ => .pure _
  | error fault =>
    exact (log_within fun hevent => ⟨h _ hevent, rfl⟩).bind fun _ =>
      complain_lockstep Session.within_kept fault

end Lockstep

section Standard

variable {first second : List String}

theorem log_standard_within (event : Log.Event) :
    Lockstep Within (log Session.host (.standard false) event)
      (log Session.host (.standard true) event) :=
  log_within fun hevent => ⟨Log.Filter.admits_standard hevent, rfl⟩

theorem byOptions_within {given : RangeOptions}
    (h : RangeOptions.parse first = .ok { given with verbose := false })
    (h' : RangeOptions.parse second = .ok { given with verbose := true }) :
    Lockstep Within (byOptions Session.host none first) (byOptions Session.host none second) := by
  have hsame : ({ given with verbose := false } : RangeOptions).validate =
      ({ given with verbose := true } : RangeOptions).validate := rfl
  simp only [byOptions, h, h', hsame]
  -- the options are told to the log with verbose output alone, and differ there
  refine (log_standard_within _).bind fun _ =>
    (log_within fun hdebug => by cases hdebug).bind fun _ => ?_
  cases ({ given with verbose := true } : RangeOptions).validate with
  | error fault => exact reject_within (fun _ => Log.Filter.admits_standard) _ fault
  | ok _ => exact perform_within (fun _ => Log.Filter.admits_standard) _ given.request

theorem byFile_within {given : FileOptions}
    (h : FileOptions.parse first = .ok { given with verbose := false })
    (h' : FileOptions.parse second = .ok { given with verbose := true }) :
    Lockstep Within (byFile Session.host none first) (byFile Session.host none second) := by
  simp only [byFile, h, h']
  refine (log_standard_within _).bind fun _ =>
    (load_lockstep Session.within_kept given.config).bind fun loaded => ?_
  cases loaded with
  | error fault => exact abandon_lockstep Session.within_kept given.config fault
  | ok settings =>
    dsimp only
    cases settings.validate with
    | error fault => exact reject_within (fun _ => Log.Filter.admits_standard) _ fault
    | ok _ =>
      dsimp only
      split
      · exact rehearse_within (fun _ => Log.Filter.admits_standard) settings.request
      · exact perform_within (fun _ => Log.Filter.admits_standard) _ settings.request

/-- A program that was given no filter says with verbose output all that it says without, in the
same order. -/
theorem run_within {front : Front} {asked : Asked}
    (h : front.asked? first = some (asked.withVerbose false))
    (h' : front.asked? second = some (asked.withVerbose true)) :
    Lockstep Within (front.run none first) (front.run none second) := by
  cases front with
  | commandLine =>
    obtain ⟨given, hparse, hgiven⟩ := map_toOption_eq_some.1 h
    obtain ⟨given', hparse', hgiven'⟩ := map_toOption_eq_some.1 h'
    cases asked with
    | file asked => cases hgiven
    | options asked =>
      cases hgiven
      cases hgiven'
      exact byOptions_within hparse hparse'
  | file =>
    obtain ⟨given, hparse, hgiven⟩ := map_toOption_eq_some.1 h
    obtain ⟨given', hparse', hgiven'⟩ := map_toOption_eq_some.1 h'
    cases asked with
    | options asked => cases hgiven
    | file asked =>
      cases hgiven
      cases hgiven'
      exact byFile_within hparse hparse'

end Standard

/-- Putting the flag for verbose output anywhere among the arguments leaves the outcome as it is,
whatever the filters. Without a filter, nothing that was said goes unsaid. -/
theorem flag_invisible {front : Front} {before after : List String} {asked changed : Asked}
    {flag : String} (hflag : flag = "--verbose" ∨ flag = "-v")
    (h : front.asked? (before ++ after) = some (asked.withVerbose false))
    (h' : front.asked? (before ++ flag :: after) = some changed)
    (filter filter' : Option String) (tree : FileTree) :
    outcome (front.run filter (before ++ after)) tree =
        outcome (front.run filter' (before ++ flag :: after)) tree ∧
      (front.run none (before ++ after) (.start tree)).2.stderrLines.Sublist
        (front.run none (before ++ flag :: after) (.start tree)).2.stderrLines := by
  have hchanged : changed = asked.withVerbose true := by
    rw [Front.asked?_with_flag hflag h h', Asked.withVerbose_withVerbose]
  subst hchanged
  refine ⟨?_, (run_within h h' _ _ (.refl (.start tree))).2.stderrLines⟩
  rw [Front.outcome_of_asked h, Front.outcome_of_asked h']

end Program

end Countoff
