import Countoff.CommandLine.FileOptions
import Countoff.CommandLine.RangeOptions
import Countoff.Host
import Countoff.Log.Filter
import Countoff.Run
import Countoff.Settings.Reading

/-!
# Programs

The two programs: `Program.byOptions` takes its request from the command line and `Program.byFile`
from a configuration file. Each answers with its exit code. Only the listing is printed, and help;
everything else is a remark. The log is told of what the person at the terminal is told in any
case, so a filter changes nothing but the log.
-/

namespace Countoff

/-- Exit code of a program that did what it was asked to do. -/
def exitDone : Nat := 0

/-- Exit code of a program whose command line was misused. -/
def exitMisuse : Nat := 2

namespace Program

variable {m : Type → Type} [Monad m]

/-- Writes an event to the log, if the filter lets it through. -/
def log (host : Host m) (filter : Log.Filter) (event : Log.Event) : m Unit :=
  if filter.admits event then host.remark (.log event) else return ()

/-- Tells the person at the terminal of a fault, and gives its exit code. -/
def complain (host : Host m) (fault : Fault) : m Nat := do
  host.remark (.notice s!"❌ {fault.notice}")
  host.remark (.notice s!"💡 {fault.suggestion}")
  return fault.exitCode

/-- Answers a command line that gave no configuration. Help that cannot be printed is no fault. -/
def answer (host : Host m) (help : Bool → String) : CommandLine.Stop → m Nat
  | .help detailed => do
    let _ ← host.print (help detailed)
    return exitDone
  | .misuse misuse => do
    host.remark (.notice misuse.notice)
    return exitMisuse

/-- Stops at a request that cannot be met. -/
def reject (host : Host m) (filter : Log.Filter) (target : String) (fault : Fault) : m Nat := do
  log host filter ⟨.error, target, s!"❌ Configuration validation failed: {fault.message}"⟩
  complain host fault

/-- Ends a program by what its run came to. -/
def conclude (host : Host m) (filter : Log.Filter) (target : String) : Except Fault Summary → m Nat
  | .ok summary => do
    log host filter
      ⟨.info, target, s!"✅ Classified {summary.count} numbers into {summary.destination}"⟩
    return exitDone
  | .error fault => do
    let severity := fault.severity.text
    log host filter ⟨.error, target, s!"❌ Run failed: {fault.message} (Severity: {severity})"⟩
    complain host fault

def perform (host : Host m) (filter : Log.Filter) (target : String) (request : Request) :
    m Nat := do
  let result ← request.run (log host filter) (host.outlet request.path)
  conclude host filter target result

/-- The name under which the program with options writes to the log. -/
def optionsTarget : String := "fizzbuzz"

/-- The program that takes its request from the command line. `filter` is the text of the log
filter, if one was given. -/
def byOptions (host : Host m) (filter : Option String) (arguments : List String) : m Nat := do
  match CommandLine.RangeOptions.parse arguments with
  | .error stop => answer host CommandLine.RangeOptions.help stop
  | .ok options =>
    let filter := Log.Filter.choose filter options.verbose
    log host filter ⟨.info, optionsTarget, "Starting fizzbuzz CLI"⟩
    log host filter ⟨.debug, optionsTarget, s!"CLI config: {options.describe}"⟩
    match options.validate with
    | .error fault => reject host filter optionsTarget fault
    | .ok () => perform host filter optionsTarget options.request

/-- The name under which the program with a configuration file writes to the log. -/
def fileTarget : String := "toml_fizzbuzz"

def load (host : Host m) (path : String) : m (Except Fault Settings) := do
  match ← host.read path with
  | .error problem => return .error (.storage problem)
  | .ok text => return Settings.ofText text

/-- Stops at a file that gives no settings. -/
def abandon (host : Host m) (path : String) (fault : Fault) : m Nat := do
  host.remark (.notice s!"❌ Failed to load config file '{path}': {fault.message}")
  host.remark (.notice "💡 Make sure the file exists and is valid TOML format")
  return fault.exitCode

def rehearse (host : Host m) (filter : Log.Filter) (request : Request) : m Nat := do
  match request.dryRun with
  | .ok report =>
    host.remark (.notice s!"🔍 {report}")
    return exitDone
  | .error fault =>
    log host filter ⟨.error, fileTarget, s!"❌ Dry run failed: {fault.message}"⟩
    complain host fault

/-- The program that takes its request from a configuration file. -/
def byFile (host : Host m) (filter : Option String) (arguments : List String) : m Nat := do
  match CommandLine.FileOptions.parse arguments with
  | .error stop => answer host (fun _ => CommandLine.FileOptions.help) stop
  | .ok options =>
    let filter := Log.Filter.choose filter options.verbose
    log host filter
      ⟨.info, fileTarget, s!"📁 Loading configuration from: {options.config}"⟩
    match ← load host options.config with
    | .error fault => abandon host options.config fault
    | .ok settings =>
      match settings.validate with
      | .error fault => reject host filter fileTarget fault
      | .ok () =>
        if options.dryRun then rehearse host filter settings.request
        else perform host filter fileTarget settings.request

end Program

end Countoff
