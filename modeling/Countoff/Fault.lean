import Countoff.Storage
import Countoff.Toml.Problem

/-!
# Faults

What can go wrong in a run, by cause. A fault has a message, which logs and callers see; a notice,
written for the person at the terminal; a suggestion; and a severity, which alone decides the exit
code. The wording stands here and nowhere else.
-/

namespace Countoff

/-- Why a setting has a value that cannot be used. -/
inductive ValueProblem where
  | startExceedsEnd
  | endOverflows
  | tooLong (limit : Nat)
  | blankPath
  | nulInPath
  | other (text : String)
  deriving DecidableEq

/-- Why a configuration as a whole cannot be used. -/
inductive ConfigurationProblem where
  | toml (problem : Toml.Problem)
  | other (text : String)
  deriving DecidableEq

/-- A run that broke one of its own rules. -/
inductive InternalProblem where
  | countMismatch (entries numbers : Nat)
  | other (text : String)
  deriving DecidableEq

/-- What went wrong in a run. -/
inductive Fault where
  /-- A file could not be read or written. -/
  | storage (problem : StorageProblem)
  | json (text : String)
  | csv (text : String)
  /-- The configuration does not say what it has to say. -/
  | configuration (field : String) (problem : ConfigurationProblem)
  | invalidValue (field value : String) (problem : ValueProblem)
  | internal (problem : InternalProblem)
  deriving DecidableEq

/-- Whether the user can mend a fault (`high`) or the system has to (`critical`). -/
inductive Severity where
  | high
  | critical
  deriving DecidableEq

def ValueProblem.text : ValueProblem → String
  | .startExceedsEnd => "start must not exceed end"
  | .endOverflows => "Inclusive end overflows i64"
  | .tooLong limit => s!"Range may hold at most {limit} numbers"
  | .blankPath => "Path cannot be empty"
  | .nulInPath => "Path contains null bytes"
  | .other text => text

def ConfigurationProblem.text : ConfigurationProblem → String
  | .toml problem => s!"TOML parsing error: {problem.text}"
  | .other text => text

def InternalProblem.text : InternalProblem → String
  | .countMismatch entries numbers => s!"Classified {entries} entries for {numbers} numbers"
  | .other text => text

namespace Severity

def text : Severity → String
  | .high => "High"
  | .critical => "Critical"

def exitCode : Severity → Nat
  | .high => 1
  | .critical => 3

end Severity

namespace Fault

def severity : Fault → Severity
  | .storage _ | .json _ | .csv _ => .critical
  | .configuration .. | .invalidValue .. | .internal _ => .high

def exitCode (fault : Fault) : Nat :=
  fault.severity.exitCode

/-- The message that logs and callers see. -/
def message : Fault → String
  | .storage problem => s!"IO error: {problem.text}"
  | .json text => s!"Serialization error: {text}"
  | .csv text => s!"CSV processing error: CSV write error: {text}"
  | .configuration field problem => s!"Configuration error in '{field}': {problem.text}"
  | .invalidValue field value problem => s!"Invalid value '{value}' for '{field}': {problem.text}"
  | .internal problem => s!"Processing error: {problem.text}"

/-- The message for the person at the terminal. -/
def notice : Fault → String
  | .storage problem => s!"Could not write output: {problem.text}"
  | .json _ | .csv _ => "Could not render the sequence"
  | .configuration field problem => s!"Configuration problem with '{field}': {problem.text}"
  | .invalidValue field value problem =>
    s!"'{value}' is not a valid value for '{field}': {problem.text}"
  | .internal problem => problem.text

/-- What the person at the terminal may try. -/
def suggestion : Fault → String
  | .storage _ => "Check that the output path is writable"
  | .json _ | .csv _ => "Try a different --format"
  | .configuration .. =>
    "Check the configuration file against the documented [range]/[output] tables"
  | .invalidValue .. => "Make sure start <= end and the range is not too large"
  | .internal _ => "This is a bug, please report it"

end Fault

end Countoff
