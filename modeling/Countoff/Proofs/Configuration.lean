import Countoff.CommandLine.RangeOptions
import Countoff.Proofs.Request
import Countoff.Settings

/-!
# Configurations

A request is configured by options on the command line or by the settings of a file. Both are
validated as the request that they make, save for the name that the path has in them
(`Configuration.validate_eq`).
-/

namespace Countoff

/-- What a request is made by. -/
inductive Configuration where
  | options (given : CommandLine.RangeOptions)
  | settings (given : Settings)
  deriving DecidableEq

namespace Configuration

def request : Configuration → Request
  | options given => given.request
  | settings given => given.request

def validate : Configuration → Except Fault Unit
  | options given => given.validate
  | settings given => given.validate

/-- The name that the path has in a configuration. -/
def pathField : Configuration → String
  | options _ => "output"
  | settings _ => "output.path"

theorem validate_eq (configuration : Configuration) :
    configuration.validate = configuration.request.validate configuration.pathField := by
  cases configuration <;> rfl

end Configuration

end Countoff
