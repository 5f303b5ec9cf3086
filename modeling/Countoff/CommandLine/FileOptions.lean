import Countoff.CommandLine.Grammar

/-!
# Requests by a configuration file

The options of the program that takes its request from a configuration file, and the help for
them.
-/

namespace Countoff.CommandLine

/-- Where the configuration file is, and how it is run. -/
structure FileOptions where
  config : String
  verbose : Bool
  /-- Only say what a run would do. -/
  dryRun : Bool
  deriving DecidableEq

namespace FileOptions

/-- What an empty command line asks for. -/
def usual : FileOptions where
  config := "fizzbuzz.toml"
  verbose := false
  dryRun := false

def configOption : Opt FileOptions :=
  ⟨"config", some 'c', .value "CONFIG" false fun value =>
    return fun options => { options with config := value }⟩

def verboseOption : Opt FileOptions :=
  ⟨"verbose", some 'v', .flag fun options => { options with verbose := true }⟩

def dryRunOption : Opt FileOptions :=
  ⟨"dry-run", none, .flag fun options => { options with dryRun := true }⟩

def grammar : List (Opt FileOptions) :=
  [configOption, verboseOption, dryRunOption, ⟨"help", some 'h', .help⟩]

def parse (arguments : List String) : Reading FileOptions :=
  read grammar usual arguments

/-- Help for the options. There is no longer form. -/
def help : String :=
  "FizzBuzz driven by a TOML configuration file\n" ++
  "\n" ++
  "Usage: toml-fizzbuzz [OPTIONS]\n" ++
  "\n" ++
  "Options:\n" ++
  "  -c, --config <CONFIG>  Path to TOML configuration file [default: fizzbuzz.toml]\n" ++
  "  -v, --verbose          Enable verbose output\n" ++
  "      --dry-run          Dry run - validate the config and report the range without printing\n" ++
  "  -h, --help             Print help\n"

end FileOptions

end Countoff.CommandLine
