import Countoff.CommandLine.Grammar
import Countoff.Request
import Countoff.Text.Quoted

/-!
# Requests by options

The options by which a request is made on the command line, and the help for them.
-/

namespace Countoff.CommandLine

/-- A request made by options. -/
structure RangeOptions where
  start : Int64
  stop : Int64
  halfOpen : Bool
  format : Format
  output : Option String
  verbose : Bool
  deriving DecidableEq

namespace RangeOptions

/-- What an empty command line asks for. -/
def usual : RangeOptions where
  start := 1
  stop := 10000
  halfOpen := false
  format := .json
  output := none
  verbose := false

def numeral (value : String) : Except Refusal Int64 :=
  (Text.readInt64 value).mapError Refusal.numeral

def formatName (value : String) : Except Refusal Format :=
  match Format.ofName? value with
  | some format => .ok format
  | none => .error (if value.isEmpty then .absent else .foreign)

/-- An option that sets a bound of the range. -/
def boundOption (name placeholder : String) (set : Int64 → RangeOptions → RangeOptions) :
    Opt RangeOptions :=
  ⟨name, none, .value placeholder true fun value => (numeral value).map set⟩

def startOption : Opt RangeOptions :=
  boundOption "start" "START" fun n options => { options with start := n }

def stopOption : Opt RangeOptions :=
  boundOption "end" "END" fun n options => { options with stop := n }

def halfOpenOption : Opt RangeOptions :=
  ⟨"half-open", none, .flag fun options => { options with halfOpen := true }⟩

def formatOption : Opt RangeOptions :=
  ⟨"format", none, .value "FORMAT" false fun value =>
    (formatName value).map fun format options => { options with format }⟩

def outputOption : Opt RangeOptions :=
  ⟨"output", none, .value "OUTPUT" false fun value =>
    return fun options => { options with output := some value }⟩

def verboseOption : Opt RangeOptions :=
  ⟨"verbose", some 'v', .flag fun options => { options with verbose := true }⟩

def grammar : List (Opt RangeOptions) :=
  [startOption, stopOption, halfOpenOption, formatOption, outputOption, verboseOption,
    ⟨"help", some 'h', .help⟩]

def parse (arguments : List String) : Reading RangeOptions :=
  read grammar usual arguments

/-- What a run with these options is asked to do. -/
def request (options : RangeOptions) : Request where
  start := options.start
  stop := options.stop
  inclusive := !options.halfOpen
  format := options.format
  path := options.output

def validate (options : RangeOptions) : Except Fault Unit :=
  options.request.validate "output"

/-- The options with their fields spelled out. -/
def describe (options : RangeOptions) : String :=
  let output :=
    match options.output with
    | some path => s!"Some({Text.quoted path})"
    | none => "None"
  s!"CliConfig \x7b start: {options.start.toInt}, end: {options.stop.toInt}, " ++
    s!"half_open: {options.halfOpen}, format: {options.format.title}, output: {output}, " ++
    s!"verbose: {options.verbose} \x7d"

/-- Help for the options, one line for each. -/
def shortHelp : String :=
  "Classify a range of integers as Fizz, Buzz or FizzBuzz\n" ++
  "\n" ++
  "Usage: fizzbuzz [OPTIONS]\n" ++
  "\n" ++
  "Options:\n" ++
  "      --start <START>    First number of the range [default: 1]\n" ++
  "      --end <END>        Last number of the range (inclusive unless --half-open) " ++
  "[default: 10000]\n" ++
  "      --half-open        Treat --end as exclusive\n" ++
  "      --format <FORMAT>  [default: json] [possible values: json, lines, csv]\n" ++
  "      --output <OUTPUT>  Write to this file instead of stdout\n" ++
  "  -v, --verbose          Enable verbose output\n" ++
  "  -h, --help             Print help (see more with '--help')\n"

/-- Help for the options at length. -/
def longHelp : String :=
  "Classify a range of integers as Fizz, Buzz or FizzBuzz\n" ++
  "\n" ++
  "Usage: fizzbuzz [OPTIONS]\n" ++
  "\n" ++
  "Options:\n" ++
  "      --start <START>\n" ++
  "          First number of the range\n" ++
  "          \n" ++
  "          [default: 1]\n" ++
  "\n" ++
  "      --end <END>\n" ++
  "          Last number of the range (inclusive unless --half-open)\n" ++
  "          \n" ++
  "          [default: 10000]\n" ++
  "\n" ++
  "      --half-open\n" ++
  "          Treat --end as exclusive\n" ++
  "\n" ++
  "      --format <FORMAT>\n" ++
  "          Possible values:\n" ++
  "          - json:  JSON array of labels on a single line\n" ++
  "          - lines: One label per line\n" ++
  "          - csv:   `number,label` rows with a header\n" ++
  "          \n" ++
  "          [default: json]\n" ++
  "\n" ++
  "      --output <OUTPUT>\n" ++
  "          Write to this file instead of stdout\n" ++
  "\n" ++
  "  -v, --verbose\n" ++
  "          Enable verbose output\n" ++
  "\n" ++
  "  -h, --help\n" ++
  "          Print help (see a summary with '-h')\n"

def help (detailed : Bool) : String :=
  if detailed then longHelp else shortHelp

end RangeOptions

end Countoff.CommandLine
