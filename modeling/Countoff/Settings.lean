import Countoff.Request

/-!
# Settings

What a configuration file says: a range with its bounds, and perhaps an output. A setting that the
file leaves out is kept apart from one that it gives with its usual value; `Settings.request` fills
in what was left out.
-/

namespace Countoff

structure RangeSettings where
  start : Int64
  stop : Int64
  inclusive : Option Bool
  deriving DecidableEq

structure OutputSettings where
  format : Option Format
  path : Option String
  deriving DecidableEq

/-- What a configuration file says. -/
structure Settings where
  range : RangeSettings
  output : Option OutputSettings
  deriving DecidableEq

namespace Settings

/-- Whether the upper bound belongs to the range, as it does unless the file says otherwise. -/
def isInclusive (settings : Settings) : Bool :=
  settings.range.inclusive.getD true

/-- The format, which is JSON unless the file says otherwise. -/
def format (settings : Settings) : Format :=
  (settings.output.bind OutputSettings.format).getD .json

def path (settings : Settings) : Option String :=
  settings.output.bind OutputSettings.path

def request (settings : Settings) : Request where
  start := settings.range.start
  stop := settings.range.stop
  inclusive := settings.isInclusive
  format := settings.format
  path := settings.path

def validate (settings : Settings) : Except Fault Unit :=
  settings.request.validate "output.path"

end Settings

end Countoff
