import Countoff.Format
import Countoff.Interval

/-!
# Requests

What a run is asked to do, whichever way it was asked: the bounds of the integers to call out and
how they are meant, the format, and the file to write to, if any. Bounds are kept as they were
given, so a request may be one that cannot be met; `Request.interval` says whether it can.
-/

namespace Countoff

/-- What a run is asked to do. -/
structure Request where
  start : Int64
  stop : Int64
  /-- Whether `stop` itself is called out. -/
  inclusive : Bool
  format : Format
  /-- The file to write to; standard output if there is none. -/
  path : Option String
  deriving DecidableEq

namespace Request

def interval (request : Request) : Except Fault Interval :=
  if request.inclusive then Interval.closed request.start request.stop
  else Interval.halfOpen request.start request.stop

/-- Where the output goes, in words. -/
def destination (request : Request) : String :=
  request.path.getD "stdout"

/-- Whether a request can be met: its integers first, then the text of its path, for which
`pathField` is blamed. -/
def validate (request : Request) (pathField : String) : Except Fault Unit := do
  let _ ← request.interval
  match request.path with
  | some path => Check.path pathField path
  | none => return

/-- What a run would do, in one line. -/
def dryRun (request : Request) : Except Fault String := do
  let interval ← request.interval
  return s!"Dry run: would classify {interval.length} numbers ({interval.text}) as " ++
    s!"{request.format.title} into {request.destination}"

end Request

end Countoff
