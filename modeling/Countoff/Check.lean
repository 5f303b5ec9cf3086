import Countoff.Fault
import Countoff.Text.Blank

/-!
# Checks on values that a user gave

Each check accepts a value or blames the field that holds it. The order of two bounds, the length
of a range and the text of a path are checked here; which of them are asked, and in which order,
is for the caller to say.
-/

namespace Countoff.Check

/-- The fault of a range whose bounds stand in the wrong order. -/
def disordered (field : String) (start stop : Int) : Fault :=
  .invalidValue field s!"{start}..{stop}" .startExceedsEnd

/-- The fault of a range that holds more than `limit` integers. -/
def tooLong (field : String) (length limit : Nat) : Fault :=
  .invalidValue field (toString length) (.tooLong limit)

def bounds (field : String) (start stop : Int) : Except Fault Unit :=
  if start ≤ stop then .ok () else .error (disordered field start stop)

def length (field : String) (length limit : Nat) : Except Fault Unit :=
  if length ≤ limit then .ok () else .error (tooLong field length limit)

/-- A path needs a character that is not blank, and holds no NUL. -/
def path (field : String) (path : String) : Except Fault Unit :=
  if Text.allBlank path then .error (.invalidValue field path .blankPath)
  else if path.toList.contains '\x00' then .error (.invalidValue field path .nulInPath)
  else .ok ()

end Countoff.Check
