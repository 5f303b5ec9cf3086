import Countoff.Text.Hexadecimal

/-!
# Log events

An event has a level, the name of the part of the program that it comes from, and a text. Whether
an event is written is decided by a filter (`Log.Filter`); this module says how it is written.
-/

namespace Countoff.Log

/-- How important an event is, the most important first. -/
inductive Level where
  | error
  | warn
  | info
  | debug
  | trace
  deriving DecidableEq

namespace Level

/-- The place of a level in the order from terse to verbose. -/
def rank : Level → Nat
  | .error => 1
  | .warn => 2
  | .info => 3
  | .debug => 4
  | .trace => 5

def name : Level → String
  | .error => "ERROR"
  | .warn => "WARN"
  | .info => "INFO"
  | .debug => "DEBUG"
  | .trace => "TRACE"

end Level

structure Event where
  level : Level
  target : String
  text : String
  deriving DecidableEq

/-- The name of the only field of an event, which holds its text. -/
def Event.field : String := "message"

/-- How a character is written in a log line. Characters that could steer a terminal are written
by their number; tabs and line breaks stand for themselves. -/
def visible (c : Char) : List Char :=
  if c = '\x1b' ∨ c = '\x07' ∨ c = '\x08' ∨ c = '\x0c' ∨ c = '\x7f' then
    ['\\', 'x', Nat.digitChar (c.toNat / 16), Nat.digitChar (c.toNat % 16)]
  else if 0x80 ≤ c.toNat ∧ c.toNat < 0xa0 then
    ['\\', 'u', '\x7b'] ++ Text.hexDigits c.toNat ++ ['\x7d']
  else [c]

/-- The text of an event as it is written. -/
def Event.line (event : Event) : String :=
  s!"{event.level.name} {String.ofList (event.text.toList.flatMap visible)}"

end Countoff.Log
