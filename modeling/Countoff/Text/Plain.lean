/-!
# Plain text

Text without what would steer a terminal: escape sequences are taken out as a whole, and of the
ASCII controls only the blank ones stay. A blank control may stand in the middle of a sequence. It
is shown, and what then becomes of the sequence depends on the reader: either it is over, or it is
only held up, until the next character that is not shown.
-/

namespace Countoff.Text

/-- Where a reader of terminal text stands. -/
inductive Terminal where
  /-- Between two characters of the text. -/
  | ground
  | escape
  /-- Inside a short sequence, in front of its last character. -/
  | short
  /-- Inside a control sequence, in front of its last character. -/
  | control
  /-- At the beginning of a string for a device. -/
  | deviceEntry
  /-- Inside the parameters of such a string. -/
  | deviceParameters
  /-- Behind them, in front of the data. -/
  | deviceIntermediate
  /-- Inside such a string whose beginning makes no sense. -/
  | deviceIgnored
  /-- Inside the data of such a string. -/
  | deviceData
  /-- Inside a command to the system. -/
  | command
  /-- Inside a message that is not for the terminal. -/
  | message
  deriving DecidableEq

def isAsciiControl (c : Char) : Bool :=
  c.toNat < 0x20 || c = '\x7f'

/-- The controls that stay. -/
def isBlankControl (c : Char) : Bool :=
  c = '\t' || c = '\n' || c = '\x0c' || c = '\r'

/-- Whether one of the bytes of a character ends strings. -/
def holdsTerminator (c : Char) : Bool :=
  (String.utf8EncodeChar c).any (· = 0x9c)

namespace Terminal

/-- Whether blank controls are shown in a sequence. -/
def showsBlanks : Terminal → Bool
  | .ground | .escape | .short | .control => true
  | _ => false

/-- Where the reader stands behind a control that is not shown. -/
def afterControl (c : Char) : Terminal → Terminal
  | .command => if c = '\x07' then .ground else .command
  | stand => stand

/-- Where the reader stands behind a character beyond ASCII, inside a sequence. -/
def afterWide (c : Char) : Terminal → Terminal
  | .deviceData => if holdsTerminator c then .ground else .deviceData
  | .deviceIgnored => if holdsTerminator c then .ground else .deviceIgnored
  | .message => if holdsTerminator c then .ground else .message
  | stand => stand

/-- Where the reader stands behind a printable ASCII character. -/
def afterPrintable (c : Char) : Terminal → Terminal
  | .ground => .ground
  | .escape =>
    if c = '[' then .control
    else if c = ']' then .command
    else if c = 'P' then .deviceEntry
    else if c = 'X' ∨ c = '^' ∨ c = '_' then .message
    else if c.toNat < 0x30 then .short
    else .ground
  | .short => if c.toNat < 0x30 then .short else .ground
  | .control => if c.toNat < 0x40 then .control else .ground
  | .deviceEntry =>
    if c.toNat < 0x30 then .deviceIntermediate
    else if c.toNat < 0x40 then .deviceParameters
    else .deviceData
  | .deviceParameters =>
    if c.toNat < 0x30 then .deviceIntermediate
    else if c.toNat < 0x3c then .deviceParameters
    else if c.toNat < 0x40 then .deviceIgnored
    else .deviceData
  | .deviceIntermediate =>
    if c.toNat < 0x30 then .deviceIntermediate
    else if c.toNat < 0x40 then .deviceIgnored
    else .deviceData
  | stand => stand

/-- Where the reader stands behind a character that is not shown. -/
def next (c : Char) (stand : Terminal) : Terminal :=
  if c = '\x1b' then .escape
  else if c = '\x18' ∨ c = '\x1a' then .ground
  else if isAsciiControl c then stand.afterControl c
  else if 0x80 ≤ c.toNat then stand.afterWide c
  else stand.afterPrintable c

end Terminal

/-- A text, read from where the reader stands, without what would steer a terminal. `resume` tells
whether a sequence goes on behind a blank control in it, and `shown` whether the character in front
was shown. -/
def plainFrom (resume : Bool) (stand : Terminal) (shown : Bool) : List Char → List Char
  | [] => []
  | c :: rest =>
    if isBlankControl c && (shown || stand.showsBlanks) then
      c :: plainFrom resume (if resume then stand else .ground) true rest
    else if isAsciiControl c then plainFrom resume (stand.next c) false rest
    else if shown || stand = .ground then
      c :: plainFrom resume (if 0x80 ≤ c.toNat then .ground else stand) true rest
    else plainFrom resume (stand.next c) false rest

/-- A text without what would steer a terminal, as a message shows it: a blank control ends the
sequence that it stands in. -/
def plain (s : String) : String :=
  String.ofList (plainFrom false .ground false s.toList)

/-- A text without what would steer a terminal, as a stream to a terminal lets it through: a blank
control only holds up the sequence that it stands in. -/
def plainStream (s : String) : String :=
  String.ofList (plainFrom true .ground false s.toList)

end Countoff.Text
