/-!
# Tables of comma-separated values

The writer ends every record with a line feed and quotes a field only where it has to: where the
field holds a comma, a quote, a line feed or a carriage return. A quote inside a quoted field is
written twice. Rows whose fields have names get these as a heading in front of the first row, so a
table without rows has a heading only if it is written as a record of its own. The reader is the
common one: records end with a line feed, a carriage return or
both, and a quote may stand only around a whole field or, doubled, inside a quoted one.
-/

namespace Countoff.Csv

abbrev Field := List Char

abbrev Record := List Field

/-! ## Writing -/

/-- Whether a character has to stand inside quotes. -/
def isSpecial (c : Char) : Bool :=
  c = ',' || c = '"' || c = '\n' || c = '\r'

def doubled (field : Field) : List Char :=
  field.flatMap fun c => if c = '"' then ['"', '"'] else [c]

/-- A field, quoted where it has to be. -/
def field (field : Field) : List Char :=
  if field.any isSpecial then '"' :: doubled field ++ ['"'] else field

def fields : Record → List Char
  | [] => []
  | [f] => field f
  | f :: rest => field f ++ ',' :: fields rest

def line (record : Record) : List Char :=
  fields record ++ ['\n']

def table (records : List Record) : List Char :=
  records.flatMap line

structure Writer where
  /-- What has been written, the last line first. -/
  lines : List (List Char) := []
  /-- Whether a row with named fields has put its heading. -/
  headed : Bool := false

namespace Writer

def record (writer : Writer) (record : Record) : Writer :=
  { writer with lines := line record :: writer.lines }

/-- Writes a row whose fields have names, and in front of the first such row the names. -/
def row (names : Record) (writer : Writer) (fields : Record) : Writer :=
  if writer.headed then writer.record fields
  else { (writer.record names).record fields with headed := true }

def text (writer : Writer) : List Char :=
  writer.lines.reverse.flatten

end Writer

/-! ## Reading -/

/-- Where the reader stands. -/
inductive Stand where
  /-- At the beginning of a record, or at the end of the table. -/
  | record
  | field
  | bare
  | quoted
  /-- Behind a quote inside a quoted field: its end, or the first of two quotes. -/
  | quote
  deriving DecidableEq

/-- Puts a character in front of the first field of the first record. -/
def pushChar (c : Char) : List Record → List Record
  | (f :: fs) :: records => ((c :: f) :: fs) :: records
  | records => records

def pushField : List Record → List Record
  | fs :: records => ([] :: fs) :: records
  | records => records

/-- Reads the records of a text, the first of them from where the reader stands in it. -/
def readFrom : Stand → List Char → Option (List Record)
  | .record, [] => some []
  | .quoted, [] => none
  | _, [] => some [[[]]]
  | .quoted, c :: rest =>
    if c = '"' then readFrom .quote rest else (readFrom .quoted rest).map (pushChar c)
  | .quote, '"' :: rest => (readFrom .quoted rest).map (pushChar '"')
  | _, ',' :: rest => (readFrom .field rest).map pushField
  | _, '\n' :: rest => (readFrom .record rest).map ([[]] :: ·)
  | _, '\r' :: '\n' :: rest => (readFrom .record rest).map ([[]] :: ·)
  | _, '\r' :: rest => (readFrom .record rest).map ([[]] :: ·)
  | .quote, _ :: _ => none
  | .bare, c :: rest => if c = '"' then none else (readFrom .bare rest).map (pushChar c)
  | _, c :: rest =>
    if c = '"' then readFrom .quoted rest else (readFrom .bare rest).map (pushChar c)

def read (cs : List Char) : Option (List Record) :=
  readFrom .record cs

end Countoff.Csv
