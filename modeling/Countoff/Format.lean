import Countoff.Listing
import Countoff.Format.Csv
import Countoff.Format.Json
import Countoff.Format.Lines

/-!
# Formats

The three forms in which a listing is written out. JSON and lines hold the labels alone; a CSV
table also holds the numbers, under a header that an empty listing has as well.
-/

namespace Countoff

/-- The form in which a listing is written out. -/
inductive Format where
  /-- An array of labels on a single line. -/
  | json
  /-- One label to a line. -/
  | lines
  /-- A table of numbers and labels under a header. -/
  | csv
  deriving DecidableEq

instance : Inhabited Format := ⟨.json⟩

namespace Format

def all : List Format := [.json, .lines, .csv]

/-- The name by which a format is chosen. -/
def name : Format → String
  | .json => "json"
  | .lines => "lines"
  | .csv => "csv"

def title : Format → String
  | .json => "Json"
  | .lines => "Lines"
  | .csv => "Csv"

/-- The format with a name. Case matters. -/
def ofName? (name : String) : Option Format :=
  all.find? fun format => format.name = name

@[simp] theorem ofName?_name (format : Format) : ofName? format.name = some format := by
  cases format <;> decide

end Format

namespace Listing

/-- The rows of a listing as a table, without its header. -/
def rows (listing : Listing) : List Csv.Record :=
  listing.map fun entry => [(toString entry.number).toList, entry.label.toList]

def header : Csv.Record :=
  ["number".toList, "label".toList]

def labelChars (listing : Listing) : List (List Char) :=
  listing.map fun entry => entry.label.toList

/-- The characters of a listing as a table. Rows bring their heading along; a listing without any
needs it written by hand. -/
def tableChars (listing : Listing) : List Char :=
  let writer : Csv.Writer := {}
  let writer := if listing.isEmpty then writer.record header else writer
  (listing.rows.foldl (Csv.Writer.row header) writer).text

def renderChars (listing : Listing) : Format → List Char
  | .json => Json.array listing.labelChars ++ ['\n']
  | .lines => Lines.lines listing.labelChars
  | .csv => listing.tableChars

/-- The text of a listing in a format. -/
def render (listing : Listing) (format : Format) : String :=
  String.ofList (listing.renderChars format)

end Listing

end Countoff
