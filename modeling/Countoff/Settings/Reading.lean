import Countoff.Decimal.Shortest
import Countoff.Settings
import Countoff.Toml.Document

/-!
# Reading settings

Settings from the table of a TOML text. The keys of a table are looked at in the order of their
names, not of the text, and the first flaw is reported: a key that has no meaning, or a value that
does not fit its key. A key that is missing is found only after that. A table may also be given as
an array of its values in order, of which surplus ones are not looked at.
-/

namespace Countoff

open Toml (Entries FloatLiteral Found Key Misfit Node Scalar Wanted)

/-- A misfit at a mark in a text. -/
structure Flaw where
  mark : Nat
  reason : Misfit
  deriving DecidableEq

/-- Reads a value, or says where and why it does not fit. -/
abbrev Reader (α : Type) := Node → Except Flaw α

namespace Reader

/-! ## What stands in a text -/

/-- The text of a floating-point number, unless it is too great. -/
def floatText? : FloatLiteral → Option String
  | .infinite negative => some (if negative then "-inf" else "inf")
  | .nan => some "NaN"
  | .finite negative digits exponent =>
    (Decimal.Binary64.ofDecimal? digits exponent).map fun magnitude =>
      if negative then "-" ++ magnitude.text else magnitude.text

/-- What a value without parts is, or why it is nothing. A moment counts as a map. -/
def found : Scalar → Except Misfit Found
  | .string value => .ok (.string value)
  | .integer (some n) => .ok (.integer n)
  | .integer none => .error .integerOverflow
  | .float value =>
    match floatText? value with
    | some text => .ok (.float text)
    | none => .error .floatOverflow
  | .boolean value => .ok (.boolean value)
  | .moment _ => .ok .map

/-- The misfit of a value without parts where another was wanted. -/
def mismatch (value : Scalar) (wanted : Wanted) : Misfit :=
  match found value with
  | .ok found => .wrongType found wanted
  | .error reason => reason

def wrongType (node : Node) (wanted : Wanted) : Flaw :=
  match node with
  | .scalar mark value => ⟨mark, mismatch value wanted⟩
  | .array mark _ _ => ⟨mark, .wrongType .sequence wanted⟩
  | .table mark _ _ => ⟨mark, .wrongType .map wanted⟩

/-! ## Values -/

def string : Reader String
  | .scalar _ (.string value) => .ok value
  | node => .error (wrongType node .string)

def boolean : Reader Bool
  | .scalar _ (.boolean value) => .ok value
  | node => .error (wrongType node .boolean)

/-- An integer that is too large for 64 bits with a sign, but not without one, has the right type
and the wrong value. -/
def int64 : Reader Int64
  | .scalar mark (.integer (some n)) =>
    if Int64.minValue.toInt ≤ n ∧ n ≤ Int64.maxValue.toInt then .ok (Int64.ofInt n)
    else if Int64.maxValue.toInt < n ∧ n < UInt64.size then .error ⟨mark, .wrongValue n⟩
    else .error ⟨mark, .wrongType (.integer n) .integer⟩
  | node => .error (wrongType node .integer)

def kind : Scalar → String
  | .string _ => "string"
  | .integer _ => "integer"
  | .float _ => "float"
  | .boolean _ => "boolean"
  | .moment _ => "datetime"

/-- What stands behind the name of a format in a table has to be empty. -/
def nothing : Reader Unit
  | .table _ _ [] | .array _ _ [] => .ok ()
  | .table mark _ _ => .error ⟨mark, .variantTableNotEmpty⟩
  | .array mark _ _ => .error ⟨mark, .variantArrayNotEmpty⟩
  | .scalar mark value => .error ⟨mark, .variantNotTable (kind value)⟩

/-- A format by its name, which stands at a mark. -/
def formatName (mark : Nat) (name : String) : Except Flaw Format :=
  match Format.ofName? name with
  | some format => .ok format
  | none => .error ⟨mark, .unknownVariant name (Format.all.map Format.name)⟩

/-- A format is given by its name, or as the only key of a table that says no more. -/
def format : Reader Format
  | .scalar mark (.string name) => formatName mark name
  | .table mark _ entries =>
    match entries with
    | [] => .error ⟨mark, .noVariant⟩
    | [(key, node)] => do
      let format ← formatName key.mark key.name
      nothing node
      return format
    | _ => .error ⟨mark, .manyVariants⟩
  | node => .error ⟨node.mark, .notStringOrTable⟩

/-! ## Tables -/

/-- Puts an entry in front of the first one that does not have a smaller name. -/
def insertSorted (entry : Key × Node) : Entries → Entries
  | [] => [entry]
  | first :: entries =>
    if first.1.name < entry.1.name then first :: insertSorted entry entries
    else entry :: first :: entries

def sorted (entries : Entries) : Entries :=
  entries.foldr insertSorted []

/-- Looks at every entry in the order of the names. -/
def checkAll (check : Key → Node → Except Flaw Unit) (entries : Entries) : Except Flaw Unit :=
  (sorted entries).forM fun (key, node) => check key node

/-- Whether a value can be read, leaving out what is read. -/
def check {α : Type} (reader : Reader α) (node : Node) : Except Flaw Unit :=
  (reader node).map fun _ => ()

def optional {α : Type} (entries : Entries) (name : String) (reader : Reader α) :
    Except Flaw (Option α) :=
  match entries.get? name with
  | some node => (reader node).map some
  | none => .ok none

def required {α : Type} (mark : Nat) (entries : Entries) (name : String) (reader : Reader α) :
    Except Flaw α :=
  match entries.get? name with
  | some node => reader node
  | none => .error ⟨mark, .missingField name⟩

/-- The flaw of a key that has no meaning. -/
def unknownField (mark : Nat) (name : String) (known : List String) : Flaw :=
  ⟨mark, .unknownField name known⟩

/-- The flaw of a value without parts where a table was wanted. A moment counts as a table whose
only key has a name of its own. -/
def notTable (mark : Nat) (value : Scalar) (wanted : Wanted) (known : List String) : Flaw :=
  match value with
  | .moment _ => unknownField mark "$__toml_private_datetime" known
  | _ => ⟨mark, mismatch value wanted⟩

def rangeKeys : List String := ["start", "end", "inclusive"]

def rangeEntry (key : Key) (node : Node) : Except Flaw Unit :=
  if key.name = "start" ∨ key.name = "end" then check int64 node
  else if key.name = "inclusive" then check boolean node
  else .error (unknownField key.mark key.name rangeKeys)

def range : Reader RangeSettings
  | .table mark _ entries => do
    checkAll rangeEntry entries
    let start ← required mark entries "start" int64
    let stop ← required mark entries "end" int64
    let inclusive ← optional entries "inclusive" boolean
    return ⟨start, stop, inclusive⟩
  | .array mark _ items =>
    match items with
    | [] => .error ⟨mark, .tooShort 0 .range 3⟩
    | start :: items => do
      let start ← int64 start
      match items with
      | [] => .error ⟨mark, .tooShort 1 .range 3⟩
      | stop :: items =>
        let stop ← int64 stop
        match items with
        | [] => .error ⟨mark, .tooShort 2 .range 3⟩
        | inclusive :: _ => return ⟨start, stop, some (← boolean inclusive)⟩
  | .scalar mark value => .error (notTable mark value .range rangeKeys)

def outputKeys : List String := ["format", "path"]

def outputEntry (key : Key) (node : Node) : Except Flaw Unit :=
  if key.name = "format" then check format node
  else if key.name = "path" then check string node
  else .error (unknownField key.mark key.name outputKeys)

def output : Reader OutputSettings
  | .table _ _ entries => do
    checkAll outputEntry entries
    return ⟨← optional entries "format" format, ← optional entries "path" string⟩
  | .array mark _ items =>
    match items with
    | [] => .error ⟨mark, .tooShort 0 .output 2⟩
    | first :: items => do
      let first ← format first
      match items with
      | [] => .error ⟨mark, .tooShort 1 .output 2⟩
      | path :: _ => return ⟨some first, some (← string path)⟩
  | .scalar mark value => .error (notTable mark value .output outputKeys)

def rootKeys : List String := ["range", "output"]

def rootEntry (key : Key) (node : Node) : Except Flaw Unit :=
  if key.name = "range" then check range node
  else if key.name = "output" then check output node
  else .error (unknownField key.mark key.name rootKeys)

end Reader

namespace Settings

def ofEntries (mark : Nat) (entries : Entries) : Except Flaw Settings := do
  Reader.checkAll Reader.rootEntry entries
  let range ← Reader.required mark entries "range" Reader.range
  let output ← Reader.optional entries "output" Reader.output
  return ⟨range, output⟩

def parse (text : String) : Except Toml.Problem Settings := do
  let cs := text.toList
  let entries ← Toml.read cs
  (ofEntries cs.length entries).mapError fun flaw => .misfit (.ofRest cs flaw.mark) flaw.reason

/-- Settings from a text; a problem is a fault of the configuration. -/
def ofText (text : String) : Except Fault Settings :=
  (parse text).mapError fun problem => .configuration "toml_parsing" (.toml problem)

end Settings

end Countoff
