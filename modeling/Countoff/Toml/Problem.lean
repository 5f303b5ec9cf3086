import Countoff.Text.Quoted

/-!
# Problems of a TOML text

A text is no TOML at all (`Problem.malformed`), or it has a key below too many others
(`Problem.tooDeep`), or it is TOML that does not fit what is read from it (`Problem.misfit`). A
misfit carries its place in the text and its reason; the wording of every reason stands here.
-/

namespace Countoff.Toml

/-- A place in a text. Lines and columns count from one, and a column is one character. -/
structure Place where
  line : Nat
  column : Nat
  deriving DecidableEq

/-- What stands where something else was wanted. -/
inductive Found where
  | integer (n : Int)
  | float (text : String)
  | boolean (value : Bool)
  | string (value : String)
  | sequence
  | map
  deriving DecidableEq

/-- What was wanted. -/
inductive Wanted where
  | integer
  | boolean
  | string
  | range
  | output
  deriving DecidableEq

/-- Why a value does not fit. -/
inductive Misfit where
  | unknownField (name : String) (known : List String)
  | missingField (name : String)
  | wrongType (found : Found) (wanted : Wanted)
  /-- An integer between the largest signed and the largest unsigned 64-bit integer. -/
  | wrongValue (n : Int)
  /-- An integer outside 128 bits, or a base mark without digits. -/
  | integerOverflow
  | floatOverflow
  | tooShort (length : Nat) (wanted : Wanted) (fields : Nat)
  | unknownVariant (name : String) (known : List String)
  | notStringOrTable
  | noVariant
  | manyVariants
  | variantTableNotEmpty
  | variantArrayNotEmpty
  | variantNotTable (found : String)
  deriving DecidableEq

/-- Why a TOML text could not be read. -/
inductive Problem where
  | malformed
  | tooDeep
  | misfit (place : Place) (reason : Misfit)
  deriving DecidableEq

/-- Names in backquotes, joined as alternatives. -/
def alternatives : List String → String
  | [a, b] => s!"`{a}` or `{b}`"
  | names => "one of " ++ ", ".intercalate (names.map fun name => s!"`{name}`")

/-- Integers are named after the narrowest type that holds them; 64 bits need no name. -/
def Found.text : Found → String
  | .integer n =>
    if Int64.minValue.toInt ≤ n ∧ n < UInt64.size then s!"integer `{n}`"
    else if -Int.pow 2 127 ≤ n ∧ n < Int.pow 2 127 then s!"integer `{n}` as i128"
    else s!"integer `{n}` as u128"
  | .float text => s!"floating point `{text}`"
  | .boolean value => s!"boolean `{value}`"
  | .string value => s!"string {Text.quoted value}"
  | .sequence => "sequence"
  | .map => "map"

def Wanted.text : Wanted → String
  | .integer => "i64"
  | .boolean => "a boolean"
  | .string => "a string"
  | .range => "struct RangeConfig"
  | .output => "struct OutputConfig"

def Misfit.text : Misfit → String
  | .unknownField name known => s!"unknown field `{name}`, expected {alternatives known}"
  | .missingField name => s!"missing field `{name}`"
  | .wrongType found wanted => s!"invalid type: {found.text}, expected {wanted.text}"
  | .wrongValue n => s!"invalid value: integer `{n}`, expected i64"
  | .integerOverflow => "integer number overflowed"
  | .floatOverflow => "floating-point number overflowed"
  | .tooShort length wanted fields =>
    s!"invalid length {length}, expected {wanted.text} with {fields} elements"
  | .unknownVariant name known => s!"unknown variant `{name}`, expected {alternatives known}"
  | .notStringOrTable => "wanted string or table"
  | .noVariant => "wanted exactly 1 element, found 0 elements"
  | .manyVariants => "wanted exactly 1 element, more than 1 element"
  | .variantTableNotEmpty => "expected empty table"
  | .variantArrayNotEmpty => "expected empty array"
  | .variantNotTable found => s!"expected table, found {found}"

def Problem.text : Problem → String
  | .malformed => "TOML parse error"
  | .tooDeep => "recursion limit\n"
  | .misfit place reason =>
    s!"TOML parse error at line {place.line}, column {place.column}: {reason.text}"

/-- The place at which `rest`, the end of `text`, begins. -/
def Place.ofRest (text : List Char) (rest : Nat) : Place :=
  let before := text.take (text.length - rest)
  ⟨before.count '\n' + 1, (before.reverse.takeWhile (· != '\n')).length + 1⟩

end Countoff.Toml
