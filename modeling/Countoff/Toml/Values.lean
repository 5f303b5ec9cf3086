import Countoff.Toml.Moments
import Countoff.Toml.Numbers
import Countoff.Toml.Token

/-!
# Keys and values

The readers of keys and values. Each takes the text from its first character on and gives what it
has read with what stands behind it, or nothing if the text is not laid out as TOML there. What is
read may have a problem of its own, such as a number that is none: it is kept as it is, for a flaw
in the layout of a later part of the text comes before it.

Arrays and inline tables may lie inside one another only so deep; the depth that is left is what
the readers recur on. Keys may lie below one another as deep as that, but no more than a problem
comes of it if they lie deeper.
-/

namespace Countoff.Toml

/-- How deep arrays, inline tables and dotted keys may go. -/
def maxDepth : Nat := 80

/-! ## Keys -/

/-- A key as it is written, with its mark. A key that is missing has no text. -/
structure KeyToken where
  text : List Char
  mark : Nat

/-- The key that is written. It is a string of one line or a word of bare characters. -/
def KeyToken.key (token : KeyToken) : Reading Key :=
  match readLine? token.text with
  | some (name, []) => .ok ⟨String.ofList name, token.mark⟩
  | _ =>
    if !token.text.isEmpty && token.text.all isBare then
      .ok ⟨String.ofList token.text, token.mark⟩
    else .error .malformed

/-- Keys with points between them: those in front, and the last one. -/
structure KeyPath where
  front : List KeyToken
  last : KeyToken

/-- Splits off keys with points between them, and the spaces behind them. Every key but the last
has a point behind it, so there are no more of them than characters, and one. -/
def splitPath : Nat → List Char → KeyPath × List Char
  | 0, cs => (⟨[], ⟨[], cs.length⟩⟩, cs)
  | fuel + 1, cs =>
    let (text, rest) := splitToken cs
    let token : KeyToken := ⟨text, cs.length⟩
    match skipSpaces rest with
    | '.' :: rest =>
      let (path, rest) := splitPath fuel (skipSpaces rest)
      ({ path with front := token :: path.front }, rest)
    | rest => (⟨[], token⟩, rest)

/-- The keys that are written. One below a path of others may not lie too deep. -/
def KeyPath.keys (path : KeyPath) : Reading (List Key × Key) := do
  let front ← path.front.mapM KeyToken.key
  let last ← path.last.key
  if front.length < maxDepth then return (front, last) else throw .tooDeep

/-! ## Values without parts -/

/-- The value that a text without quotes stands for. -/
def Scalar.ofText? (cs : List Char) : Option Scalar :=
  if cs = "true".toList then some (.boolean true)
  else if cs = "false".toList then some (.boolean false)
  else if Moment.isMoment cs then some (.moment (String.ofList cs))
  else readNumber? cs

/-- The string that a text with quotes stands for. -/
def stringOf? (cs : List Char) : Option Scalar :=
  match readString? cs with
  | some (value, []) => some (.string (String.ofList value))
  | _ => none

def readScalar? (cs : List Char) : Option (Reading Node × List Char) :=
  let toNode (scalar? : Option Scalar) : Reading Node :=
    match scalar? with
    | some scalar => .ok (.scalar cs.length scalar)
    | none => .error .malformed
  match splitString? cs with
  | some (text, rest) => some (toNode (stringOf? text), rest)
  | none =>
    match splitScalar true cs with
    | ([], _) => none
    | (text, rest) => some (toNode (Scalar.ofText? text), rest)

/-! ## Values with parts -/

section Parts

variable (readItem? : List Char → Option (Reading Node × List Char))

/-- Reads a key, an equals sign and a value. `skip?` skips what may stand around the equals sign. -/
def readPair? (skip? : List Char → Option (List Char)) (cs : List Char) :
    Option (Reading Pair × List Char) := do
  let (path, rest) := splitPath (cs.length + 1) cs
  match ← skip? rest with
  | '=' :: rest =>
    let (node, rest) ← readItem? (← skip? rest)
    let pair : Reading Pair := do
      let (front, last) ← path.keys
      return ⟨front, last, ← node⟩
    return (pair, rest)
  | _ => none

/-- Reads the items of an array up to and with its closing bracket. Every item takes a character
and a comma, so there are fewer of them than characters. -/
def readItems? : Nat → List Char → Option (Reading (List Node) × List Char)
  | 0, _ => none
  | fuel + 1, cs => do
    match ← skipLines? false cs with
    | ']' :: rest => return (.ok [], rest)
    | cs =>
      let (item, rest) ← readItem? cs
      match ← skipLines? false rest with
      | ',' :: rest =>
        let (items, rest) ← readItems? fuel rest
        return (return (← item) :: (← items), rest)
      | ']' :: rest => return (item.map ([·]), rest)
      | _ => none

/-- Reads the pairs of an inline table up to and with its closing brace, and adds them to those in
front of them. Line breaks may stand wherever spaces may, save within the path of a key. -/
def readPairs? (entries : Reading Entries) : Nat → List Char → Option (Reading Entries × List Char)
  | 0, _ => none
  | fuel + 1, cs => do
    match ← skipLines? false cs with
    | '\x7d' :: rest => return (entries, rest)
    | cs =>
      let (pair, rest) ← readPair? readItem? (skipLines? false) cs
      let entries := entries >>= Entries.addPairs [pair]
      match ← skipLines? false rest with
      | ',' :: rest => readPairs? entries fuel rest
      | '\x7d' :: rest => return (entries, rest)
      | _ => none

end Parts

/-- Reads a key alone, without a value, up to and with the closing brace. An inline table that holds
no more than this is empty. -/
def readLoneKey? (cs : List Char) : Option (Reading Entries × List Char) := do
  let cs ← skipLines? false cs
  let (path, rest) := splitPath (cs.length + 1) cs
  match ← skipLines? false rest with
  | '\x7d' :: rest => return (path.keys.map fun _ => [], rest)
  | _ => none

/-- Reads a value that may have parts inside one another to a depth. -/
def readValue? : Nat → List Char → Option (Reading Node × List Char)
  | 0, cs => readScalar? cs
  | depth + 1, cs =>
    match cs with
    | '[' :: rest => do
      let (items, after) ← readItems? (readValue? depth) rest.length rest
      return (items.map (.array cs.length false ·), after)
    | '\x7b' :: rest => do
      let (entries, after) ←
        readPairs? (readValue? depth) (.ok []) rest.length rest <|> readLoneKey? rest
      return (entries.map (.table cs.length .inline ·), after)
    | cs => readScalar? cs

end Countoff.Toml
