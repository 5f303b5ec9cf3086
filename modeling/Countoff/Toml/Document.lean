import Countoff.Toml.Values

/-!
# Documents

A TOML text is a list of statements, one to a line: pairs, and headers that say to which table the
pairs below them belong. `Toml.read` gives the table of the whole text, or the problem with it. A
flaw in the layout of the text comes first, wherever it is; after it the first problem in the order
of the text, be it with a key or a value or with two statements about one key.
-/

namespace Countoff.Toml

/-- A pair or a header. -/
inductive Statement where
  | pair (pair : Reading Pair)
  | header (header : Reading Header)

/-- Reads a header with a mark from behind its opening brackets. Where the last key is missing, the
header needs no closing bracket, and what else its line holds does not count. -/
def readHeader? (mark : Nat) (ofArray : Bool) (cs : List Char) :
    Option (Reading Header × List Char) :=
  let (path, rest) := splitPath (cs.length + 1) (skipSpaces cs)
  let header : Reading Header := do
    let (front, last) ← path.keys
    return ⟨mark, ofArray, front, last⟩
  match rest with
  | ']' :: rest =>
    if ofArray then
      match rest with
      | ']' :: rest => some (header, rest)
      | _ => none
    else some (header, rest)
  | rest => if path.last.text.isEmpty then some (header, skipStatement rest.length rest) else none

/-- Reads the value of a pair. The value may be missing at the end of the line. -/
def readLineValue? (cs : List Char) : Option (Reading Node × List Char) :=
  readValue? maxDepth cs <|> (lineEnd? cs).map fun rest => (.error .malformed, rest)

def readStatement? (cs : List Char) : Option (Statement × List Char) :=
  match cs with
  | '[' :: '[' :: rest => do
    let (header, rest) ← readHeader? cs.length true rest
    return (.header header, rest)
  | '[' :: rest => do
    let (header, rest) ← readHeader? cs.length false rest
    return (.header header, rest)
  | cs => do
    let (pair, rest) ← readPair? readLineValue? (some ∘ skipSpaces) cs
    return (.pair pair, rest)

/-- Reads statements up to the end of the text. Every statement takes a character. -/
def readStatements? : Nat → List Char → Option (List Statement)
  | 0, _ => none
  | fuel + 1, cs => do
    match ← skipLines? false cs with
    | [] => return []
    | cs =>
      let (statement, rest) ← readStatement? cs
      let statements ← readStatements? fuel (← lineEnd? rest)
      return statement :: statements

/-- The pairs in front of the first header, and the sections. -/
def toSections : List Statement → List (Reading Pair) × List Section
  | [] => ([], [])
  | .pair pair :: statements =>
    let (pairs, sections) := toSections statements
    (pair :: pairs, sections)
  | .header header :: statements =>
    let (pairs, sections) := toSections statements
    ([], ⟨header, pairs⟩ :: sections)

/-- The table of a text that holds statements. -/
def Entries.ofStatements (statements : List Statement) : Reading Entries := do
  let (pairs, sections) := toSections statements
  sections.foldlM Entries.addSection (← Entries.addPairs pairs [])

/-- The text without a byte-order mark at its beginning. -/
def skipByteOrderMark : List Char → List Char
  | '\ufeff' :: cs => cs
  | cs => cs

def read (text : List Char) : Reading Entries :=
  let cs := skipByteOrderMark text
  match readStatements? (cs.length + 1) cs with
  | some statements => Entries.ofStatements statements
  | none => .error .malformed

end Countoff.Toml
