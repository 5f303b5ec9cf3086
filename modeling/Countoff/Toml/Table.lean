import Countoff.Toml.Problem

/-!
# Tables

The values that a TOML text can hold, and how tables come together from the pairs and headers that
a text gives in any order. A text may return to a table, but only in some ways, and the origin of
a table decides which: a table that was only implied by the header of another may still get a
header of its own, one that came from dotted keys may get more of them, and an inline table is
complete as it stands.

A mark is the number of characters from the beginning of a thing to the end of the text, so that
it can be told where in the text the thing stands.
-/

namespace Countoff.Toml

structure Key where
  name : String
  mark : Nat
  deriving DecidableEq

/-- A floating-point number as it is written. -/
inductive FloatLiteral where
  | infinite (negative : Bool)
  | nan
  /-- `digits * 10 ^ exponent`. -/
  | finite (negative : Bool) (digits : Nat) (exponent : Int)
  deriving DecidableEq

inductive Scalar where
  | string (value : String)
  /-- No value stands for one outside 128 bits, or for a base mark without digits. -/
  | integer (value : Option Int)
  | float (value : FloatLiteral)
  | boolean (value : Bool)
  /-- A date, a time, or both. -/
  | moment (text : String)
  deriving DecidableEq

/-- How a table came into the text. -/
inductive Origin where
  /-- From a header of its own. -/
  | header
  /-- From the header of a table inside it. -/
  | implied
  /-- From a dotted key. -/
  | dotted
  | inline
  deriving DecidableEq

/-- A value with its mark. An array may be one of tables, each from a header in double brackets. -/
inductive Node where
  | scalar (mark : Nat) (value : Scalar)
  | array (mark : Nat) (ofTables : Bool) (items : List Node)
  | table (mark : Nat) (origin : Origin) (entries : List (Key × Node))

mutual

/-- Whether two values are the same, with all the marks in them. -/
def Node.decEq : (a b : Node) → Decidable (a = b)
  | .scalar mark value, .scalar mark' value' =>
    decidable_of_iff (mark = mark' ∧ value = value') (by simp)
  | .array mark ofTables items, .array mark' ofTables' items' =>
    have := Node.decEqItems items items'
    decidable_of_iff (mark = mark' ∧ ofTables = ofTables' ∧ items = items') (by simp)
  | .table mark origin entries, .table mark' origin' entries' =>
    have := Node.decEqEntries entries entries'
    decidable_of_iff (mark = mark' ∧ origin = origin' ∧ entries = entries') (by simp)
  | .scalar .., .array .. | .scalar .., .table .. | .array .., .scalar .. | .array .., .table ..
  | .table .., .scalar .. | .table .., .array .. => isFalse nofun

def Node.decEqItems : (xs ys : List Node) → Decidable (xs = ys)
  | [], [] => isTrue rfl
  | x :: xs, y :: ys =>
    have := Node.decEq x y
    have := Node.decEqItems xs ys
    decidable_of_iff (x = y ∧ xs = ys) (by simp)
  | [], _ :: _ | _ :: _, [] => isFalse nofun

def Node.decEqEntries : (xs ys : List (Key × Node)) → Decidable (xs = ys)
  | [], [] => isTrue rfl
  | (key, x) :: xs, (key', y) :: ys =>
    have := Node.decEq x y
    have := Node.decEqEntries xs ys
    decidable_of_iff (key = key' ∧ x = y ∧ xs = ys) (by simp [and_assoc])
  | [], _ :: _ | _ :: _, [] => isFalse nofun

end

instance : DecidableEq Node := Node.decEq

/-- The keys of a table with their values. No key stands twice. -/
abbrev Entries := List (Key × Node)

def Node.mark : Node → Nat
  | .scalar mark _ | .array mark _ _ | .table mark _ _ => mark

/-- What a part of a text says, or the problem with it. -/
abbrev Reading (α : Type) := Except Problem α

/-- A key, below a path of others, with its value. -/
structure Pair where
  path : List Key
  key : Key
  node : Node

/-- The header of a table, or of the next table of an array. -/
structure Header where
  mark : Nat
  ofArray : Bool
  path : List Key
  key : Key

/-- A header with the pairs below it. -/
structure Section where
  header : Reading Header
  pairs : List (Reading Pair)

namespace Entries

def get? (entries : Entries) (name : String) : Option Node :=
  (entries.find? fun (key, _) => key.name = name).map Prod.snd

/-- Changes the entry of a key, or adds one, where `change` allows it. -/
def alter (name : String) (change : Option (Key × Node) → Reading (Key × Node)) :
    Entries → Reading Entries
  | [] => (change none).map ([·])
  | entry :: entries =>
    if entry.1.name = name then (change (some entry)).map (· :: entries)
    else (alter name change entries).map (entry :: ·)

end Entries

/-- Changes the last table of an array of tables. -/
def alterLast (change : Entries → Reading Entries) : List Node → Reading (List Node)
  | [] => .error .malformed
  | [.table mark origin entries] => (change entries).map ([.table mark origin ·])
  | item :: items => (alterLast change items).map (item :: ·)

namespace Entries

/-- Adds a value under a dotted key. The path may pass through tables that no header and no braces
have completed, and the table at its end has to come from dotted keys too. -/
def addPair : List Key → Key → Node → Entries → Reading Entries
  | [], key, node, entries =>
    entries.alter key.name fun
      | none => .ok (key, node)
      | some _ => .error .malformed
  | step :: path, key, node, entries =>
    entries.alter step.name fun
      | none => (addPair path key node []).map (step, .table step.mark .dotted ·)
      | some (old, .table mark .dotted inner) =>
        (addPair path key node inner).map (old, .table mark .dotted ·)
      | some (old, .table mark .implied inner) =>
        if path.isEmpty then .error .malformed
        else (addPair path key node inner).map (old, .table mark .implied ·)
      | some (old, .array mark true items) =>
        if path.isEmpty then .error .malformed
        else (alterLast (addPair path key node) items).map (old, .array mark true ·)
      | some _ => .error .malformed

/-- Adds pairs to a table, in order. The first problem, be it with a pair itself or with adding it,
is the problem of the whole. -/
def addPairs (pairs : List (Reading Pair)) (entries : Entries) : Reading Entries :=
  pairs.foldlM (fun entries pair => do
    let pair ← pair
    addPair pair.path pair.key pair.node entries) entries

/-- Changes the table at the end of the path of a header. The path may pass through any table but
an inline one, and through the last table of an array. -/
def alterWithin (change : Entries → Reading Entries) : List Key → Entries → Reading Entries
  | [], entries => change entries
  | step :: path, entries =>
    entries.alter step.name fun
      | none => (alterWithin change path []).map (step, .table step.mark .implied ·)
      | some (_, .table _ .inline _) => .error .malformed
      | some (old, .table mark origin inner) =>
        (alterWithin change path inner).map (old, .table mark origin ·)
      | some (old, .array mark true items) =>
        (alterLast (alterWithin change path) items).map (old, .array mark true ·)
      | some _ => .error .malformed

/-- Adds the table that a header opens, with its pairs. -/
def openTable (mark : Nat) (key : Key) (pairs : List (Reading Pair)) (entries : Entries) :
    Reading Entries :=
  entries.alter key.name fun
    | none => (addPairs pairs []).map (key, .table mark .header ·)
    | some (_, .table _ .implied inner) =>
      (addPairs pairs inner).map (key, .table mark .header ·)
    | some _ => .error .malformed

/-- Adds the table that a header in double brackets opens. -/
def openItem (mark : Nat) (key : Key) (item : Entries) (entries : Entries) : Reading Entries :=
  entries.alter key.name fun
    | none => .ok (key, .array mark true [.table mark .header item])
    | some (old, .array first true items) =>
      .ok (old, .array first true (items ++ [.table mark .header item]))
    | some _ => .error .malformed

/-- Adds a section to the table of the whole text. The next table of an array is complete before it
takes its place, and any other table takes its place first. -/
def addSection (entries : Entries) (sec : Section) : Reading Entries := do
  let header ← sec.header
  if header.ofArray then
    let item ← addPairs sec.pairs []
    alterWithin (openItem header.mark header.key item) header.path entries
  else alterWithin (openTable header.mark header.key sec.pairs) header.path entries

end Entries

end Countoff.Toml
