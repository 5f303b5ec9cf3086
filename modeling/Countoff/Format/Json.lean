import Countoff.Text.Hexadecimal

/-!
# Arrays of strings in JSON

The compact form of an array of strings, and a reader for every form of one. The writer escapes
the quote, the backslash and the characters below the space, five of which have a short form; all
else stands for itself. The reader also takes white space between tokens, the escapes that the
writer does not use, and characters beyond the first plane as a pair of surrogates.
-/

namespace Countoff.Json

/-! ## Writing -/

/-- How a character is written in a string. -/
def escape (c : Char) : List Char :=
  match c with
  | '"' => ['\\', '"']
  | '\\' => ['\\', '\\']
  | '\x08' => ['\\', 'b']
  | '\x0c' => ['\\', 'f']
  | '\n' => ['\\', 'n']
  | '\r' => ['\\', 'r']
  | '\t' => ['\\', 't']
  | c =>
    if c.toNat < 0x20 then
      ['\\', 'u', '0', '0', Nat.digitChar (c.toNat / 16), Nat.digitChar (c.toNat % 16)]
    else [c]

def string (s : List Char) : List Char :=
  '"' :: s.flatMap escape ++ ['"']

def elements : List (List Char) → List Char
  | [] => []
  | [s] => string s
  | s :: rest => string s ++ ',' :: elements rest

/-- The compact form of an array of strings. -/
def array (strings : List (List Char)) : List Char :=
  '[' :: elements strings ++ [']']

/-! ## Reading -/

def isSpace (c : Char) : Bool :=
  c = ' ' || c = '\t' || c = '\n' || c = '\r'

def unit? (a b c d : Char) : Option Nat := do
  let a ← Text.hexDigit? a
  let b ← Text.hexDigit? b
  let c ← Text.hexDigit? c
  let d ← Text.hexDigit? d
  return ((a * 16 + b) * 16 + c) * 16 + d

/-- What an escape of one letter stands for. -/
def shortEscape? : Char → Option Char
  | '"' => some '"'
  | '\\' => some '\\'
  | '/' => some '/'
  | 'b' => some '\x08'
  | 'f' => some '\x0c'
  | 'n' => some '\n'
  | 'r' => some '\r'
  | 't' => some '\t'
  | _ => none

/-- Reads a string from behind its opening quote up to and with the closing one. `lead` is the
first half of a surrogate pair whose second half has to come next. -/
def readString (lead : Option Nat) : List Char → Option (List Char × List Char)
  | [] => none
  | '\\' :: 'u' :: a :: b :: c :: d :: rest => do
    let unit ← unit? a b c d
    match lead with
    | none =>
      if 0xd800 ≤ unit ∧ unit < 0xdc00 then readString (some unit) rest
      else if 0xdc00 ≤ unit ∧ unit < 0xe000 then none
      else (readString none rest).map fun (s, rest) => (Char.ofNat unit :: s, rest)
    | some lead =>
      if 0xdc00 ≤ unit ∧ unit < 0xe000 then
        let code := 0x10000 + (lead - 0xd800) * 0x400 + (unit - 0xdc00)
        (readString none rest).map fun (s, rest) => (Char.ofNat code :: s, rest)
      else none
  | '\\' :: c :: rest => do
    let c ← shortEscape? c
    if lead.isSome then none
    else (readString none rest).map fun (s, rest) => (c :: s, rest)
  | c :: rest =>
    if lead.isSome ∨ c.toNat < 0x20 then none
    else if c = '"' then some ([], rest)
    else (readString none rest).map fun (s, rest) => (c :: s, rest)

/-- Reads strings with commas between them up to and with the closing bracket. Every string takes
a character at least, so a text of `n` characters holds fewer than `n` of them. -/
def readElements : Nat → List Char → Option (List (List Char) × List Char)
  | 0, _ => none
  | n + 1, cs =>
    match cs.dropWhile isSpace with
    | '"' :: cs => do
      let (s, cs) ← readString none cs
      match cs.dropWhile isSpace with
      | ',' :: cs => (readElements n cs).map fun (strings, rest) => (s :: strings, rest)
      | ']' :: cs => some ([s], cs)
      | _ => none
    | _ => none

/-- Reads a text that holds one array of strings and nothing else. -/
def readArray (cs : List Char) : Option (List (List Char)) := do
  match cs.dropWhile isSpace with
  | '[' :: cs =>
    let (strings, rest) ←
      match cs.dropWhile isSpace with
      | ']' :: rest => some ([], rest)
      | _ => readElements cs.length cs
    if rest.all isSpace then some strings else none
  | _ => none

end Countoff.Json
