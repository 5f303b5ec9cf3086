import Countoff.Toml.Characters

/-!
# Tokens

The words of a TOML text, told apart before anything is made of them. A string ends at its closing
quotes, whatever it holds, and every other word ends at the next mark of the grammar, space or line
break. So a word that stands for nothing has an end too, and the text goes on behind it.
-/

namespace Countoff.Toml

/-! ## Strings -/

/-- The text behind a basic string, which begins behind its opening quote. A string without a
closing quote ends with its line. -/
def afterBasic : List Char → List Char
  | [] => []
  | '\\' :: '\\' :: rest | '\\' :: '"' :: rest => afterBasic rest
  | c :: rest =>
    if c = '"' then rest
    else if c = '\n' then c :: rest
    else afterBasic rest

/-- The text behind a literal string, which begins behind its opening quote. A string without a
closing quote ends with its line. -/
def afterLiteral : List Char → List Char
  | [] => []
  | c :: rest =>
    if c = '\x27' then rest
    else if c = '\n' then c :: rest
    else afterLiteral rest

/-- The text behind a basic string of several lines, which begins behind its opening quotes. A
string without closing quotes ends with the text. -/
def afterBasicLines : List Char → List Char
  | [] => []
  | '\\' :: '\\' :: rest | '\\' :: '"' :: rest => afterBasicLines rest
  | '"' :: '"' :: '"' :: '"' :: '"' :: rest => rest
  | '"' :: '"' :: '"' :: '"' :: rest => rest
  | '"' :: '"' :: '"' :: rest => rest
  | _ :: rest => afterBasicLines rest

/-- The text behind a literal string of several lines, which begins behind its opening quotes. A
string without closing quotes ends with the text. -/
def afterLiteralLines : List Char → List Char
  | [] => []
  | '\x27' :: '\x27' :: '\x27' :: '\x27' :: '\x27' :: rest => rest
  | '\x27' :: '\x27' :: '\x27' :: '\x27' :: rest => rest
  | '\x27' :: '\x27' :: '\x27' :: rest => rest
  | _ :: rest => afterLiteralLines rest

/-- The text behind a string in any notation, if one begins here. -/
def afterString? : List Char → Option (List Char)
  | '"' :: '"' :: '"' :: rest => some (afterBasicLines rest)
  | '\x27' :: '\x27' :: '\x27' :: rest => some (afterLiteralLines rest)
  | '"' :: rest => some (afterBasic rest)
  | '\x27' :: rest => some (afterLiteral rest)
  | _ => none

/-- Splits off the text of a string, quotes and all, if one begins here. -/
def splitString? (cs : List Char) : Option (List Char × List Char) :=
  (afterString? cs).map fun rest => (cs.take (cs.length - rest.length), rest)

/-! ## Other words -/

/-- The characters of words that are no strings. A quote is one of them, but no word begins with
it. -/
def isWordChar (c : Char) : Bool :=
  !(isSpace c || c = '\n' || c = '\r' || c = '#' || c = '=' || c = ',' || c = '.' || c = '[' ||
    c = ']' || c = '\x7b' || c = '\x7d')

/-- Splits off the text of the word that begins here, if any. -/
def splitToken (cs : List Char) : List Char × List Char :=
  (splitString? cs).getD (cs.span isWordChar)

/-- Splits off the text of a value that is no string and has no parts: words with points between
them. Spaces belong to it if it goes on behind them, as a date does with a time. A string is a value
of its own; `fresh` tells whether one could begin here. -/
def splitScalar (fresh : Bool) : List Char → List Char × List Char
  | [] => ([], [])
  | c :: rest =>
    if fresh && (c = '"' || c = '\x27') then ([], c :: rest)
    else if isWordChar c || c = '.' then
      let (text, after) := splitScalar (c = '.') rest
      (c :: text, after)
    else if isSpace c then
      match splitScalar true rest with
      | ([], _) => ([], c :: rest)
      | (text, after) => (c :: text, after)
    else ([], c :: rest)

/-- The text without what stands in front of the end of its line. A comment ends the line too. -/
def skipStatement : Nat → List Char → List Char
  | 0, cs => cs
  | fuel + 1, cs =>
    match splitToken cs with
    | ([], []) => []
    | ([], c :: rest) =>
      if c = '\n' ∨ c = '\r' ∨ c = '#' then c :: rest else skipStatement fuel rest
    | (_, rest) => skipStatement fuel rest

end Countoff.Toml
