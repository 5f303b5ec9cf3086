import Countoff.Text.Hexadecimal
import Countoff.Toml.Characters

/-!
# Strings

The four notations of a string. Basic strings have escapes and literal strings have none; either
may be written over several lines between triple quotes, where up to two quotes may stand in front
of the closing ones, and a line break directly behind the opening ones does not count. Each reader
starts behind the opening quotes and stops behind the closing ones.
-/

namespace Countoff.Toml

def hexValue? (digits : List Char) : Option Nat :=
  digits.foldlM (fun n c => (Text.hexDigit? c).map (n * 16 + ·)) 0

/-- The character whose code point the digits give. A surrogate is no character. -/
def codePoint? (digits : List Char) : Option Char := do
  let n ← hexValue? digits
  if n.isValidChar then some (Char.ofNat n) else none

def shortEscape? : Char → Option Char
  | 'b' => some '\x08'
  | 't' => some '\t'
  | 'n' => some '\n'
  | 'f' => some '\x0c'
  | 'r' => some '\r'
  | 'e' => some '\x1b'
  | '"' => some '"'
  | '\\' => some '\\'
  | _ => none

/-- The text that was read so far, with a character in front. -/
def andThen (c : Char) : Option (List Char × List Char) → Option (List Char × List Char)
  | some (s, rest) => some (c :: s, rest)
  | none => none

def readBasic : List Char → Option (List Char × List Char)
  | [] => none
  | '\\' :: 'x' :: a :: b :: rest => do andThen (← codePoint? [a, b]) (readBasic rest)
  | '\\' :: 'u' :: a :: b :: c :: d :: rest => do
    andThen (← codePoint? [a, b, c, d]) (readBasic rest)
  | '\\' :: 'U' :: a :: b :: c :: d :: e :: f :: g :: h :: rest => do
    andThen (← codePoint? [a, b, c, d, e, f, g, h]) (readBasic rest)
  | '\\' :: c :: rest => do andThen (← shortEscape? c) (readBasic rest)
  | c :: rest =>
    if c = '"' then some ([], rest)
    else if isCommentChar c then andThen c (readBasic rest)
    else none

def readLiteral : List Char → Option (List Char × List Char)
  | [] => none
  | c :: rest =>
    if c = '\x27' then some ([], rest)
    else if isCommentChar c then andThen c (readLiteral rest)
    else none

/-- The text without a line break at its beginning. -/
def skipLineBreak : List Char → List Char
  | '\n' :: rest => rest
  | '\r' :: '\n' :: rest => rest
  | cs => cs

/-- Where the reader of a basic string of several lines stands. -/
inductive Fold where
  /-- Between two characters of the string. -/
  | none
  /-- Behind a backslash, on the way to the end of its line. -/
  | line
  /-- Behind such a line, on the way to the next character that is neither space nor line break. -/
  | space
  deriving DecidableEq

/-- Reads a basic string of several lines. A backslash at the end of a line takes all spaces and
line breaks behind it out of the string. -/
def readBasicLines : Fold → List Char → Option (List Char × List Char)
  | _, [] => .none
  | .line, '\n' :: rest => readBasicLines .space rest
  | .line, '\r' :: '\n' :: rest => readBasicLines .space rest
  | .line, c :: rest => if isSpace c then readBasicLines .line rest else .none
  | .space, '\n' :: rest => readBasicLines .space rest
  | .space, '\r' :: '\n' :: rest => readBasicLines .space rest
  | .none, '\r' :: '\n' :: rest => andThen '\r' (andThen '\n' (readBasicLines .none rest))
  | _, '"' :: '"' :: '"' :: '"' :: '"' :: rest => some (['"', '"'], rest)
  | _, '"' :: '"' :: '"' :: '"' :: rest => some (['"'], rest)
  | _, '"' :: '"' :: '"' :: rest => some ([], rest)
  | _, '\\' :: 'x' :: a :: b :: rest => do
    andThen (← codePoint? [a, b]) (readBasicLines .none rest)
  | _, '\\' :: 'u' :: a :: b :: c :: d :: rest => do
    andThen (← codePoint? [a, b, c, d]) (readBasicLines .none rest)
  | _, '\\' :: 'U' :: a :: b :: c :: d :: e :: f :: g :: h :: rest => do
    andThen (← codePoint? [a, b, c, d, e, f, g, h]) (readBasicLines .none rest)
  | _, '\\' :: '\n' :: rest => readBasicLines .space rest
  | _, '\\' :: '\r' :: '\n' :: rest => readBasicLines .space rest
  | _, '\\' :: c :: rest =>
    if isSpace c then readBasicLines .line rest
    else do andThen (← shortEscape? c) (readBasicLines .none rest)
  | fold, c :: rest =>
    if fold = .space ∧ isSpace c then readBasicLines .space rest
    else if c = '\n' ∨ isCommentChar c then andThen c (readBasicLines .none rest)
    else .none

def readLiteralLines : List Char → Option (List Char × List Char)
  | [] => none
  | '\x27' :: '\x27' :: '\x27' :: '\x27' :: '\x27' :: rest => some (['\x27', '\x27'], rest)
  | '\x27' :: '\x27' :: '\x27' :: '\x27' :: rest => some (['\x27'], rest)
  | '\x27' :: '\x27' :: '\x27' :: rest => some ([], rest)
  | '\r' :: '\n' :: rest => andThen '\r' (andThen '\n' (readLiteralLines rest))
  | c :: rest =>
    if c = '\n' ∨ isCommentChar c then andThen c (readLiteralLines rest) else none

/-- Reads a string of one line, from its opening quote on. -/
def readLine? : List Char → Option (List Char × List Char)
  | '"' :: rest => readBasic rest
  | '\x27' :: rest => readLiteral rest
  | _ => none

/-- Reads a string in any notation, from its opening quote on. -/
def readString? : List Char → Option (List Char × List Char)
  | '"' :: '"' :: '"' :: rest => readBasicLines .none (skipLineBreak rest)
  | '\x27' :: '\x27' :: '\x27' :: rest => readLiteralLines (skipLineBreak rest)
  | cs => readLine? cs

end Countoff.Toml
