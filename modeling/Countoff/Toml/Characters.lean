/-!
# Characters between tokens

Which characters may stand in bare keys, comments and strings, and what may stand between tokens:
spaces on one line, and lines and comments where a text may go on below.
-/

namespace Countoff.Toml

/-- The white space within a line. -/
def isSpace (c : Char) : Bool :=
  c = ' ' || c = '\t'

/-- The characters of a key without quotes. -/
def isBare (c : Char) : Bool :=
  c.isAlphanum || c = '-' || c = '_'

/-- The characters of comments: a tab and all that are not controls. -/
def isCommentChar (c : Char) : Bool :=
  c = '\t' || (0x20 ≤ c.toNat && c.toNat ≠ 0x7f)

def skipSpaces (cs : List Char) : List Char :=
  cs.dropWhile isSpace

/-- The text without the spaces, line breaks and comments at its beginning, if the comments hold
nothing that they may not. -/
def skipLines? (inComment : Bool) : List Char → Option (List Char)
  | [] => some []
  | '\n' :: rest => skipLines? false rest
  | '\r' :: '\n' :: rest => skipLines? false rest
  | c :: rest =>
    if inComment then if isCommentChar c then skipLines? true rest else none
    else if isSpace c then skipLines? false rest
    else if c = '#' then skipLines? true rest
    else some (c :: rest)

/-- The text behind the spaces at its beginning, if a line ends there or a comment begins. -/
def lineEnd? (cs : List Char) : Option (List Char) :=
  match skipSpaces cs with
  | [] => some []
  | '\n' :: rest => some ('\n' :: rest)
  | '\r' :: '\n' :: rest => some ('\r' :: '\n' :: rest)
  | '#' :: rest => some ('#' :: rest)
  | _ => none

end Countoff.Toml
