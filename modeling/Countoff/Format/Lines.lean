/-!
# Lines

Texts one to a line, each line ended by a line feed.
-/

namespace Countoff.Lines

/-- Each text on a line of its own. -/
def lines (texts : List (List Char)) : List Char :=
  texts.flatMap fun text => text ++ ['\n']

/-- The lines of a text. What stands behind the last line feed is a line too, unless it is empty. -/
def read : List Char → List (List Char)
  | [] => []
  | c :: rest =>
    if c = '\n' then [] :: read rest
    else
      match read rest with
      | [] => [[c]]
      | line :: lines => (c :: line) :: lines

end Countoff.Lines
