import Countoff.Text.Hexadecimal
import Countoff.Text.Hidden

/-!
# Quoted text

Text between double quotes, for messages. The quote and the backslash are preceded by a backslash,
the usual controls have their short escapes, any other character that does not show is written by
its number in braces, and all else stands for itself.
-/

namespace Countoff.Text

/-- How a character is written between quotes. -/
def quotedChar (c : Char) : List Char :=
  match c with
  | '\x00' => ['\\', '0']
  | '\t' => ['\\', 't']
  | '\n' => ['\\', 'n']
  | '\r' => ['\\', 'r']
  | '"' => ['\\', '"']
  | '\\' => ['\\', '\\']
  | c => if isHidden c then ['\\', 'u', '\x7b'] ++ hexDigits c.toNat ++ ['\x7d'] else [c]

/-- A text between double quotes. -/
def quoted (s : String) : String :=
  String.ofList ('"' :: s.toList.flatMap quotedChar ++ ['"'])

end Countoff.Text
