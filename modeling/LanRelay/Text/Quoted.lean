/-
A text in double quotes in which every character can be seen.

A quote, a backslash and the common control characters have short escapes;
every other character that cannot be seen is written as its number.
-/
import LanRelay.Text.Digits
import LanRelay.Text.Hidden

namespace LanRelay.Text

/-- How a character is shown. -/
def showChar (c : Char) : List Char :=
  match c with
  | '"' => ['\\', '"']
  | '\\' => ['\\', '\\']
  | '\x00' => ['\\', '0']
  | '\t' => ['\\', 't']
  | '\n' => ['\\', 'n']
  | '\r' => ['\\', 'r']
  | c =>
      if c.toNat < 0x20 ∨ c.toNat = 0x7F ∨ isHidden c then
        "\\u\x7b".toList ++ (hexNumeral c.toNat).toList ++ ['\x7d']
      else [c]

/-- A text in quotes. -/
def quoted (text : String) : String :=
  String.ofList ('"' :: text.toList.flatMap showChar ++ ['"'])

end LanRelay.Text
