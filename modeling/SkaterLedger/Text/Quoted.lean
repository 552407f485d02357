import SkaterLedger.Text.Digit
import SkaterLedger.Text.Printable

/-!
# Quoted values in messages

A message shows a value between quotation marks, with an escape for everything that could not be
told apart on paper.
-/

namespace SkaterLedger.Text

/-- How a message shows one character of a quoted value. -/
def quotedChar (c : Char) : List Char :=
  if c == '\x00' then ['\\', '0']
  else if c == '\t' then ['\\', 't']
  else if c == '\r' then ['\\', 'r']
  else if c == '\n' then ['\\', 'n']
  else if c == '"' then ['\\', '"']
  else if c == '\\' then ['\\', '\\']
  else if isPrintable c then [c]
  else ['\\', 'u', '\x7b'] ++ Nat.toDigits 16 c.toNat ++ ['\x7d']

/-- A value between quotation marks. -/
def quoted (s : String) : String :=
  String.ofList ('"' :: s.toList.flatMap quotedChar ++ ['"'])

end SkaterLedger.Text
