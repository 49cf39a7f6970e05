import Phrasebook.Text.Basic
import Phrasebook.Text.Printable

/-! Texts in double quotes. A quote, a backslash and the usual controls have short escapes;
any other character that would not show as itself is written by its code point. -/
namespace Phrasebook.Text

def hexDigits (n : Nat) : List Char := Nat.toDigits 16 n

def escaped (c : Char) : List Char :=
  if c = '\x00' then ['\\', '0']
  else if c = '\t' then ['\\', 't']
  else if c = '\n' then ['\\', 'n']
  else if c = '\r' then ['\\', 'r']
  else if c = '"' then ['\\', '"']
  else if c = '\\' then ['\\', '\\']
  else if isPrintable c then [c]
  else ['\\', 'u', '\x7b'] ++ hexDigits c.toNat ++ ['\x7d']

def quoted (t : Text) : Text := '"' :: t.flatMap escaped ++ ['"']

end Phrasebook.Text
