import Phrasebook.Text.Basic
import Phrasebook.Text.Ranges

/-! White space: the characters of the Unicode property White_Space, and trimming. -/
namespace Phrasebook.Text

def blanks : Ranges :=
  [(0x09, 0x0D), (0x20, 0x20), (0x85, 0x85), (0xA0, 0xA0), (0x1680, 0x1680), (0x2000, 0x200A),
   (0x2028, 0x2029), (0x202F, 0x202F), (0x205F, 0x205F), (0x3000, 0x3000)]

def isBlank (c : Char) : Bool := blanks.mem c

def trimStart (t : Text) : Text := t.dropWhile isBlank

def trimEnd (t : Text) : Text := dropEnd isBlank t

def trim (t : Text) : Text := trimEnd (trimStart t)

end Phrasebook.Text
