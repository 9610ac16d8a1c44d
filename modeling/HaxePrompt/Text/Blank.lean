import HaxePrompt.Text.Basic

/-! # Blank characters

The blank characters are those with the property `White_Space` of the Unicode standard
(`isBlank`).  `trim` takes the blanks off both ends of a text. -/

namespace HaxePrompt.Text

/-- Is the character white space in the sense of the Unicode standard? -/
def isBlank (c : Char) : Bool :=
  let n := c.toNat
  (0x09 ≤ n && n ≤ 0x0D) || n == 0x20 || n == 0x85 || n == 0xA0 || n == 0x1680 ||
    (0x2000 ≤ n && n ≤ 0x200A) || n == 0x2028 || n == 0x2029 || n == 0x202F ||
    n == 0x205F || n == 0x3000

def trimStart (s : Text) : Text := s.dropWhile isBlank

def trimEnd (s : Text) : Text := (s.reverse.dropWhile isBlank).reverse

/-- The text without the blanks around it. -/
def trim (s : Text) : Text := trimEnd (trimStart s)

end HaxePrompt.Text
