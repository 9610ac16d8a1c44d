import HaxePrompt.Text.Basic

/-! # Styled text

What is shown at the terminal is made of fragments, some of them in a style.  `render` writes
fragments as text: with colours, a styled fragment stands between the escape sequence of its
style and the one that ends it; without, all fragments are plain. -/

namespace HaxePrompt

/-- The colours of the terminal. -/
inductive Colour where
  | black | red | green | yellow | blue | purple | cyan
deriving DecidableEq, Repr

/-- The digit of a colour in an escape sequence. -/
def Colour.digit : Colour → Char
  | .black => '0'
  | .red => '1'
  | .green => '2'
  | .yellow => '3'
  | .blue => '4'
  | .purple => '5'
  | .cyan => '6'

/-- A style: the weight and the colours that differ from those of plain text. -/
structure Style where
  bold : Bool := false
  background : Option Colour := none
  foreground : Option Colour := none
deriving DecidableEq, Repr

def Style.parameters (style : Style) : List Text :=
  (if style.bold then [['1']] else []) ++
    (style.background.map fun colour => ['4', colour.digit]).toList ++
    (style.foreground.map fun colour => ['3', colour.digit]).toList

/-- A piece of text, plain or in a style. -/
inductive Fragment where
  | plain (text : Text)
  | styled (style : Style) (text : Text)
deriving DecidableEq, Repr

namespace Fragment

/-- The character that begins an escape sequence. -/
def escape : Char := '\x1b'

/-- A fragment as text, with or without colours. -/
def render (colours : Bool) : Fragment → Text
  | .plain text => text
  | .styled style text =>
    if colours ∧ style.parameters ≠ [] then
      [escape, '['] ++ Text.join [';'] style.parameters ++ ['m'] ++ text ++ [escape, '[', '0', 'm']
    else text

def renderAll (colours : Bool) (fragments : List Fragment) : Text :=
  fragments.flatMap (render colours)

end Fragment

end HaxePrompt
