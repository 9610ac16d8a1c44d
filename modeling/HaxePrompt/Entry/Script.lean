import HaxePrompt.Entry.Delimiters
import HaxePrompt.Text.Blank

/-! # Scripts

A script is a text of several inputs.  `Script.blocks` splits it: lines are joined as long as
delimiters are open, and between two inputs blank lines and lines that begin with a line comment
are passed over.  Each block keeps the number of the line it starts on. -/

namespace HaxePrompt.Script

/-- One input of a script. -/
structure Block where
  /-- The number of its first line, counted from one. -/
  line : Nat
  text : Text
deriving DecidableEq, Repr

/-- Is the line passed over between two inputs? -/
def isPassedOver (line : Text) : Bool :=
  let trimmed := Text.trim line
  trimmed.isEmpty || ("//" : Text).isPrefixOf trimmed

def Block.extend (block : Block) (line : Text) : Block :=
  { block with text := block.text ++ Text.newline ++ line }

/-- The blocks of the remaining lines, the first of which has the given number, after the lines
of an unfinished block, if there is one. -/
def blocksFrom : Option Block → Nat → List Text → List Block
  | none, _, [] => []
  | some pending, _, [] => [pending]
  | none, number, line :: rest =>
    if isPassedOver line then blocksFrom none (number + 1) rest
    else if Delimiters.isUnclosed line then blocksFrom (some ⟨number, line⟩) (number + 1) rest
    else ⟨number, line⟩ :: blocksFrom none (number + 1) rest
  | some pending, number, line :: rest =>
    if Delimiters.isUnclosed (pending.extend line).text then
      blocksFrom (some (pending.extend line)) (number + 1) rest
    else pending.extend line :: blocksFrom none (number + 1) rest

/-- The inputs of a script. -/
def blocks (script : Text) : List Block := blocksFrom none 1 (Text.lines script)

end HaxePrompt.Script
