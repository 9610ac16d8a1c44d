import HaxePrompt.Text.Basic

/-! # Open delimiters

`isUnclosed` decides whether an input goes on on the next line: it does when more brackets were
opened than closed in its code, or when it ends inside a block comment.  The text is scanned
once (`scan`), and brackets count only in code, not inside strings or comments.  A string that
is not closed does not keep the input open. -/

namespace HaxePrompt.Delimiters

/-- Where the scan stands. -/
inductive Mode where
  | code
  /-- Inside a string opened by `quote`; `escaped` if a backslash has just been read. -/
  | quoted (quote : Char) (escaped : Bool)
  | lineComment
  | blockComment
deriving DecidableEq, Repr

/-- The change of depth that a character of code brings. -/
def weight (c : Char) : Int :=
  if c = '\x7b' ∨ c = '(' ∨ c = '[' then 1
  else if c = '\x7d' ∨ c = ')' ∨ c = ']' then -1
  else 0

/-- Scans a text from a mode and a depth to the mode and the depth at its end. -/
def scan : Mode → Int → Text → Mode × Int
  | mode, depth, [] => (mode, depth)
  | .code, depth, '/' :: '/' :: rest => scan .lineComment depth rest
  | .code, depth, '/' :: '*' :: rest => scan .blockComment depth rest
  | .code, depth, c :: rest =>
    if c = '"' ∨ c = '\'' then scan (.quoted c false) depth rest
    else scan .code (depth + weight c) rest
  | .quoted quote true, depth, _ :: rest => scan (.quoted quote false) depth rest
  | .quoted quote false, depth, c :: rest =>
    if c = '\\' then scan (.quoted quote true) depth rest
    else if c = quote then scan .code depth rest
    else scan (.quoted quote false) depth rest
  | .lineComment, depth, c :: rest =>
    if c = '\n' then scan .code depth rest else scan .lineComment depth rest
  | .blockComment, depth, '*' :: '/' :: rest => scan .code depth rest
  | .blockComment, depth, _ :: rest => scan .blockComment depth rest

/-- Does the input go on on the next line?  The depth is an integer without bounds; a count in 32
bits agrees with it on texts of fewer than `2 ^ 31` characters (`scanWord_eq_scan`). -/
def isUnclosed (s : Text) : Bool :=
  let (mode, depth) := scan .code 0 s
  0 < depth || mode = .blockComment

end HaxePrompt.Delimiters
