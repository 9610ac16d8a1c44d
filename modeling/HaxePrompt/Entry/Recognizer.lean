import HaxePrompt.Text.Alphanumeric
import HaxePrompt.Text.Blank

/-! # Recognizers of the reserved forms

A recognizer looks at the beginning of a text.  It gives a `Match`, the token and the text after
it, or a `Miss`: what was expected, and the text that stood where it was expected.  The reserved
forms are an identifier, the keywords `import`, `using` and `var` (each followed by exactly one
blank), a variable declaration, and the `$type(` of a type query. -/

namespace HaxePrompt

/-- What a recognizer expected and did not find. -/
inductive Expectation where
  | literal
  | character
  | run
  | boundary
deriving DecidableEq, Repr

/-- A failed recognition: the expectation, and the text found in its place. -/
structure Miss where
  expected : Expectation
  found : Text
deriving DecidableEq, Repr

/-- A successful recognition: the token, and the text after it. -/
structure Match where
  token : Text
  rest : Text
deriving DecidableEq, Repr

/-- A recognizer of the beginning of a text. -/
abbrev Recognizer := Text → Except Miss Match

namespace Recognizer

/-! ### Building blocks -/

def literal (word : Text) : Recognizer := fun s =>
  match word.isPrefixOf? s with
  | some rest => .ok ⟨word, rest⟩
  | none => .error ⟨.literal, s⟩

def character (isMember : Char → Bool) : Recognizer := fun s =>
  match s with
  | c :: rest => if isMember c then .ok ⟨[c], rest⟩ else .error ⟨.character, s⟩
  | [] => .error ⟨.character, s⟩

/-- As many characters of a class as there are, and at least one. -/
def run (isMember : Char → Bool) : Recognizer := fun s =>
  match s.takeWhile isMember with
  | [] => .error ⟨.run, s⟩
  | token => .ok ⟨token, s.dropWhile isMember⟩

/-- A token that is not directly followed by a character of a class. -/
def notBefore (isMember : Char → Bool) (recognizer : Recognizer) : Recognizer := fun s => do
  let found ← recognizer s
  match found.rest with
  | c :: _ => if isMember c then .error ⟨.boundary, found.rest⟩ else return found
  | [] => return found

/-- A word followed by one blank.  The blank belongs to neither the token nor the rest. -/
def keyword (word : Text) : Recognizer := fun s => do
  let found ← literal word s
  let blank ← character Text.isBlank found.rest
  return ⟨found.token, blank.rest⟩

/-! ### The reserved forms -/

/-- May the character stand in the name of a retained value? -/
def isNameChar (c : Char) : Bool := ('a' ≤ c && c ≤ 'z') || ('0' ≤ c && c ≤ '9') || c == '_'

/-- Is the character part of a word, in the sense that a name cannot end right before it? -/
def isWordChar (c : Char) : Bool := Text.isAlphanumeric c || c == '_'

/-- A name of lower-case letters, digits and underscores. -/
def identifier : Recognizer := run isNameChar

/-- The keyword of an import declaration. -/
def importKeyword : Recognizer := fun s =>
  match keyword "import" s with
  | .ok found => .ok found
  | .error _ => keyword "using" s

/-- A variable declaration; its token is the declared name, which has to be a whole word. -/
def declaration : Recognizer := fun s => do
  let var ← keyword "var" s
  notBefore isWordChar identifier var.rest

/-- The text that a type query begins with. -/
def typeQueryMark : Text := "$type("

/-- The beginning of a type query. -/
def typeQuery : Recognizer := literal typeQueryMark

/-- Does the text begin with the form? -/
def accepts (recognizer : Recognizer) (s : Text) : Bool := (recognizer s).isOk

/-- Is the whole text an identifier? -/
def isIdentifier (s : Text) : Bool :=
  match identifier s with
  | .ok found => found.rest.isEmpty
  | .error _ => false

end Recognizer

end HaxePrompt
