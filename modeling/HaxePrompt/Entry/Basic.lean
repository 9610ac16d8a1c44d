import HaxePrompt.Entry.Recognizer

/-! # Entries

An `Entry` is what was entered at the prompt, read once and for all: `Entry.read` takes the
blanks off both ends, decides its kind and works out what the rest of the program needs to know
about it.  An entry with a part (`Entry.part?`) is kept in that part of the history when it
succeeds; its `source` is the text kept, always ended by a semicolon. -/

namespace HaxePrompt

/-- The kinds of entries. -/
inductive Entry.Kind where
  | empty
  | listing
  | importing
  | binding
  | typeQuery
  | expression
deriving DecidableEq, Repr

/-- The name of a kind in the log. -/
def Entry.Kind.name : Entry.Kind → Text
  | .empty => "Empty"
  | .listing => "Meta"
  | .importing => "Import"
  | .binding => "Binding"
  | .typeQuery => "TypeQuery"
  | .expression => "Expression"

/-- The two parts of a session's history. -/
inductive Part where
  | imports
  | statements
deriving DecidableEq, Repr

/-- The part of the history that entries of a kind belong to. -/
def Entry.Kind.part? : Entry.Kind → Option Part
  | .empty | .listing => none
  | .importing => some .imports
  | .binding | .typeQuery | .expression => some .statements

/-- What was entered at the prompt. -/
structure Entry where
  raw : Text
  kind : Entry.Kind
  /-- The terminated source; empty for an entry without a part. -/
  source : Text := []
  /-- The identifier whose value is shown as the result. -/
  retained : Option Text := none
  /-- Is the value of the entry itself kept from being shown? -/
  silent : Bool := false
  /-- Is the entry dropped from the history even when it succeeds? -/
  transient : Bool := false
deriving DecidableEq, Repr

namespace Entry

/-- The part of the history that the entry belongs to. -/
def part? (entry : Entry) : Option Part := entry.kind.part?

/-- The input that asks for the listing of the session. -/
def listingRequest : Text := "$"

/-- The character that ends a statement. -/
def terminator : Char := ';'

/-- The text with a terminator at its end. -/
def terminate (s : Text) : Text :=
  if s.getLast? = some terminator then s else s ++ [terminator]

/-- Reads a statement, given without the blanks around it.  Whether it is a lone identifier or a
type query is decided on the text as typed, a declaration on the terminated source. -/
def readStatement (raw : Text) : Entry :=
  let source := terminate raw
  let transient := Recognizer.typeQuery.accepts raw
  match Recognizer.declaration source with
  | .ok name =>
    { raw, kind := .binding, source, retained := some name.token, silent := true, transient }
  | .error _ =>
    { raw, kind := if transient then .typeQuery else .expression, source,
      retained := if Recognizer.isIdentifier raw then some raw else none, transient }

def read (input : Text) : Entry :=
  let raw := Text.trim input
  if raw = [] then { raw, kind := .empty }
  else if raw = listingRequest then { raw, kind := .listing }
  else if Recognizer.importKeyword.accepts raw then
    { raw, kind := .importing, source := terminate raw }
  else readStatement raw

end Entry

end HaxePrompt
