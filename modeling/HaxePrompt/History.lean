import HaxePrompt.Entry.Basic

/-! # The history of a session

The history holds the sources of the entries that were accepted, imports and statements apart.
An entry is staged by adding its source at the end of its part; it is then either committed or
rolled back, and a rollback takes away the newest source of the part again. -/

namespace HaxePrompt

/-- The sources accepted so far, oldest first. -/
structure History where
  imports : List Text := []
  statements : List Text := []
deriving DecidableEq, Repr

namespace History

def get (history : History) : Part → List Text
  | .imports => history.imports
  | .statements => history.statements

def set (history : History) : Part → List Text → History
  | .imports, sources => { history with imports := sources }
  | .statements, sources => { history with statements := sources }

/-- The history with the entry's source added to its part. -/
def stage (history : History) (entry : Entry) : History :=
  match entry.part? with
  | some part => history.set part (history.get part ++ [entry.source])
  | none => history

/-- The newest source of the entry's part, which a rollback takes away. -/
def newest? (history : History) (entry : Entry) : Option Text :=
  entry.part?.bind fun part => (history.get part).getLast?

/-- The history without the newest source of the entry's part. -/
def rollback (history : History) (entry : Entry) : History :=
  match entry.part? with
  | some part => history.set part (history.get part).dropLast
  | none => history

/-- The history after a staged entry succeeded: the entry stays unless it is transient. -/
def commit (history : History) (entry : Entry) : History :=
  if entry.transient then history.rollback entry else history

/-! ### The listing -/

/-- Shown in place of the imports when there are none. -/
def noImports : Text := "(no imports)"

/-- Shown in place of the statements when there are none. -/
def noStatements : Text := "(no history)"

/-- The sources one to a line, or the placeholder. -/
def listingOf (placeholder : Text) (sources : List Text) : Text :=
  if sources.isEmpty then placeholder else Text.join Text.newline sources

/-- The listing of the session: the imports, then the statements. -/
def listing (history : History) : Text :=
  listingOf noImports history.imports ++ Text.newline ++
    listingOf noStatements history.statements

/-- The sources as the text of a script: the imports, then the statements. -/
def toScript (history : History) : Text := Text.unlines (history.imports ++ history.statements)

end History

end HaxePrompt
