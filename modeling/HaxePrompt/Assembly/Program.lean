import HaxePrompt.Assembly.Marker
import HaxePrompt.Entry.Basic

/-! # The program sent to the compiler

`Program.assemble` writes the whole session as one class whose initializer runs the statements:
the imports, the head of the class, the statements between markers, and the tail.  When the
newest entry retains an identifier, an escape that gives its value is added after the last
statement, on the same line; a silent entry gets a second one that gives `undefined`. -/

namespace HaxePrompt.Program

/-- The name of the class, and of the file without its ending. -/
def className : Text := "Repl"

/-- The class up to its first statement. -/
def head : Text := Text.unlines [
  "class " ++ className ++ " \x7b",
  "    static function __init__():Void \x7b",
  "haxe.Log.trace = function(v:Dynamic, ?infos:haxe.PosInfos) \x7b",
  "    untyped console.log(v);",
  "\x7d",
  "var require = untyped require;"]

/-- The class after its last statement. -/
def tail : Text := Text.unlines ["    \x7d", "\x7d"]

/-- The escape that gives the value of an identifier. -/
def valueEscape (name : Text) : Text :=
  " untyped js.Syntax.code(\"\x7b0\x7d\", " ++ name ++ ");"

/-- The escape that gives no value. -/
def silentEscape : Text := " untyped js.Syntax.code(\"undefined\");"

/-- What is added to the statement of an entry so that its value shows. -/
def escapes (entry : Entry) : Text :=
  match entry.retained with
  | some name => valueEscape name ++ if entry.silent then silentEscape else []
  | none => []

/-- The statements with a text added after the last one, if there is one. -/
def extendLast (extra : Text) : List Text → List Text
  | [] => []
  | [last] => [last ++ extra]
  | statement :: next :: rest => statement :: extendLast extra (next :: rest)

def markerLine : Text := Marker.statement ++ Text.newline

/-- The statements with markers around them.  Without statements there is one empty line
between the two markers. -/
def body (statements : List Text) : Text :=
  markerLine ++ Text.join (Text.newline ++ markerLine) statements ++ Text.newline ++ markerLine

/-- The program for a session whose sources already hold that of the newest entry. -/
def assemble (imports statements : List Text) (entry : Entry) : Text :=
  Text.unlines imports ++ head ++ body (extendLast (escapes entry) statements) ++ tail

end HaxePrompt.Program
