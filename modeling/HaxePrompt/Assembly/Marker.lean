import HaxePrompt.Text.Basic

/-! # Turn markers

The program sent to the compiler holds a marker before its first statement, between every two
statements and after the last one.  In the program the marker is a statement of its own
(`Marker.statement`); the compiler writes it to its output as a string literal on a line of its
own (`Marker.token`), and this is where the output is cut. -/

namespace HaxePrompt.Marker

/-- The text of the marker, which does not occur in a program otherwise. -/
def literal : Text := "<__hxrepl_turn__>"

/-- The marker in the program. -/
def statement : Text := "js.Syntax.code('\"" ++ literal ++ "\"');"

/-- The marker in the compiled output. -/
def token : Text := "\"" ++ literal ++ "\";\n"

end HaxePrompt.Marker
