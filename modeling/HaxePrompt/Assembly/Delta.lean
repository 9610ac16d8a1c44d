import HaxePrompt.Assembly.Marker
import HaxePrompt.Entry.Basic
import HaxePrompt.Message.Fault

/-! # The newest code

`Delta.extract` cuts the compiled output at the markers and keeps what has to run now: what
stands before the first marker, what stands after the last one, and, for an entry of the
statements, the code between the last two markers.  The code of earlier entries is left out, so
that it does not run twice. -/

namespace HaxePrompt.Delta

/-- The statement that stands before the newest code, so that an entry without a value of its
own shows none. -/
def noValue : Text := "undefined;\n"

/-- The code to run, from the pieces between markers: the first, the last, and for statements
the one before the last. -/
def ofPieces (part : Part) (pieces : List Text) : Except Fault Text :=
  match pieces with
  | [] | [_] => .error .noMarkers
  | prologue :: next :: rest =>
    let epilogue := (next :: rest).getLast (List.cons_ne_nil next rest)
    match part with
    | .imports => .ok (prologue ++ epilogue ++ noValue)
    | .statements =>
      match (next :: rest).dropLast.getLast? with
      | none => .error .noStatement
      | some newest => .ok (prologue ++ epilogue ++ noValue ++ newest)

/-- The code to run for an entry of the given part. -/
def extract (part : Part) (output : Text) : Except Fault Text :=
  ofPieces part (Text.split Marker.token output)

end HaxePrompt.Delta
