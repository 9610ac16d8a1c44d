import HaxePrompt.Text.Basic

/-! # The environment

The variables of the environment that the program looks at: one turns the log on, one asks for
colours, one names the terminal, and two say where programs are looked for and where temporary
files are made. -/

namespace HaxePrompt

/-- The variables of the environment, by name. -/
abbrev Environment := List (Text × Text)

namespace Environment

def value? (environment : Environment) (name : Text) : Option Text :=
  (environment.find? fun entry => entry.1 = name).map (·.2)

/-- The variable that turns the log on. -/
def logVariable : Text := "HXREPL_DEBUG"

/-- Does a value of that variable, or its absence, turn the log on?  Anything but nothing
does. -/
def turnsLogOn (value : Option Text) : Bool := value.any fun text => !text.isEmpty

def asksForLog (environment : Environment) : Bool := turnsLogOn (environment.value? logVariable)

/-- The variable that asks for colours where there is no terminal. -/
def colourVariable : Text := "CLICOLOR_FORCE"

/-- The value by which colours are declined. -/
def noColours : Text := "0"

def asksForColours (environment : Environment) : Bool :=
  (environment.value? colourVariable).any (· ≠ noColours)

/-- The variable that names the terminal. -/
def terminalVariable : Text := "TERM"

/-- The terminals on which a line cannot be edited. -/
def plainTerminals : List Text := ["dumb", "cons25", "emacs"]

/-- Is a prompt written out before a line is read?  Input that does not come from a terminal is
asked for only if the terminal is one without editing. -/
def showsPrompts (environment : Environment) : Bool :=
  (environment.value? terminalVariable).any fun name =>
    plainTerminals.contains (name.map Char.toLower)

def searchVariable : Text := "PATH"

/-- The character between two directories of that variable. -/
def searchSeparator : Text := [':']

/-- The directories in which programs are looked for, if they are given. -/
def searchPath? (environment : Environment) : Option (List Text) :=
  (environment.value? searchVariable).map (Text.split searchSeparator)

def temporaryVariable : Text := "TMPDIR"

def temporary? (environment : Environment) : Option Text := environment.value? temporaryVariable

/-- The variables that the program looks at. -/
def known : List Text :=
  [logVariable, colourVariable, terminalVariable, searchVariable, temporaryVariable]

end Environment

end HaxePrompt
