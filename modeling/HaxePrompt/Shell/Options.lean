import HaxePrompt.Shell.Settings

/-! # Options

The options of the command line are switches, which stand alone, and parameters, which take a
value: the text after an equals sign, or the next argument.  All other arguments, and all those
after `--`, are operands and are handed to the compiler.  `Options.parse` reads an argument list,
and finds first what it cannot read, then what lacks a value, then what was given twice.  A list
that is refused gives a `Refusal`, which holds what had been read of it. -/

namespace HaxePrompt

/-- The options without a value. -/
inductive Switch where
  | version
  | hideWarnings
  | debug
deriving DecidableEq, Repr

/-- The options with a value. -/
inductive Parameter where
  | directory
  | compiler
  | evaluator
deriving DecidableEq, Repr

/-- Why an argument list is refused. -/
inductive OptionError where
  | unknownName (name : Text)
  | unknownLetter (letter : Char)
  | missingValue (parameter : Parameter)
  | repeatedSwitch (switch : Switch)
  | repeatedParameter (parameter : Parameter)
  | help
deriving DecidableEq, Repr

/-- What the command line asks for.  All lists are newest first. -/
structure Options where
  /-- The switches, as often as they were given. -/
  switches : List Switch := []
  parameters : List Parameter := []
  values : List (Parameter × Text) := []
  operands : List Text := []
  /-- The parameter that the next argument may be the value of. -/
  waiting : Option Parameter := none
deriving DecidableEq, Repr

/-- A refused argument list. -/
structure Refusal where
  error : OptionError
  options : Options
deriving DecidableEq, Repr

namespace Options

/-! ### Names -/

/-- What an option's name stands for. -/
inductive Named where
  | switch (switch : Switch)
  | parameter (parameter : Parameter)
  | help
deriving DecidableEq, Repr

def longNames : List (String × Named) :=
  [("version", .switch .version), ("no-warnings", .switch .hideWarnings),
   ("debug", .switch .debug), ("help", .help), ("pwd", .parameter .directory),
   ("haxe", .parameter .compiler), ("node", .parameter .evaluator)]

def shortNames : List (Char × Named) :=
  [('v', .switch .version), ('d', .switch .debug), ('h', .help)]

def ofLongName (name : Text) : Option Named :=
  (longNames.find? fun entry => entry.1.toList = name).map (·.2)

def ofShortName (letter : Char) : Option Named :=
  (shortNames.find? fun entry => entry.1 = letter).map (·.2)

/-- Has the parameter a value when none is given? -/
def hasDefault : Parameter → Bool
  | .directory => false
  | .compiler | .evaluator => true

/-! ### Reading -/

/-- The character between the name and the value of a parameter. -/
def equals : Text := ['=']

def addSwitch (options : Options) (switch : Switch) : Options :=
  { options with switches := switch :: options.switches, waiting := none }

/-- The options with one more parameter, and its value if it is given with it. -/
def addParameter (options : Options) (parameter : Parameter) (value : Option Text) : Options :=
  match value with
  | some text =>
    { options with
      parameters := parameter :: options.parameters
      values := (parameter, text.dropWhile (· == '=')) :: options.values
      waiting := none }
  | none =>
    { options with parameters := parameter :: options.parameters, waiting := some parameter }

/-- Reads an argument that begins with two dashes. -/
def addLong (options : Options) (argument : Text) : Except Refusal Options :=
  let body := argument.dropWhile (· == '-')
  let (name, value) := match Text.cut equals body with
    | some (name, value) => (name, some value)
    | none => (body, none)
  match ofLongName name with
  | some (.switch switch) => .ok (options.addSwitch switch)
  | some (.parameter parameter) => .ok (options.addParameter parameter value)
  | some .help => .error ⟨.help, options⟩
  | none => .error ⟨.unknownName name, options⟩

/-- Reads the letters of an argument that begins with one dash. -/
def addShort (options : Options) : Text → Except Refusal Options
  | [] => .ok options
  | letter :: rest =>
    match ofShortName letter with
    | some (.switch switch) => (options.addSwitch switch).addShort rest
    | some (.parameter _) | none => .error ⟨.unknownLetter letter, options⟩
    | some .help => .error ⟨.help, options⟩

/-- Reads an argument that does not begin with a dash. -/
def addOperand (options : Options) (argument : Text) : Options :=
  match options.waiting with
  | some parameter =>
    { options with values := (parameter, argument) :: options.values, waiting := none }
  | none => { options with operands := argument :: options.operands }

/-- Reads arguments up to the first that cannot be read. -/
def read (options : Options) : List Text → Except Refusal Options
  | [] => .ok options
  | argument :: rest =>
    match argument with
    | ['-', '-'] => .ok { options with operands := rest.reverse ++ options.operands }
    | '-' :: '-' :: _ => do (← options.addLong argument).read rest
    | '-' :: letter :: letters => do (← options.addShort (letter :: letters)).read rest
    | _ => (options.addOperand argument).read rest

/-- Was the parameter given without a value, and has it none by default? -/
def lacksValue (options : Options) (parameter : Parameter) : Bool :=
  !hasDefault parameter && options.parameters.contains parameter &&
    (options.values.find? fun entry => entry.1 = parameter).isNone

/-- Finds what is wrong with options that could be read. -/
def check (options : Options) : Except Refusal Options :=
  match [Parameter.directory, .compiler, .evaluator].find? options.lacksValue with
  | some parameter => .error ⟨.missingValue parameter, options⟩
  | none =>
    match [Parameter.directory, .compiler, .evaluator].find?
        (fun parameter => 1 < options.parameters.count parameter) with
    | some parameter => .error ⟨.repeatedParameter parameter, options⟩
    | none =>
      match [Switch.version, .hideWarnings, .debug].find?
          (fun switch => 1 < options.switches.count switch) with
      | some switch => .error ⟨.repeatedSwitch switch, options⟩
      | none => .ok options

def parse (arguments : List Text) : Except Refusal Options := do
  (← ({} : Options).read arguments).check

/-! ### Meaning -/

def has (options : Options) (switch : Switch) : Bool := options.switches.contains switch

def value? (options : Options) (parameter : Parameter) : Option Text :=
  (options.values.find? fun entry => entry.1 = parameter).map (·.2)

/-- The settings that the options ask for. -/
def settings (options : Options) : Settings :=
  { compiler := (options.value? .compiler).getD ({} : Settings).compiler
    evaluator := (options.value? .evaluator).getD ({} : Settings).evaluator
    compilerArguments := options.operands.reverse
    showWarnings := !options.has .hideWarnings
    directory := options.value? .directory }

end Options

end HaxePrompt
