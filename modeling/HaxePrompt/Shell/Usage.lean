import HaxePrompt.Console.Style
import HaxePrompt.Shell.Options
import HaxePrompt.Text.Similarity

/-! # Usage

The texts about the options of the command line: the help, and the wording of the errors in an
argument list.  The help is made of tables; `table` sets the meanings of a table's rows in one
column.  A complaint about an argument list ends with how the program is called with the options
that the list holds, and asks whether another name was meant if one is similar. -/

namespace HaxePrompt.Usage

def program : Text := "hxrepl"

def versionNumber : Text := "0.1.0"

def purpose : Text := "An interactive Haxe prompt running on Node.js"

/-! ### The help -/

/-- The space in front of the lines of a table. -/
def indent : Text := "    "

/-- The line that says how the program is called. -/
def pattern : Text := indent ++ program ++ " [FLAGS] [OPTIONS] [arguments]..."

structure Row where
  form : Text
  meaning : Text
deriving DecidableEq, Repr

def switches : List Row := [
  ⟨"-d, --debug", ""⟩,
  ⟨"-h, --help", "Prints help information"⟩,
  ⟨"    --no-warnings", "Hide compiler warnings"⟩,
  ⟨"-v, --version", ""⟩]

/-- The end of the meaning of a parameter with a default. -/
def defaultNote (value : Text) : Text := " [default: " ++ value ++ "]"

def parameters : List Row := [
  ⟨"    --haxe <haxe>", "Haxe compiler to use" ++ defaultNote ({} : Settings).compiler⟩,
  ⟨"    --node <node>",
    "Node.js binary to evaluate with" ++ defaultNote ({} : Settings).evaluator⟩,
  ⟨"    --pwd <pwd>", "Directory modules are resolved from"⟩]

def operands : List Row := [⟨"<arguments>...", "Extra arguments given to the compiler"⟩]

/-- The lines of a table, with the meanings four places behind the longest form. -/
def table (rows : List Row) : List Text :=
  let width := rows.foldl (fun width row => max width row.form.length) 0
  rows.map fun row =>
    indent ++ row.form ++ List.replicate (width - row.form.length) ' ' ++ indent ++ row.meaning

def help : Text :=
  Text.unlines <|
    [program ++ " " ++ versionNumber, purpose, [], "USAGE:", pattern, [], "FLAGS:"] ++
      table switches ++ [[], "OPTIONS:"] ++ table parameters ++ [[], "ARGS:"] ++ table operands

/-! ### Errors -/

/-- A switch as it is named in an error. -/
def nameOfSwitch : Switch → Text
  | .version => "--version"
  | .hideWarnings => "--no-warnings"
  | .debug => "--debug"

/-- A parameter as it is named in an error. -/
def nameOfParameter : Parameter → Text
  | .directory => "--pwd <pwd>"
  | .compiler => "--haxe <haxe>"
  | .evaluator => "--node <node>"

/-- An option as it is named in an error. -/
def nameOf : Options.Named → Text
  | .switch switch => nameOfSwitch switch
  | .parameter parameter => nameOfParameter parameter
  | .help => "--help"

/-- The wording for an option that was given more than once. -/
def repeated (name : Text) : Text :=
  "The argument '" ++ name ++
    "' was provided more than once, but cannot be used multiple times"

/-- The wording for an argument that is no option. -/
def unexpected (argument : Text) : Text :=
  "Found argument '" ++ argument ++ "' which wasn't expected, or isn't valid in this context"

/-- What is wrong with an argument list; nothing if help was asked for. -/
def describe : OptionError → Text
  | .unknownName name => unexpected ("--" ++ name)
  | .unknownLetter letter => unexpected ['-', letter]
  | .missingValue parameter =>
    "The argument '" ++ nameOfParameter parameter ++
      "' requires a value but none was supplied"
  | .repeatedSwitch switch => repeated (nameOfSwitch switch)
  | .repeatedParameter parameter => repeated (nameOfParameter parameter)
  | .help => []

/-- The name that was probably meant. -/
def suggestion : OptionError → Option Text
  | .unknownName name => Text.closest? name (Options.longNames.map (·.1.toList))
  | _ => none

/-- The question whether another name was meant, which is in colours wherever it is shown. -/
def question (name : Text) : Text :=
  let good : Style := { foreground := some .green }
  Fragment.renderAll true
    [.plain "\tDid you mean ", .styled good "--", .styled good name, .plain "?"]

/-- All options, in the order of their names. -/
def inOrder : List Options.Named :=
  [.switch .debug, .parameter .compiler, .help, .switch .hideWarnings, .parameter .evaluator,
   .parameter .directory, .switch .version]

/-- Does an error come from the check of options that were all read?  From then on the parameters
with a default count as given. -/
def comesLate : OptionError → Bool
  | .missingValue _ | .repeatedSwitch _ | .repeatedParameter _ => true
  | .unknownName _ | .unknownLetter _ | .help => false

/-- Does an option belong in the line that says how the program is called? -/
def concerns (refusal : Refusal) (option : Options.Named) : Bool :=
  (suggestion refusal.error).bind Options.ofLongName = some option ||
    match option with
    | .switch switch => refusal.options.has switch
    | .parameter parameter =>
      refusal.options.parameters.contains parameter ||
        comesLate refusal.error && Options.hasDefault parameter
    | .help => false

/-- The line that says how the program is called, with the options that a refused argument list
holds, if there are any. -/
def patternFor (refusal : Refusal) : Text :=
  match inOrder.filter (concerns refusal) with
  | [] => pattern
  | options => indent ++ program ++ options.flatMap fun option => ' ' :: nameOf option

/-- The text shown for an argument list that is refused. -/
def complaint (refusal : Refusal) : Text :=
  Text.unlines <|
    ["error: " ++ describe refusal.error] ++
      ((suggestion refusal.error).map question).toList ++
      [[], "USAGE:", patternFor refusal, [], "For more information try --help"]

end HaxePrompt.Usage
