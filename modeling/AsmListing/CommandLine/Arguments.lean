import AsmListing.Environment

/-!
# Command line arguments

Options and the one positional argument come in any order.  `--` ends the
options.  An option with a value takes it after `=`, from the next argument or,
in its short form, directly.  Nothing may be given twice.
-/

namespace AsmListing

/-- What is printed. -/
inductive Mode
  /-- The rendered listing. -/
  | text
  /-- One line for each block. -/
  | blocks
  /-- The graph of the blocks for Graphviz. -/
  | dot
  deriving DecidableEq, Repr

/-- The mode of a name. -/
def Mode.ofName? (name : Text) : Option Mode :=
  [("text", Mode.text), ("blocks", Mode.blocks), ("dot", Mode.dot)].lookup (String.ofList name)

/-- The arguments of a command line, as far as they have been given. -/
structure Arguments where
  input : Option Text := none
  dialect : Option Dialect := none
  mode : Option Mode := none
  light : Bool := false
  noColor : Bool := false
  smellTest : Bool := false
  skipHeader : Bool := false
  noSource : Bool := false
  deriving DecidableEq, Repr

namespace Arguments

/-- The options that the arguments ask for. -/
def options (arguments : Arguments) : Options where
  darkSkin := !arguments.light
  syntaxColoring := !arguments.noColor
  smellTest := arguments.smellTest
  skipHeaderLine := arguments.skipHeader
  loadSourceFiles := !arguments.noSource

/-- Takes the positional argument. -/
def setInput? (arguments : Arguments) (path : Text) : Option Arguments :=
  if arguments.input.isSome ∨ path = [] then
    none
  else
    some { arguments with input := some path }

/-- Takes the name of a dialect. -/
def setDialect? (arguments : Arguments) (name : Text) : Option Arguments :=
  match arguments.dialect, Dialect.ofName? name with
  | none, some dialect => some { arguments with dialect := some dialect }
  | _, _ => none

/-- Takes the name of a mode. -/
def setMode? (arguments : Arguments) (name : Text) : Option Arguments :=
  match arguments.mode, Mode.ofName? name with
  | none, some mode => some { arguments with mode := some mode }
  | _, _ => none

/-- Takes a flag. -/
def setFlag? (arguments : Arguments) (flag : String) : Option Arguments :=
  match flag with
  | "--light" => if arguments.light then none else some { arguments with light := true }
  | "--no-color" => if arguments.noColor then none else some { arguments with noColor := true }
  | "--smell-test" =>
    if arguments.smellTest then none else some { arguments with smellTest := true }
  | "--skip-header" =>
    if arguments.skipHeader then none else some { arguments with skipHeader := true }
  | "--no-source" => if arguments.noSource then none else some { arguments with noSource := true }
  | _ => none

/-- The options with a value. -/
inductive Valued
  | dialect
  | mode
  deriving DecidableEq, Repr

/-- Takes the value of an option. -/
def setValue? (arguments : Arguments) : Valued → Text → Option Arguments
  | .dialect, value => arguments.setDialect? value
  | .mode, value => arguments.setMode? value

/-- What an argument is. -/
inductive Shape
  /-- The end of the options. -/
  | separator
  | positional
  | flag (name : String)
  /-- An option whose value is the next argument. -/
  | valued (option : Valued)
  /-- An option with its value. -/
  | assigned (option : Valued) (value : Text)
  | unknown
  deriving DecidableEq, Repr

/-- The option with a value that a long name stands for. -/
def longOption? : String → Option Valued
  | "--arch" => some .dialect
  | "--mode" => some .mode
  | _ => none

/-- The option with a value that a letter stands for. -/
def shortOption? : Char → Option Valued
  | 'a' => some .dialect
  | 'm' => some .mode
  | _ => none

/-- What an argument in long form is. -/
def longShape (argument : Text) : Shape :=
  let name := String.ofList (argument.takeWhile (· != '='))
  match longOption? name, argument.dropWhile (· != '=') with
  | some option, [] => .valued option
  | some option, _ :: value => .assigned option value
  | none, [] => .flag name
  | none, _ :: _ => .unknown

/-- What an argument in short form is. -/
def shortShape (letter : Char) (rest : Text) : Shape :=
  match shortOption? letter, rest with
  | none, _ => .unknown
  | some option, [] => .valued option
  | some option, '=' :: value => .assigned option value
  | some option, value => .assigned option value

/-- What an argument is, as long as options are looked for. -/
def shape (argument : Text) : Shape :=
  match argument with
  | ['-', '-'] => .separator
  | '-' :: '-' :: _ => longShape argument
  | '-' :: letter :: rest => shortShape letter rest
  | _ => .positional

/-- Takes arguments of which none is an option. -/
def addPositionals (arguments : Arguments) : List Text → Option Arguments
  | [] => some arguments
  | path :: rest => (arguments.setInput? path).bind fun taken => addPositionals taken rest

/-- Takes arguments one after the other. -/
def add (arguments : Arguments) : List Text → Option Arguments
  | [] => some arguments
  | argument :: rest =>
    match shape argument with
    | .separator => arguments.addPositionals rest
    | .positional => (arguments.setInput? argument).bind fun taken => add taken rest
    | .flag name => (arguments.setFlag? name).bind fun taken => add taken rest
    | .assigned option value =>
      (arguments.setValue? option value).bind fun taken => add taken rest
    | .valued option =>
      match rest with
      | [] => none
      | value :: following =>
        (arguments.setValue? option value).bind fun taken => add taken following
    | .unknown => none

/-- Reads a command line.  A command line that does not follow the rules has no
answer. -/
def ofList? (arguments : List Text) : Option Arguments :=
  add {} arguments

end Arguments

end AsmListing
