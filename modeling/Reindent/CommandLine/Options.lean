import Reindent.Text

/-!
# Command line arguments

Options have long names only, are written `--name value` or `--name=value`,
come in any order and at most once each. A value that begins with a hyphen
needs the second form. Two hyphens end the options.
-/

namespace Reindent.CommandLine

structure Options where
  file : Option String
  config : Option String
  indentWidth : Option Nat
  tabWidth : Option Nat
  tabs : Bool
  inPlace : Bool
  logFile : Option String
  dumpSchema : Bool
  deriving DecidableEq, Repr

inductive Request where
  | usageError
  | help
  | run (options : Options)
  deriving DecidableEq, Repr

def helpText : String :=
  "Re-indent Ruby source the way the editor's auto-indenter would\n\n" ++
    "Usage: reindent [OPTIONS] [FILE]\n\n" ++
    "Arguments:\n" ++
    "  [FILE]  Ruby file to re-indent\n\n" ++
    "Options:\n" ++
    "      --config <CONFIG>              JSON indent configuration\n" ++
    "      --indent-width <INDENT_WIDTH>  Columns per indentation level\n" ++
    "      --tab-width <TAB_WIDTH>        Columns a tab advances to\n" ++
    "      --tabs                         Indent with tabs instead of spaces\n" ++
    "      --in-place                     Change the file instead of printing to stdout\n" ++
    "      --log-file <LOG_FILE>          Write debug logging to the specified file\n" ++
    "      --dump-schema                  Print the configuration JSON schema and exit\n" ++
    "  -h, --help                         Print help\n"

namespace Options

def none : Options := ⟨.none, .none, .none, .none, false, false, .none, false⟩

/-- A width is written in decimal digits, which a plus sign may precede. -/
def width? (value : String) : Option Nat :=
  let digits := match value.toList with
    | '+' :: digits => digits
    | digits => digits
  if digits.isEmpty || !digits.all Char.isDigit then .none
  else
    let width := digits.foldl (fun n c => 10 * n + (c.toNat - '0'.toNat)) 0
    if width < wordSize then some width else .none

def path? (value : String) : Option String :=
  if value.isEmpty then .none else some value

def takesValue (name : String) : Bool :=
  ["config", "indent-width", "tab-width", "log-file"].contains name

/-- Gives an option its value, unless it already has one. -/
def setValue? (options : Options) (name value : String) : Option Options :=
  match name with
  | "config" =>
    if options.config.isSome then .none
    else (path? value).map fun path => { options with config := some path }
  | "log-file" =>
    if options.logFile.isSome then .none
    else (path? value).map fun path => { options with logFile := some path }
  | "indent-width" =>
    if options.indentWidth.isSome then .none
    else (width? value).map fun width => { options with indentWidth := some width }
  | "tab-width" =>
    if options.tabWidth.isSome then .none
    else (width? value).map fun width => { options with tabWidth := some width }
  | _ => .none

def setFlag? (options : Options) : String → Option Options
  | "tabs" => if options.tabs then .none else some { options with tabs := true }
  | "in-place" => if options.inPlace then .none else some { options with inPlace := true }
  | "dump-schema" =>
    if options.dumpSchema then .none else some { options with dumpSchema := true }
  | _ => .none

def setFile? (options : Options) (argument : String) : Option Options :=
  if options.file.isSome then .none
  else (path? argument).map fun path => { options with file := some path }

end Options

/-- A file is needed except to print the schema. -/
def complete (options : Options) : Request :=
  if options.file.isNone && !options.dumpSchema then .usageError else .run options

def readFiles (options : Options) : List String → Request
  | [] => complete options
  | argument :: rest =>
    match options.setFile? argument with
    | some options => readFiles options rest
    | none => .usageError

/-- Whether an argument is an option rather than a value; a lone hyphen is a
value. -/
def isOption (argument : String) : Bool :=
  argument.toList.head? == some '-' && argument != "-"

def splitOption (argument : Text) : String × Option String :=
  (String.ofList (argument.takeWhile (· != '=')),
    match argument.dropWhile (· != '=') with
    | [] => none
    | _ :: value => some (String.ofList value))

def readArguments (options : Options) : List String → Request
  | [] => complete options
  | argument :: rest =>
    match argument.toList with
    | ['-', '-'] => readFiles options rest
    | '-' :: '-' :: long =>
      match splitOption long, rest with
      | (name, some value), rest =>
        match options.setValue? name value with
        | some options => readArguments options rest
        | none => .usageError
      | ("help", none), _ => .help
      | (name, none), [] =>
        match options.setFlag? name with
        | some options => complete options
        | none => .usageError
      | (name, none), next :: rest =>
        if Options.takesValue name then
          match if isOption next then none else options.setValue? name next with
          | some options => readArguments options rest
          | none => .usageError
        else
          match options.setFlag? name with
          | some options => readArguments options (next :: rest)
          | none => .usageError
    | '-' :: 'h' :: _ => .help
    | '-' :: _ :: _ => .usageError
    | _ =>
      match options.setFile? argument with
      | some options => readArguments options rest
      | none => .usageError

def Request.ofArguments (arguments : List String) : Request :=
  readArguments Options.none arguments

end Reindent.CommandLine
