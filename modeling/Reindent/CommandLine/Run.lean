import Reindent.CommandLine.Options
import Reindent.CommandLine.Schema
import Reindent.Overflow

/-!
# A run of the command line

A run depends on its options and on what the named files hold. Its outcome
says what is printed and what is written; nothing is written before every
step has succeeded, the log file apart, which is created first. `run` computes
with numbers of any size, `execute` as the program does.
-/

namespace Reindent.CommandLine

/-- The files as a run finds them. -/
structure Files where
  /-- The bytes at a path, if they can be read. -/
  read : String → Option (List UInt8)
  /-- Whether a file can be created at a path. -/
  creatable : String → Bool

def Files.create (files : Files) (path : String) : Files :=
  { files with read := fun other => if other = path then some [] else files.read other }

def Files.text? (files : Files) (path : String) : Option Text :=
  ((files.read path).bind fun bytes => String.fromUTF8? bytes.toByteArray).map String.toList

inductive Failure where
  | logFile (path : String)
  | configFile (path : String)
  | config (cause : ConfigError)
  | input (path : String)
  | output (path : String)
  | noInput
  deriving DecidableEq, Repr

def Failure.message : Failure → String
  | .logFile path => "failed to create log file " ++ path
  | .configFile path => "failed to load config " ++ path
  | .config cause => cause.message
  | .input path => "failed to read " ++ path
  | .output path => "failed to write " ++ path
  | .noInput => "no input file given"

structure Outcome where
  failure : Option Failure
  /-- What is printed. -/
  printed : Text
  /-- The log file that has been created. -/
  logFile : Option String
  /-- The file that is written back, and its new text. -/
  written : Option (String × Text)

def Outcome.exitCode (outcome : Outcome) : Nat := if outcome.failure.isSome then 1 else 0

def configOf (options : Options) (files : Files) : Except Failure Config :=
  match options.config with
  | none => .ok Config.default
  | some path =>
    match Config.load (files.read path) with
    | .ok config => .ok config
    | .error _ => .error (.configFile path)

/-- Options on the command line win over the configuration. -/
def override (options : Options) (config : Config) : Config :=
  let settings := config.settings
  { config with
    settings := {
      indentWidth := options.indentWidth.getD settings.indentWidth
      tabWidth := options.tabWidth.getD settings.tabWidth
      useSpaces := settings.useSpaces && !options.tabs } }

/-- The path of the input, the document in it, and what is to indent it. -/
def input (options : Options) (files : Files) : Except Failure (String × Indenter × Document) := do
  let config := override options (← configOf options files)
  match Indenter.ofConfig config with
  | .error cause => .error (.config cause)
  | .ok indenter =>
    match options.file with
    | none => .error .noInput
    | some path =>
      match files.text? path with
      | none => .error (.input path)
      | some source => .ok (path, indenter, Document.ofText source config.settings.tabWidth)

/-- Indents the input: the path it came from, its new text, and how many lines
have changed. -/
def reindent (options : Options) (files : Files) : Except Failure (String × Text × Nat) := do
  let (path, indenter, doc) ← input options files
  let result := indenter.indentAll doc
  return (path, result.1.toText, result.2)

def finish (options : Options) : Except Failure (String × Text × Nat) → Outcome
  | .error failure => ⟨some failure, [], options.logFile, none⟩
  | .ok (path, text, changed) =>
    if options.inPlace then
      ⟨none, [], options.logFile, if changed = 0 then none else some (path, text)⟩
    else ⟨none, text, options.logFile, none⟩

/-- The work of a run, once its log file has been dealt with. -/
def work (options : Options) (files : Files) : Outcome :=
  finish options (reindent options files)

def run (options : Options) (files : Files) : Outcome :=
  if options.dumpSchema then ⟨none, (Schema.text ++ "\n").toList, none, none⟩
  else
    match options.logFile with
    | none => work options files
    | some path =>
      if files.creatable path then work options (files.create path)
      else ⟨some (.logFile path), [], none, none⟩

/-! ## Runs in words -/

inductive Ending where
  | finished (outcome : Outcome)
  /-- The run has come to a column that is no word. Nothing but the log file has
  been touched. -/
  | stopped (logFile : Option String)

def Ending.exitCode : Ending → Nat
  | .finished outcome => outcome.exitCode
  | .stopped _ => 101

def work? (options : Options) (files : Files) : Ending :=
  match input options files with
  | .error failure => .finished (finish options (.error failure))
  | .ok (path, indenter, doc) =>
    match indenter.indentAll? doc with
    | none => .stopped options.logFile
    | some result => .finished (finish options (.ok (path, result.1.toText, result.2)))

def execute (options : Options) (files : Files) : Ending :=
  if options.dumpSchema then .finished ⟨none, (Schema.text ++ "\n").toList, none, none⟩
  else
    match options.logFile with
    | none => work? options files
    | some path =>
      if files.creatable path then work? options (files.create path)
      else .finished ⟨some (.logFile path), [], none, none⟩

end Reindent.CommandLine
