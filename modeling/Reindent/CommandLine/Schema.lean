import Reindent.Config.Basic

/-!
# The schema of a configuration

A JSON schema that describes the fields of a configuration, with the
defaults that missing fields take.
-/

namespace Reindent.Schema

inductive Node where
  | text (value : String)
  | number (value : Nat)
  | flag (value : Bool)
  | array (items : List Node)
  | object (fields : List (String × Node))

def escaped (c : Char) : String :=
  match c with
  | '"' => "\\\""
  | '\\' => "\\\\"
  | '\n' => "\\n"
  | c => String.singleton c

def quoted (text : String) : String :=
  "\"" ++ String.join (text.toList.map escaped) ++ "\""

def newline (depth : Nat) : String := "\n" ++ String.ofList (List.replicate (2 * depth) ' ')

def bracketed (depth : Nat) (opener closer : String) (members : List String) : String :=
  if members.isEmpty then opener ++ closer
  else
    opener ++ newline (depth + 1) ++ String.intercalate ("," ++ newline (depth + 1)) members ++
      newline depth ++ closer

mutual

def Node.render (depth : Nat) : Node → String
  | .text value => quoted value
  | .number value => toString value
  | .flag value => if value then "true" else "false"
  | .array items => bracketed depth "[" "]" (renderItems (depth + 1) items)
  | .object fields => bracketed depth "\x7b" "\x7d" (renderFields (depth + 1) fields)

def renderItems (depth : Nat) : List Node → List String
  | [] => []
  | item :: rest => item.render depth :: renderItems depth rest

def renderFields (depth : Nat) : List (String × Node) → List String
  | [] => []
  | (key, value) :: rest => (quoted key ++ ": " ++ value.render depth) :: renderFields depth rest

end

def textField (description default : String) : Node :=
  .object [("description", .text description), ("type", .text "string"),
    ("default", .text default)]

def textsField (description : String) (default : List String) : Node :=
  .object [("description", .text description), ("type", .text "array"),
    ("items", .object [("type", .text "string")]), ("default", .array (default.map .text))]

def widthField (description : String) (default : Nat) : Node :=
  .object [("description", .text description), ("type", .text "integer"),
    ("format", .text "uint"), ("minimum", .number 0), ("default", .number default)]

def flagField (description : String) (default : Bool) : Node :=
  .object [("description", .text description), ("type", .text "boolean"),
    ("default", .flag default)]

def settings (default : Settings) : Node :=
  .object
    [("description", .text "Whitespace layout used when applying an indent to a line"),
     ("type", .text "object"),
     ("properties", .object
      [("tab_width", widthField "Number of columns a tab character advances to"
          default.tabWidth),
       ("indent_width", widthField "Number of columns per indentation level"
          default.indentWidth),
       ("use_spaces",
        flagField "Indent with spaces only (otherwise whole tab widths become tabs)"
          default.useSpaces)])]

def settingsField (default : Settings) : Node :=
  .object
    [("$ref", .text "#/$defs/IndentSettings"),
     ("default", .object
      [("tab_width", .number default.tabWidth), ("indent_width", .number default.indentWidth),
       ("use_spaces", .flag default.useSpaces)])]

def properties (default : Config) : Node :=
  .object
    [("name", textField "Display name of the indenter" default.name),
     ("required_syntax_style",
      textField "Highlighting style the indenter needs for code/comment classification"
        default.requiredStyle),
     ("indent_languages", textsField "Languages this indenter applies to" default.languages),
     ("trigger_characters",
      textField "Characters, besides newline, whose insertion re-indents the line"
        default.triggerCharacters),
     ("block_start_pattern", textField "Statements matching this open a block"
      default.blockStart),
     ("block_end_pattern",
      textField "Lines matching this close a block; must define a `trailing` group"
        default.blockEnd),
     ("continuation_pattern",
      textField "Tested at end: the statement continues on the next line"
        default.continuation),
     ("block_opener_tail_pattern",
      textField "Tested at end: a block opened by `do` or `\x7b`" default.blockOpenerTail),
     ("trailing_comma_pattern", textField "Tested at end: the statement ends in a comma"
      default.trailingComma),
     ("loose_opener_pattern",
      textField "Searched in the statement text: an opening bracket with nothing after it"
        default.looseOpener),
     ("verbatim_attributes",
      textsField "Highlighting attributes whose lines are left exactly as they are"
        default.verbatimAttributes),
     ("settings", settingsField default.settings)]

def description : String :=
  "Language configuration of the indenter\n\n" ++
    "Every pattern is a regular expression in `regex` crate syntax. Patterns\n" ++
    "tested \"at end\" are applied to the whole statement text, and only a match\n" ++
    "that starts in code and ends at the end of the statement (or at a comment)\n" ++
    "counts."

def config (default : Config) : Node :=
  .object
    [("$schema", .text "https://json-schema.org/draft/2020-12/schema"),
     ("title", .text "IndentConfig"),
     ("description", .text description),
     ("type", .text "object"),
     ("properties", properties default),
     ("$defs", .object [("IndentSettings", settings default.settings)])]

def text : String := (config Config.default).render 0

end Reindent.Schema
