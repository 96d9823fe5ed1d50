import Reindent.Config.Basic
import Reindent.Json

/-!
# Configurations as JSON

A configuration is an object whose missing fields take their defaults and
whose unknown fields are ignored, or the array of its fields in order of
declaration, cut off anywhere. No known field may be given twice, and `null`
is a value of none.
-/

namespace Reindent

namespace JsonValue

def text? : JsonValue → Option String
  | .string value => value
  | _ => none

def texts? : JsonValue → Option (List String)
  | .array items => items.mapM text?
  | _ => none

def flag? : JsonValue → Option Bool
  | .bool value => some value
  | _ => none

def word? : JsonValue → Option Nat
  | .number (some value) => if value < wordSize then some value else none
  | _ => none

def record? (names : List String) : JsonValue → Option (List (String × JsonValue))
  | .object fields => do
    let fields ← fields.mapM fun (key, value) => key.map (·, value)
    let known := fields.filter fun (key, _) => names.contains key
    if names.all fun name => (known.filter (·.1 == name)).length ≤ 1 then some known else none
  | .array items => if items.length ≤ names.length then some (names.zip items) else none
  | _ => none

def field? (fields : List (String × JsonValue)) (name : String) (read : JsonValue → Option α)
    (default : α) : Option α :=
  match fields.lookup name with
  | none => some default
  | some value => read value

end JsonValue

open JsonValue (record? field? word? flag? text? texts?)

def Settings.ofJson? (value : JsonValue) : Option Settings := do
  let fields ← record? ["tab_width", "indent_width", "use_spaces"] value
  let base := Settings.default
  return {
    tabWidth := ← field? fields "tab_width" word? base.tabWidth
    indentWidth := ← field? fields "indent_width" word? base.indentWidth
    useSpaces := ← field? fields "use_spaces" flag? base.useSpaces }

def Config.fieldNames : List String :=
  ["name", "required_syntax_style", "indent_languages", "trigger_characters",
    "block_start_pattern", "block_end_pattern", "continuation_pattern",
    "block_opener_tail_pattern", "trailing_comma_pattern", "loose_opener_pattern",
    "verbatim_attributes", "settings"]

def Config.ofJson? (value : JsonValue) : Option Config := do
  let fields ← record? fieldNames value
  let base := Config.default
  return {
    name := ← field? fields "name" text? base.name
    requiredStyle := ← field? fields "required_syntax_style" text? base.requiredStyle
    languages := ← field? fields "indent_languages" texts? base.languages
    triggerCharacters := ← field? fields "trigger_characters" text? base.triggerCharacters
    blockStart := ← field? fields "block_start_pattern" text? base.blockStart
    blockEnd := ← field? fields "block_end_pattern" text? base.blockEnd
    continuation := ← field? fields "continuation_pattern" text? base.continuation
    blockOpenerTail := ← field? fields "block_opener_tail_pattern" text? base.blockOpenerTail
    trailingComma := ← field? fields "trailing_comma_pattern" text? base.trailingComma
    looseOpener := ← field? fields "loose_opener_pattern" text? base.looseOpener
    verbatimAttributes := ← field? fields "verbatim_attributes" texts? base.verbatimAttributes
    settings := ← field? fields "settings" Settings.ofJson? base.settings }

def Config.read (text : Text) : Except ConfigError Config := do
  match (JsonValue.parse? text).bind Config.ofJson? with
  | none => .error .unparsable
  | some config =>
    config.validate
    return config

/-- Reads a configuration from the bytes of a file, which are `none` when there
is no file to read. -/
def Config.load (contents : Option (List UInt8)) : Except ConfigError Config :=
  match contents.bind fun bytes => String.fromUTF8? bytes.toByteArray with
  | none => .error .unreadable
  | some text => Config.read text.toList

end Reindent
