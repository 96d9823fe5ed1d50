import Reindent.Pattern.Parser

/-!
# Configuration

The language settings of the indenter as a user writes them, with the
defaults for Ruby, and the errors that a configuration can have.
-/

namespace Reindent

structure Settings where
  /-- Columns to which a tab advances. -/
  tabWidth : Nat
  /-- Columns of one level. -/
  indentWidth : Nat
  useSpaces : Bool
  deriving Repr, DecidableEq

def Settings.default : Settings := ⟨8, 2, true⟩

structure Config where
  name : String
  /-- Highlighting style that a buffer must have; empty means any. -/
  requiredStyle : String
  languages : List String
  /-- Characters, besides the line feed, that re-indent a line when typed. -/
  triggerCharacters : String
  /-- Statements that open a block. -/
  blockStart : String
  /-- Lines that close a block; the group `trailing` holds what follows. -/
  blockEnd : String
  /-- Ends of statements that go on in the next line. -/
  continuation : String
  /-- Ends of statements that open a block by a keyword or bracket. -/
  blockOpenerTail : String
  trailingComma : String
  /-- Statements whose opening bracket has nothing after it. -/
  looseOpener : String
  /-- Names of the attributes whose lines are left as they are. -/
  verbatimAttributes : List String
  settings : Settings
  deriving Repr, DecidableEq

def Config.default : Config where
  name := "Ruby"
  requiredStyle := "ruby"
  languages := ["ruby"]
  triggerCharacters := "cdefhilnrsuw\x7d]"
  blockStart :=
    "^\\s*(def|if|unless|for|while|until|class|module|else|elsif|case|when|begin|rescue|ensure|catch)\\b"
  blockEnd :=
    "^\\s*((end|when|else|elsif|rescue|ensure)\\b|[\\]\\\x7d])(?P<trailing>.*)$"
  continuation := "((\\+|-|\\*|/|=|&&|\\|\\||\\band\\b|\\bor\\b|,)\\s*)"
  blockOpenerTail := "((\\bdo\\b|\\\x7b)(\\s*\\|.*\\|)?\\s*)"
  trailingComma := ",\\s*"
  looseOpener := "[\\[\\\x7b]\\s*$"
  verbatimAttributes := ["Ruby:Here Document", "Ruby:Blockcomment"]
  settings := Settings.default

inductive PatternField where
  | blockStart
  | blockEnd
  | continuation
  | blockOpenerTail
  | trailingComma
  | looseOpener
  deriving Repr, DecidableEq

def PatternField.name : PatternField → String
  | .blockStart => "block_start_pattern"
  | .blockEnd => "block_end_pattern"
  | .continuation => "continuation_pattern"
  | .blockOpenerTail => "block_opener_tail_pattern"
  | .trailingComma => "trailing_comma_pattern"
  | .looseOpener => "loose_opener_pattern"

def Config.pattern (config : Config) : PatternField → String
  | .blockStart => config.blockStart
  | .blockEnd => config.blockEnd
  | .continuation => config.continuation
  | .blockOpenerTail => config.blockOpenerTail
  | .trailingComma => config.trailingComma
  | .looseOpener => config.looseOpener

/-- A value that the grammar admits and the indenter cannot use. -/
inductive Invalidity where
  | zeroTabWidth
  | zeroIndentWidth
  | blankTrigger
  deriving Repr, DecidableEq

def Invalidity.message : Invalidity → String
  | .zeroTabWidth => "tab_width must be greater than 0"
  | .zeroIndentWidth => "indent_width must be greater than 0"
  | .blankTrigger => "trigger_characters must not contain whitespace"

inductive ConfigError where
  | unreadable
  | unparsable
  | invalidPattern (field : PatternField) (cause : Pattern.Error)
  | missingTrailingGroup
  | invalid (cause : Invalidity)
  deriving Repr, DecidableEq

def Pattern.Error.message : Pattern.Error → String
  | .malformed => "regex parse error:"
  | .tooLarge => "Compiled regex exceeds size limit of 10485760 bytes."

def ConfigError.message : ConfigError → String
  | .unreadable => "IO error: the file cannot be read as text"
  | .unparsable => "Parse error: the text is no configuration"
  | .invalidPattern field cause =>
    "Invalid pattern in `" ++ field.name ++ "`: " ++ cause.message
  | .missingTrailingGroup =>
    "`block_end_pattern` must define a capture group named `trailing`"
  | .invalid cause => "Validation error: " ++ cause.message

/-- Only the first of several faults is reported. -/
def Config.validate (config : Config) : Except ConfigError Unit :=
  if config.settings.tabWidth == 0 then .error (.invalid .zeroTabWidth)
  else if config.settings.indentWidth == 0 then .error (.invalid .zeroIndentWidth)
  else if config.triggerCharacters.toList.any Unicode.isWhiteSpace then
    .error (.invalid .blankTrigger)
  else .ok ()

end Reindent
