import Reindent.Config.Basic

/-!
# Compiled rules

The part of a configuration that the analysis of a document needs, with the
patterns compiled.
-/

namespace Reindent

structure Rules where
  triggerCharacters : List Char
  blockStart : Pattern
  blockEnd : Pattern
  continuation : Pattern
  blockOpenerTail : Pattern
  trailingComma : Pattern
  looseOpener : Pattern
  verbatimAttributes : List String
  requiredStyle : String
  deriving Repr, DecidableEq

/-- The group that holds what follows a block closer. -/
def trailingGroup : String := "trailing"

def Config.compilePattern (config : Config) (field : PatternField) :
    Except ConfigError Pattern :=
  match Pattern.parse (config.pattern field).toList with
  | .ok pattern => .ok pattern
  | .error cause => .error (.invalidPattern field cause)

/-- The pattern of block closers is compiled first, and must name the group
for what follows the closer before the other patterns are looked at. -/
def Config.compile (config : Config) : Except ConfigError Rules := do
  config.validate
  let blockEnd ← config.compilePattern .blockEnd
  if !blockEnd.groupNames.contains trailingGroup then .error .missingTrailingGroup
  else
    let blockStart ← config.compilePattern .blockStart
    let continuation ← config.compilePattern .continuation
    let blockOpenerTail ← config.compilePattern .blockOpenerTail
    let trailingComma ← config.compilePattern .trailingComma
    let looseOpener ← config.compilePattern .looseOpener
    return {
      triggerCharacters := config.triggerCharacters.toList
      blockStart, blockEnd, continuation, blockOpenerTail, trailingComma, looseOpener
      verbatimAttributes := config.verbatimAttributes
      requiredStyle := config.requiredStyle }

namespace Rules

/-- Whether typing `c` re-indents the line; a line feed always does. -/
def isTrigger (rules : Rules) (c : Char) : Bool :=
  c == '\n' || rules.triggerCharacters.contains c

/-- Whether a text closes a block, and if so whether nothing follows the
closer. -/
def blockEndMatch (rules : Rules) (text : Text) : Option Bool :=
  (rules.blockEnd.find? text).map fun found =>
    match found.group? trailingGroup with
    | none => true
    | some (start, stop) => start == stop

/-- Styles are compared without regard to the case of ASCII letters. -/
def acceptsStyle (rules : Rules) (style : String) : Bool :=
  rules.requiredStyle.isEmpty ||
    rules.requiredStyle.toList.map Char.toLower == style.toList.map Char.toLower

end Rules

end Reindent
