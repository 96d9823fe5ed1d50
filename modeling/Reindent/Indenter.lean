import Reindent.Config.Reader
import Reindent.Decision

/-!
# Indenting lines of a document

An indenter decides when a line is indented, turns the directive into leading
blanks and writes them. It changes nothing else.
-/

namespace Reindent

/-- Bound for indents and for what an alignment adds to them. -/
def maxIndent : Nat := 256

/-- The blanks of an indent of `length` columns aligned to column `align`. Only
the indent is made of tabs, so an alignment survives another tab width. -/
def Settings.blanks (settings : Settings) (length align : Nat) : Text :=
  let length := min length maxIndent
  let spaces := min (align - length) maxIndent
  if settings.useSpaces then List.replicate (length + spaces) ' '
  else
    let width := max settings.tabWidth 1
    List.replicate (length / width) '\t' ++ List.replicate (length % width + spaces) ' '

structure Indenter where
  rules : Rules
  settings : Settings

namespace Indenter

def ofConfig (config : Config) : Except ConfigError Indenter := do
  return ⟨← config.compile, config.settings⟩

/-- Writes a directive to a line. Tells whether the line changed. -/
def apply (indenter : Indenter) (doc : Document) (line : Nat) : Directive → Document × Bool
  | .verbatim | .noOpinion => (doc, false)
  | .setIndent column => doc.setLeadingBlanks line (indenter.settings.blanks column 0)
  | .alignTo base column => doc.setLeadingBlanks line (indenter.settings.blanks base column)

def indentLine (indenter : Indenter) (doc : Document) (line : Nat) (trigger : Trigger) :
    Document × Bool :=
  indenter.apply doc line
    (doc.indent indenter.rules line indenter.settings.indentWidth trigger)

def typed (indenter : Indenter) (doc : Document) (line : Nat) (c : Char) : Document × Bool :=
  if indenter.rules.isTrigger c then indenter.indentLine doc line (.ofChar c) else (doc, false)

/-- Indents a line that is not all white space, and counts it if it changes. -/
def indentStep (indenter : Indenter) (state : Document × Nat) (line : Nat) : Document × Nat :=
  if Text.isAllWhiteSpace (state.1.line line) then state
  else
    let result := indenter.indentLine state.1 line .manual
    (result.1, if result.2 then state.2 + 1 else state.2)

/-- Indents the lines from `first` to `last`, from top to bottom, and counts
those that change. -/
def indentLines (indenter : Indenter) (doc : Document) (first last : Nat) : Document × Nat :=
  (List.range' first (min (last + 1) doc.lineCount - first)).foldl indenter.indentStep (doc, 0)

def indentAll (indenter : Indenter) (doc : Document) : Document × Nat :=
  indenter.indentLines doc 0 (doc.lineCount - 1)

end Indenter

end Reindent
