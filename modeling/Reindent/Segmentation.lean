import Reindent.Bracket
import Reindent.Config.Rules
import Reindent.Statement

/-!
# Statements of a document

Statements are found upwards from a line. Blank lines and comments never
belong to a statement of their own. A line of code continues the one above it
when a bracket is open between them or the line above ends in an operator; a
backslash joins only lines that are next to each other.
-/

namespace Reindent.Document

def endsInBackslash (doc : Document) (line : Nat) : Bool :=
  Text.endsInBackslash (doc.line line)

/-- Whether a bracket is open behind a line or the line calls for more. -/
def continues (doc : Document) (rules : Rules) (line : Nat) : Bool :=
  (doc.lastAnchor? ⟨line + 1, 0⟩).isSome ||
    (Statement.singleLine line).endsWith doc rules.continuation

/-- Whether the line of code `below` continues `line`, the nearest line of
code above it. -/
def joins (doc : Document) (rules : Rules) (line below : Nat) : Bool :=
  (line + 1 == below && doc.endsInBackslash line) || doc.continues rules line

/-- Extends a statement that begins at `start` upwards through the lines below
`bound`. -/
def extendUp (doc : Document) (rules : Rules) (start : Nat) : Nat → Nat
  | 0 => start
  | n + 1 =>
    if doc.isCodeLine n then
      if doc.joins rules n start then extendUp doc rules n n else start
    else extendUp doc rules start n

def statementStart (doc : Document) (rules : Rules) (line : Nat) : Nat :=
  doc.extendUp rules line (min line doc.lineCount)

def previousStatement? (doc : Document) (rules : Rules) (line : Nat) : Option Statement :=
  (doc.previousCodeLine? line).map fun stop => ⟨doc.statementStart rules stop, stop⟩

/-- The statement that ends above `line`. -/
def statementAbove? (doc : Document) (rules : Rules) : Nat → Option Statement
  | 0 => none
  | line + 1 => doc.previousStatement? rules line

end Reindent.Document
