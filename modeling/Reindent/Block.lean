import Reindent.Segmentation

/-!
# Blocks

A block opens with a keyword at the start of a statement or with a `do` or a
brace at its end, and closes with `end` or a bracket at the start of a line.
A branch such as `else` does both, so it leaves the nesting as it is.
-/

namespace Reindent.Document

def opensBlock (doc : Document) (rules : Rules) (stmt : Statement) : Bool :=
  rules.blockStart.isMatch (stmt.content doc) || stmt.endsWith doc rules.blockOpenerTail

def closesBlock (doc : Document) (rules : Rules) (stmt : Statement) : Bool :=
  rules.blockEnd.isMatch (stmt.content doc)

/-- Looks upwards from `line` for the opener of a block when `closed` blocks
in between have been closed. Every step goes up by a line at least, so `line`
steps are enough. -/
def blockStartFrom? (doc : Document) (rules : Rules) : Nat → Nat → Nat → Option Statement
  | 0, _, _ => none
  | steps + 1, closed, line =>
    match doc.statementAbove? rules line with
    | none => none
    | some stmt =>
      let closed := if doc.closesBlock rules stmt then closed + 1 else closed
      if doc.opensBlock rules stmt then
        match closed with
        | 0 => some stmt
        | closed + 1 => blockStartFrom? doc rules steps closed stmt.start
      else blockStartFrom? doc rules steps closed stmt.start

/-- The statement that opens the block around a line. -/
def blockStart? (doc : Document) (rules : Rules) (line : Nat) : Option Statement :=
  doc.blockStartFrom? rules (min line (doc.lineCount + 1)) 0 line

end Reindent.Document
