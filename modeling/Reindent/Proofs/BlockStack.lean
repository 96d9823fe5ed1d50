import Reindent.Proofs.Segments

/-!
# The opener of a block is on top of a stack

The opener of the block around a line is looked for upwards, with a counter of
the blocks that have been closed on the way. The same can be told forwards: go
through the statements above the line from the top of the document, put each
one that opens a block on a stack and take one off for each that closes a
block. A branch does neither. The search with the counter at `n` finds the
entry `n` places below the top, so with the counter at zero it finds the top.
-/

namespace Reindent

namespace Document

variable {doc : Document} {rules : Rules} {line : Nat}

/-- What a statement does to the stack of open blocks. A closer without an opener
does nothing. -/
def blockStep (doc : Document) (rules : Rules) (stack : List Statement) (stmt : Statement) :
    List Statement :=
  match doc.opensBlock rules stmt, doc.closesBlock rules stmt with
  | true, false => stmt :: stack
  | false, true => stack.tail
  | _, _ => stack

/-- The openers of the blocks that are open above a line, the innermost first,
from a run through the statements above the line in the order of the document. -/
def openBlocks (doc : Document) (rules : Rules) (line : Nat) : List Statement :=
  (doc.statementsAbove rules line).reverse.foldl (doc.blockStep rules) []

theorem openBlocks_of_none (h : doc.statementAbove? rules line = none) :
    doc.openBlocks rules line = [] := by
  rw [openBlocks, statementsAbove_of_none h]
  rfl

theorem openBlocks_of_some {stmt : Statement} (h : doc.statementAbove? rules line = some stmt) :
    doc.openBlocks rules line = doc.blockStep rules (doc.openBlocks rules stmt.start) stmt := by
  rw [openBlocks, statementsAbove_of_some h, List.reverse_cons, List.foldl_append]
  rfl

/-- The search with the counter at `closed` finds the entry that many places
below the top of the stack. -/
theorem blockStartFrom?_eq_getElem? {steps : Nat} (hsteps : min line (doc.lineCount + 1) ≤ steps)
    (closed : Nat) :
    doc.blockStartFrom? rules steps closed line = (doc.openBlocks rules line)[closed]? := by
  induction steps generalizing closed line with
  | zero =>
    obtain rfl : line = 0 := by omega
    rw [openBlocks_of_none rfl]
    rfl
  | succ steps ih =>
    rw [blockStartFrom?]
    cases habove : doc.statementAbove? rules line with
    | none => rw [openBlocks_of_none habove]; rfl
    | some stmt =>
      obtain ⟨hordered, hlt⟩ := statementAbove?_bounds habove
      have hstart : stmt.start ≤ stmt.stop := hordered
      have hcount := lt_lineCount_of_isCodeLine (isStatement_of_statementAbove? habove).code_stop
      have hrest (closed : Nat) : doc.blockStartFrom? rules steps closed stmt.start =
          (doc.openBlocks rules stmt.start)[closed]? := ih (by omega) closed
      rw [openBlocks_of_some habove, blockStep]
      dsimp only
      cases doc.opensBlock rules stmt <;> cases doc.closesBlock rules stmt
      case true.false =>
        cases closed with
        | zero => rfl
        | succ closed => exact hrest closed
      case false.true =>
        rw [List.getElem?_tail]
        exact hrest (closed + 1)
      -- What does neither or both leaves counter and stack as they are.
      case false.false => exact hrest closed
      case true.true => exact hrest closed

theorem blockStart?_eq_head? (doc : Document) (rules : Rules) (line : Nat) :
    doc.blockStart? rules line = (doc.openBlocks rules line).head? := by
  rw [blockStart?, blockStartFrom?_eq_getElem? (Nat.le_refl _), List.head?_eq_getElem?]

theorem directiveFor_eq_indentByBlock {above : Statement} {indentWidth : Nat}
    (habove : doc.statementAbove? rules line = some above)
    (hverbatim : doc.isVerbatim rules line = false) (hanchor : doc.lastAnchor? ⟨line, 0⟩ = none)
    (hjoins : doc.joins rules above.stop line = false) :
    doc.directiveFor rules line indentWidth .manual =
      doc.indentByBlock rules above line indentWidth := by
  simp [directiveFor, acceptsTrigger, habove, hverbatim, hanchor, hjoins]

end Document

end Reindent
