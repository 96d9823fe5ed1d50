import Reindent.Indenter

/-!
# Columns that are no words

Columns and widths are words, and a run ends at once where one that it computes
is not. The decisions and passes so far are about numbers of any size. Here
they are as a run makes them, in the order in which it needs their columns;
they have no result where the run ends, and otherwise the exact one.
-/

namespace Reindent

def word? (n : Nat) : Option Nat := if n < wordSize then some n else none

def Text.virtualColumnFrom? (tabWidth column : Nat) : Nat → Nat → Text → Option Nat
  | offset, position, [] => word? (position + (column - offset))
  | offset, position, c :: rest =>
    if offset < column then do
      let next ← word? (advance tabWidth position c)
      virtualColumnFrom? tabWidth column (offset + c.utf8Size) next rest
    else some position

namespace Document

def virtualColumn? (doc : Document) (line column : Nat) : Option Nat :=
  Text.virtualColumnFrom? doc.tabWidth column 0 0 (doc.line line)

def firstVirtualColumn? (doc : Document) (line : Nat) : Option (Option Nat) :=
  (doc.firstColumn line).mapM (doc.virtualColumn? line)

/-- The number of the line below is computed before brackets are looked for. -/
def continues? (doc : Document) (rules : Rules) (line : Nat) : Option Bool :=
  (word? (line + 1)).map fun _ => doc.continues rules line

end Document

namespace Statement

def indent? (stmt : Statement) (doc : Document) : Option Nat :=
  (doc.firstVirtualColumn? stmt.start).map (·.getD 0)

def offsetAt? (stmt : Statement) (doc : Document) (position : Position) : Option Nat :=
  word? (stmt.offsetAt doc position)

end Statement

namespace Document

def indentInBrackets? (doc : Document) (rules : Rules) (anchor : Anchor) (above : Statement)
    (indentWidth : Nat) : Option Directive := do
  let position := anchor.position
  let steps := doc.stepsPast rules anchor above
  if doc.hangs anchor then
    let base := (← doc.firstVirtualColumn? position.line).getD 0
    return .setIndent (← word? (base + if steps then indentWidth else 0))
  else
    let column := if steps then doc.elementColumn position else position.column
    return .alignTo (← above.indent? doc) (← doc.virtualColumn? position.line column)

/-- Only a request by the user makes the columns of the two lines be compared. -/
def isPlaced? (doc : Document) (above : Statement) (line : Nat) (trigger : Trigger) :
    Option Bool := do
  if trigger == .manual then
    let _ ← doc.firstVirtualColumn? line
    let _ ← doc.firstVirtualColumn? above.stop
    return doc.startsRightOf line above.stop
  else return false

def indentContinuation? (doc : Document) (above : Statement) (line indentWidth : Nat)
    (trigger : Trigger) : Option Directive := do
  let base ← above.indent? doc
  if !above.isSingleLine then
    return .setIndent ((← doc.firstVirtualColumn? above.stop).getD base)
  else if ← doc.isPlaced? above line trigger then return .noOpinion
  else
    let twice ← word? (indentWidth * 2)
    return .setIndent (← word? (base + twice))

def indentByBlock? (doc : Document) (rules : Rules) (above : Statement)
    (line indentWidth : Nat) : Option Directive := do
  let base ← above.indent? doc
  if rules.blockEnd.isMatch (doc.line line) then
    match doc.blockStart? rules line with
    | some start => return .setIndent (← start.indent? doc)
    | none => return .noOpinion
  else if doc.opensBlock rules above || rules.looseOpener.isMatch (above.content doc) then
    return .setIndent (← word? (base + indentWidth))
  else return .setIndent base

/-- Where the statement above begins is computed first, whether it is needed or
not. -/
def directiveFor? (doc : Document) (rules : Rules) (line indentWidth : Nat) (trigger : Trigger) :
    Option Directive :=
  if !doc.acceptsTrigger rules line trigger then some .noOpinion
  else
    match doc.statementAbove? rules line with
    | none => some .noOpinion
    | some above =>
      if doc.isVerbatim rules line then some .verbatim
      else do
        let _ ← above.indent? doc
        match doc.lastAnchor? ⟨line, 0⟩ with
        | some anchor => doc.indentInBrackets? rules anchor above indentWidth
        | none =>
          if doc.joins rules above.stop line then
            doc.indentContinuation? above line indentWidth trigger
          else doc.indentByBlock? rules above line indentWidth

def tryIndent? (doc : Document) (rules : Rules) (line indentWidth : Nat) (trigger : Trigger) :
    Option (Except IndentError Directive) :=
  if line < doc.lineCount then (doc.directiveFor? rules line indentWidth trigger).map .ok
  else some (.error (.lineOutOfRange line doc.lineCount))

def indent? (doc : Document) (rules : Rules) (line indentWidth : Nat) (trigger : Trigger) :
    Option Directive := do
  match ← doc.tryIndent? rules line indentWidth trigger with
  | .ok directive => return directive
  | .error _ => return .noOpinion

end Document

namespace Indenter

def indentLine? (indenter : Indenter) (doc : Document) (line : Nat) (trigger : Trigger) :
    Option (Document × Bool) := do
  let directive ← doc.indent? indenter.rules line indenter.settings.indentWidth trigger
  return indenter.apply doc line directive

def typed? (indenter : Indenter) (doc : Document) (line : Nat) (c : Char) :
    Option (Document × Bool) :=
  if indenter.rules.isTrigger c then indenter.indentLine? doc line (.ofChar c)
  else some (doc, false)

def indentStep? (indenter : Indenter) (state : Document × Nat) (line : Nat) :
    Option (Document × Nat) :=
  if Text.isAllWhiteSpace (state.1.line line) then some state
  else do
    let result ← indenter.indentLine? state.1 line .manual
    return (result.1, if result.2 then state.2 + 1 else state.2)

def indentLines? (indenter : Indenter) (doc : Document) (first last : Nat) :
    Option (Document × Nat) :=
  (List.range' first (min (last + 1) doc.lineCount - first)).foldlM indenter.indentStep? (doc, 0)

def indentAll? (indenter : Indenter) (doc : Document) : Option (Document × Nat) :=
  indenter.indentLines? doc 0 (doc.lineCount - 1)

end Indenter

end Reindent
