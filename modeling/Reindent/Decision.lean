import Reindent.Block
import Reindent.Directive

/-!
# Deciding the indent of a line

The answer rests on the line and the lines above it. Here documents and
embedded documentation are left alone. Inside an open bracket a line is
aligned to what follows the bracket, or indented one level past the
bracket's line if nothing follows it. A line that continues an operator is
indented twice. A block closer goes back to its opener, and a line after an
opener is indented once. Any other line keeps the indent of the statement
above it. Columns are numbers of any size.
-/

namespace Reindent

inductive IndentError where
  | lineOutOfRange (line lineCount : Nat)
  deriving DecidableEq, Repr

def IndentError.message : IndentError → String
  | .lineOutOfRange line lineCount =>
    "line " ++ toString line ++ " is outside the document (" ++ toString lineCount ++ " lines)"

namespace Document

/-- A typed character counts only when it completes a block closer that
nothing follows. -/
def acceptsTrigger (doc : Document) (rules : Rules) (line : Nat) : Trigger → Bool
  | .manual | .newline => true
  | .char _ => rules.blockEndMatch (doc.line line) == some true

/-- Whether the nearest line that is not blank ends in an attribute whose lines
are to be left alone. -/
def isVerbatim (doc : Document) (rules : Rules) (line : Nat) : Bool :=
  (doc.previousNonBlankLine? line).any fun above =>
    rules.verbatimAttributes.contains
      (doc.attributeAt above (doc.lineLength above - 1)).name

/-- Whether a line inside a bracket goes one step past it: the bracket has
only just been opened, or a comma announces the next element. -/
def stepsPast (doc : Document) (rules : Rules) (anchor : Anchor) (above : Statement) : Bool :=
  anchor.position.line == above.stop || above.endsWith doc rules.trailingComma

/-- Whether a bracket ends its line and no other bracket is open around it. -/
def hangs (doc : Document) (anchor : Anchor) : Bool :=
  doc.isLastCodeColumn anchor.position.line anchor.position.column &&
    (doc.lastAnchor? anchor.position).isNone

/-- The column of the first element after a bracket, or the one right after the
bracket when there is none. -/
def elementColumn (doc : Document) (position : Position) : Nat :=
  match doc.nextNonBlankColumn position.line (position.column + 1) with
  | some next => if doc.isComment position.line next then position.column + 1 else next
  | none => position.column + 1

def indentInBrackets (doc : Document) (rules : Rules) (anchor : Anchor) (above : Statement)
    (indentWidth : Nat) : Directive :=
  let position := anchor.position
  let steps := doc.stepsPast rules anchor above
  if doc.hangs anchor then
    let base := (doc.firstVirtualColumn position.line).getD 0
    .setIndent (base + if steps then indentWidth else 0)
  else
    let column := if steps then doc.elementColumn position else position.column
    .alignTo (above.indent doc) (doc.virtualColumn position.line column)

/-- Whether a line starts further right than another; a blank line starts
nowhere. -/
def startsRightOf (doc : Document) (line other : Nat) : Bool :=
  match doc.firstVirtualColumn line, doc.firstVirtualColumn other with
  | some a, some b => b < a
  | some _, none => true
  | none, _ => false

/-- A line that continues a statement of one line is indented twice, unless the
user has placed it further right. Later lines follow the one above. -/
def indentContinuation (doc : Document) (above : Statement) (line indentWidth : Nat)
    (trigger : Trigger) : Directive :=
  if !above.isSingleLine then
    .setIndent ((doc.firstVirtualColumn above.stop).getD (above.indent doc))
  else if trigger == .manual && doc.startsRightOf line above.stop then .noOpinion
  else .setIndent (above.indent doc + indentWidth * 2)

/-- The indent of a line that neither stands in a bracket nor continues the
statement above it. -/
def indentByBlock (doc : Document) (rules : Rules) (above : Statement)
    (line indentWidth : Nat) : Directive :=
  if rules.blockEnd.isMatch (doc.line line) then
    match doc.blockStart? rules line with
    | some start => .setIndent (start.indent doc)
    | none => .noOpinion
  else if doc.opensBlock rules above || rules.looseOpener.isMatch (above.content doc) then
    .setIndent (above.indent doc + indentWidth)
  else .setIndent (above.indent doc)

def directiveFor (doc : Document) (rules : Rules) (line indentWidth : Nat) (trigger : Trigger) :
    Directive :=
  if !doc.acceptsTrigger rules line trigger then .noOpinion
  else
    match doc.statementAbove? rules line with
    | none => .noOpinion
    | some above =>
      if doc.isVerbatim rules line then .verbatim
      else
        match doc.lastAnchor? ⟨line, 0⟩ with
        | some anchor => doc.indentInBrackets rules anchor above indentWidth
        | none =>
          if doc.joins rules above.stop line then
            doc.indentContinuation above line indentWidth trigger
          else doc.indentByBlock rules above line indentWidth

def tryIndent (doc : Document) (rules : Rules) (line indentWidth : Nat) (trigger : Trigger) :
    Except IndentError Directive :=
  if line < doc.lineCount then .ok (doc.directiveFor rules line indentWidth trigger)
  else .error (.lineOutOfRange line doc.lineCount)

/-- There is no opinion on lines that the document does not have. -/
def indent (doc : Document) (rules : Rules) (line indentWidth : Nat) (trigger : Trigger) :
    Directive :=
  match doc.tryIndent rules line indentWidth trigger with
  | .ok directive => directive
  | .error _ => .noOpinion

end Document

end Reindent
