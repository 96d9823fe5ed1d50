import Reindent.Document
import Reindent.Pattern.Search

/-!
# Statements

A statement is a range of lines that form one logical line. Its text is put
together from the document when it is needed: the lines are joined by a
space, and a backslash at the end of a line becomes a space too, so that
offsets in the text and positions in the document correspond one to one.
-/

namespace Reindent

/-- The lines from `start` to `stop`, both included. -/
structure Statement where
  start : Nat
  stop : Nat
  deriving DecidableEq, Repr

namespace Statement

def singleLine (line : Nat) : Statement := ⟨line, line⟩

def isSingleLine (stmt : Statement) : Bool := stmt.start == stmt.stop

def display (stmt : Statement) : String :=
  "\x7b" ++ toString stmt.start ++ "," ++ toString stmt.stop ++ "\x7d"

/-- A line as part of a statement's text. -/
def joined (line : Text) : Text :=
  if Text.endsInBackslash line then line.dropLast ++ [' '] else line

def lineNumbers (stmt : Statement) : List Nat :=
  List.range' stmt.start (stmt.stop + 1 - stmt.start)

def content (stmt : Statement) (doc : Document) : Text :=
  List.intercalate [' '] (stmt.lineNumbers.map fun line => joined (doc.line line))

/-- Walks down at most `lines` lines to the one that an offset falls into. -/
def walk (doc : Document) : Nat → Nat → Nat → Position
  | 0, line, offset => ⟨line, offset⟩
  | lines + 1, line, offset =>
    let length := doc.lineLength line
    if length < offset then walk doc lines (line + 1) (offset - (length + 1))
    else ⟨line, offset⟩

def positionAt (stmt : Statement) (doc : Document) (offset : Nat) : Position :=
  walk doc (stmt.stop - stmt.start) stmt.start offset

def offsetAt (stmt : Statement) (doc : Document) (position : Position) : Nat :=
  (List.range' stmt.start (position.line - stmt.start)).foldr
    (fun line offset => doc.lineLength line + 1 + offset) position.column

def isCodeAt (stmt : Statement) (doc : Document) (offset : Nat) : Bool :=
  let position := stmt.positionAt doc offset
  doc.isCode position.line position.column

def isCommentAt (stmt : Statement) (doc : Document) (offset : Nat) : Bool :=
  let position := stmt.positionAt doc offset
  doc.isComment position.line position.column

def indent (stmt : Statement) (doc : Document) : Nat :=
  (doc.firstVirtualColumn stmt.start).getD 0

/-- Whether some match of the pattern begins in code and reaches the end of the
statement or a comment. -/
def endsWith (stmt : Statement) (doc : Document) (pattern : Pattern) : Bool :=
  let content := stmt.content doc
  (pattern.allMatches content).any fun found =>
    stmt.isCodeAt doc found.start &&
      (found.stop == Text.byteLength content || stmt.isCommentAt doc found.stop)

end Statement

end Reindent
