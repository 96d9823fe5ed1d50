import Reindent.Text

/-!
# What the lexer carries from line to line

A string or an embedded document may run over several lines, and a here
document begins on the line after its opener. The state at the start of a
line decides, together with the text, the attributes of the line.
-/

namespace Reindent

structure HereDocument where
  /-- UTF-8 bytes of the line that ends the document. -/
  terminator : List UInt8
  /-- Whether the terminator may be indented. -/
  indented : Bool
  deriving DecidableEq, Repr

/-- White space after the terminator never counts. White space before it is
allowed when the document was opened as indented. -/
def HereDocument.closedBy (document : HereDocument) (line : Text) : Bool :=
  let line := if document.indented then Unicode.trimStart line else line
  Text.bytes (Unicode.trimEnd line) == document.terminator

inductive LexContext where
  | code
  /-- Inside a literal that ends at `close`. An opening delimiter that nests
  raises `depth`. -/
  | quoted (close : UInt8) (opening : Option UInt8) (depth : Nat)
  | blockComment
  deriving DecidableEq, Repr, Inhabited

structure LexState where
  context : LexContext
  /-- Here documents opened and not yet ended, the next one first. -/
  pending : List HereDocument
  deriving DecidableEq, Repr

def LexState.start : LexState := ⟨.code, []⟩

end Reindent
