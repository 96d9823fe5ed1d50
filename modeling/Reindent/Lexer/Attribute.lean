/-!
# Highlighting attributes

Every byte of a Ruby line has one of five attributes. The names are the ones
under which a configuration refers to them.
-/

namespace Reindent

inductive Attribute where
  | normal
  | comment
  | blockComment
  | string
  | hereDocument
  deriving DecidableEq, Repr, Inhabited

/-- Attributes of a line, one for each byte of its text. -/
abbrev Row := List Attribute

def Attribute.name : Attribute → String
  | .normal => "Ruby:Normal Text"
  | .comment => "Ruby:Comment"
  | .blockComment => "Ruby:Blockcomment"
  | .string => "Ruby:String"
  | .hereDocument => "Ruby:Here Document"

def Attribute.isCode : Attribute → Bool
  | .normal => true
  | _ => false

def Attribute.isComment : Attribute → Bool
  | .comment | .blockComment => true
  | _ => false

/-- The attribute at a column; columns past the row are plain code. -/
def Row.at (row : Row) (column : Nat) : Attribute :=
  row[column]?.getD .normal

end Reindent
