/-!
# Positions

A position is a line and a byte column in it, both counted from zero. Positions
are ordered as they follow each other in a document.
-/

namespace Reindent

structure Position where
  line : Nat
  column : Nat
  deriving DecidableEq, Repr, Inhabited

namespace Position

def compare (a b : Position) : Ordering :=
  (Ord.compare a.line b.line).then (Ord.compare a.column b.column)

instance : Ord Position := ⟨compare⟩

def isBefore (a b : Position) : Bool := compare a b == .lt

def latest (a b : Position) : Position := if a.isBefore b then b else a

def latest? : List Position → Option Position
  | [] => none
  | first :: rest => some (rest.foldl latest first)

def sort (positions : List Position) : List Position :=
  positions.mergeSort fun a b => !b.isBefore a

def display (position : Position) : String :=
  "(" ++ toString position.line ++ ", " ++ toString position.column ++ ")"

end Position

end Reindent
