import Reindent.Unicode.CaseFolding
import Reindent.Unicode.WhiteSpace
import Reindent.Unicode.Word

/-!
# Sets of characters

A set is kept as the expression that describes it, so that membership follows
the set operations and no range ever has to be split or merged.
-/

namespace Reindent

inductive CharSet where
  | ranges (table : Unicode.Ranges)
  | union (a b : CharSet)
  | inter (a b : CharSet)
  | complement (a : CharSet)
  /-- Closes a set under change of case. -/
  | anyCase (a : CharSet)
  deriving Repr, DecidableEq

namespace CharSet

def contains : CharSet → Char → Bool
  | .ranges table, c => table.containsChar c
  | .union a b, c => a.contains c || b.contains c
  | .inter a b, c => a.contains c && b.contains c
  | .complement a, c => !a.contains c
  | .anyCase a, c => (Unicode.caseVariants c).any a.contains

def interval (low high : Char) : CharSet := .ranges [(low.toNat, high.toNat)]

def single (c : Char) : CharSet := interval c c

def empty : CharSet := .ranges []

def all : CharSet := .complement empty

def ascii : CharSet := .ranges [(0, 0x7F)]

def difference (a b : CharSet) : CharSet := .inter a (.complement b)

def symmetricDifference (a b : CharSet) : CharSet := .union (difference a b) (difference b a)

def ofTables (tables : List Unicode.Ranges) : CharSet :=
  tables.foldr (fun table rest => .union (.ranges table) rest) empty

def whiteSpace : CharSet := .ranges Unicode.whiteSpace

def word : CharSet := ofTables Unicode.wordTables

def digit : CharSet := .ranges Unicode.Category.decimalNumber

def asciiWhiteSpace : CharSet := .ranges [(0x09, 0x0D), (0x20, 0x20)]

def asciiWord : CharSet := .ranges [(0x30, 0x39), (0x41, 0x5A), (0x5F, 0x5F), (0x61, 0x7A)]

def asciiDigit : CharSet := .ranges [(0x30, 0x39)]

def posix? : String → Option CharSet
  | "alnum" => some (.ranges [(0x30, 0x39), (0x41, 0x5A), (0x61, 0x7A)])
  | "alpha" => some (.ranges [(0x41, 0x5A), (0x61, 0x7A)])
  | "ascii" => some ascii
  | "blank" => some (.ranges [(0x09, 0x09), (0x20, 0x20)])
  | "cntrl" => some (.ranges [(0x00, 0x1F), (0x7F, 0x7F)])
  | "digit" => some asciiDigit
  | "graph" => some (.ranges [(0x21, 0x7E)])
  | "lower" => some (.ranges [(0x61, 0x7A)])
  | "print" => some (.ranges [(0x20, 0x7E)])
  | "punct" => some (.ranges [(0x21, 0x2F), (0x3A, 0x40), (0x5B, 0x60), (0x7B, 0x7E)])
  | "space" => some asciiWhiteSpace
  | "upper" => some (.ranges [(0x41, 0x5A)])
  | "word" => some asciiWord
  | "xdigit" => some (.ranges [(0x30, 0x39), (0x41, 0x46), (0x61, 0x66)])
  | _ => none

def isAscii (set : CharSet) : Bool :=
  (List.range' 0x80 0x80).all fun n => !set.contains (Char.ofNat n)

def weight : CharSet → Nat
  | .ranges table => table.foldl (fun total (_, high) => total + if high < 0x80 then 24 else 64) 0
  | .union a b | .inter a b => a.weight + b.weight
  | .complement a => a.weight + 256
  | .anyCase a => 2 * a.weight

end CharSet

end Reindent
