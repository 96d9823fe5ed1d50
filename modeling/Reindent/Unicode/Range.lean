/-!
# Sets of code points as sorted ranges

A property of the Unicode character database is kept as its inclusive ranges
in ascending order. Membership stops at the first range that lies above the
code point, so the order is part of the contract of every table.
-/

namespace Reindent.Unicode

abbrev Ranges := List (Nat × Nat)

def Ranges.contains : Ranges → Nat → Bool
  | [], _ => false
  | (low, high) :: rest, n => low ≤ n && (n ≤ high || Ranges.contains rest n)

def Ranges.containsChar (ranges : Ranges) (c : Char) : Bool :=
  ranges.contains c.toNat

end Reindent.Unicode
