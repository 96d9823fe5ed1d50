import Reindent.Pattern.Basic

/-!
# Searching a text

A search takes the leftmost place where the pattern matches, and there the
preferred match. Matches of a whole text do not overlap, and an empty match
right behind the previous match does not count.
-/

namespace Reindent

structure Match where
  start : Nat
  stop : Nat
  groups : List (String × Nat × Nat)
  deriving Repr, DecidableEq

def Match.group? (found : Match) (name : String) : Option (Nat × Nat) :=
  found.groups.lookup name

namespace Pattern

def matchAt? (pattern : Pattern) (place : Cursor) : Option Match :=
  (pattern.ends place).head?.map fun last => ⟨place.offset, last.offset, last.groups⟩

def findFrom? (pattern : Pattern) (before : Option Char) (offset : Nat) :
    Text → Option Match
  | [] => pattern.matchAt? ⟨before, [], offset, []⟩
  | c :: rest =>
    match pattern.matchAt? ⟨before, c :: rest, offset, []⟩ with
    | some found => some found
    | none => pattern.findFrom? (some c) (offset + c.utf8Size) rest

def find? (pattern : Pattern) (text : Text) : Option Match :=
  pattern.findFrom? none 0 text

def isMatch (pattern : Pattern) (text : Text) : Bool :=
  (pattern.find? text).isSome

def nextAt? (pattern : Pattern) (previous : Option Nat) (place : Cursor) : Option Match :=
  if previous.any (place.offset < ·) then none
  else (pattern.matchAt? place).filter fun found =>
    !(found.stop == place.offset && previous == some place.offset)

def matchesFrom (pattern : Pattern) (previous : Option Nat) (before : Option Char)
    (offset : Nat) : Text → List Match
  | [] => (pattern.nextAt? previous ⟨before, [], offset, []⟩).toList
  | c :: rest =>
    match pattern.nextAt? previous ⟨before, c :: rest, offset, []⟩ with
    | some found =>
      found :: pattern.matchesFrom (some found.stop) (some c) (offset + c.utf8Size) rest
    | none => pattern.matchesFrom previous (some c) (offset + c.utf8Size) rest

def allMatches (pattern : Pattern) (text : Text) : List Match :=
  pattern.matchesFrom none none 0 text

end Pattern

end Reindent
