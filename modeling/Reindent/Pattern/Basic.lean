import Reindent.Pattern.CharSet
import Reindent.Text

/-!
# Patterns and where they end

A pattern is a regular expression over characters. Its meaning at a place in
a text is the list of the places where a match from there may end, the
preferred one first: an alternative written earlier comes before a later one,
a greedy repetition prefers more rounds and a lazy one fewer. The match of a
pattern at a place is thus the head of the list.

A repetition visits a place once only, at the highest priority at which it is
reached. A round that takes no text ends the repetition when it is the first
one, and is dropped otherwise.
-/

namespace Reindent

/-- A place in a text: the character before it, the text after it, its byte
offset, and the named groups closed on the way to it, the latest first. -/
structure Cursor where
  before : Option Char
  after : Text
  offset : Nat
  groups : List (String × Nat × Nat)
  deriving Repr, DecidableEq

/-- Conditions on a place that take no text. With `ascii`, words are made of
ASCII word characters; with `crlf`, a carriage return ends a line too. -/
inductive Look where
  | textStart
  | textEnd
  | lineStart (crlf : Bool)
  | lineEnd (crlf : Bool)
  | wordBoundary (ascii : Bool)
  | noWordBoundary (ascii : Bool)
  | wordStart (ascii : Bool)
  | wordEnd (ascii : Bool)
  | noWordBefore (ascii : Bool)
  | noWordAfter (ascii : Bool)
  deriving Repr, DecidableEq

namespace Cursor

def isWordChar (ascii : Bool) (c : Char) : Bool :=
  if ascii then CharSet.asciiWord.contains c else Unicode.isWord c

def wordBefore (ascii : Bool) (place : Cursor) : Bool :=
  place.before.any (isWordChar ascii)

def wordAfter (ascii : Bool) (place : Cursor) : Bool :=
  place.after.head?.any (isWordChar ascii)

/-- Line feeds end lines. When carriage returns do too, the two characters of
a pair are not parted. -/
def atLineStart (crlf : Bool) (place : Cursor) : Bool :=
  place.before.isNone || place.before == some '\n' ||
    (crlf && place.before == some '\r' && place.after.head? != some '\n')

def atLineEnd (crlf : Bool) (place : Cursor) : Bool :=
  place.after.isEmpty ||
    (if crlf then
      place.after.head? == some '\r' ||
        (place.after.head? == some '\n' && place.before != some '\r')
    else place.after.head? == some '\n')

end Cursor

def Look.holds : Look → Cursor → Bool
  | .textStart, place => place.before.isNone
  | .textEnd, place => place.after.isEmpty
  | .lineStart crlf, place => place.atLineStart crlf
  | .lineEnd crlf, place => place.atLineEnd crlf
  | .wordBoundary ascii, place => place.wordBefore ascii != place.wordAfter ascii
  | .noWordBoundary ascii, place => place.wordBefore ascii == place.wordAfter ascii
  | .wordStart ascii, place => !place.wordBefore ascii && place.wordAfter ascii
  | .wordEnd ascii, place => place.wordBefore ascii && !place.wordAfter ascii
  | .noWordBefore ascii, place => !place.wordBefore ascii
  | .noWordAfter ascii, place => !place.wordAfter ascii

inductive Pattern where
  | empty
  | char (set : CharSet)
  | look (condition : Look)
  | seq (a b : Pattern)
  | alt (a b : Pattern)
  | group (name : String) (a : Pattern)
  /-- At least `low` rounds of `a`, and at most `high` if that is given. -/
  | rounds (a : Pattern) (low : Nat) (high : Option Nat) (greedy : Bool)
  deriving Repr, DecidableEq

/-! ## Repetition of a step

A step leads from a place to the places behind one round, the preferred one
first. -/

namespace Rounds

def prefer (greedy : Bool) (more : List Cursor) (place : Cursor) : List Cursor :=
  if greedy then more ++ [place] else place :: more

def exactly (step : Cursor → List Cursor) : Nat → Cursor → List Cursor
  | 0, place => [place]
  | n + 1, place => (step place).flatMap (exactly step n)

def upTo (step : Cursor → List Cursor) (greedy : Bool) : Nat → Cursor → List Cursor
  | 0, place => [place]
  | n + 1, place => prefer greedy ((step place).flatMap (upTo step greedy n)) place

def reach (reached : List Cursor) (place : Cursor) : List Cursor :=
  if reached.any (·.offset == place.offset) then reached else place :: reached

/-- Adds `place` and all that further rounds from it reach. Every round takes
text, so the length of the text after `place` bounds their number. -/
def explore (step : Cursor → List Cursor) (greedy : Bool) :
    Nat → List Cursor → Cursor → List Cursor
  | 0, reached, place => reach reached place
  | n + 1, reached, place =>
    if reached.any (·.offset == place.offset) then reached
    else
      let further := (step place).filter (place.offset < ·.offset)
      if greedy then place :: further.foldl (explore step greedy n) reached
      else further.foldl (explore step greedy n) (place :: reached)

def atLeastOne (step : Cursor → List Cursor) (greedy : Bool) (place : Cursor) : List Cursor :=
  ((step place).foldl (fun reached next =>
    if place.offset < next.offset then explore step greedy next.after.length reached next
    else reach reached next) []).reverse

def anyNumber (step : Cursor → List Cursor) (greedy : Bool) (place : Cursor) : List Cursor :=
  prefer greedy (atLeastOne step greedy place) place

end Rounds

namespace Pattern

def ends : Pattern → Cursor → List Cursor
  | .empty, place => [place]
  | .char set, place =>
    match place.after with
    | [] => []
    | c :: rest =>
      if set.contains c then
        [⟨some c, rest, place.offset + c.utf8Size, place.groups⟩]
      else []
  | .look condition, place => if condition.holds place then [place] else []
  | .seq a b, place => (a.ends place).flatMap b.ends
  | .alt a b, place => a.ends place ++ b.ends place
  | .group name a, place =>
    (a.ends place).map fun last =>
      { last with groups := (name, place.offset, last.offset) :: last.groups }
  | .rounds a low (some high) greedy, place =>
    (Rounds.exactly a.ends low place).flatMap (Rounds.upTo a.ends greedy (high - low))
  | .rounds a 0 none greedy, place => Rounds.anyNumber a.ends greedy place
  | .rounds a (low + 1) none greedy, place =>
    (Rounds.exactly a.ends low place).flatMap (Rounds.atLeastOne a.ends greedy)

def groupNames : Pattern → List String
  | .seq a b | .alt a b => a.groupNames ++ b.groupNames
  | .group name a => name :: a.groupNames
  | .rounds a .. => a.groupNames
  | _ => []

/-- An estimate, in bytes, of what the pattern costs once compiled. -/
def weight : Pattern → Nat
  | .empty | .look _ => 24
  | .char set => 8 + set.weight
  | .seq a b => a.weight + b.weight
  | .alt a b => a.weight + b.weight + 24
  | .group _ a => a.weight + 48
  | .rounds a low high _ => a.weight * max 1 (high.getD low) + 24

end Pattern

end Reindent
