import Reindent.Text

/-!
# Requests for an indent and answers to them
-/

namespace Reindent

inductive Trigger where
  /-- The user asked for the line to be indented. -/
  | manual
  | newline
  | char (c : Char)
  deriving DecidableEq, Repr

def Trigger.ofChar (c : Char) : Trigger := if c == '\n' then .newline else .char c

/-- Typed text stands for its first character; nothing typed is a request by
the user. -/
def Trigger.ofTyped : Text → Trigger
  | [] => .manual
  | c :: _ => .ofChar c

inductive Directive where
  /-- Leave the line exactly as it is. -/
  | verbatim
  /-- Keep the indent that the line has. -/
  | noOpinion
  | setIndent (column : Nat)
  /-- Indent to `base`, then align with spaces to `column`. -/
  | alignTo (base column : Nat)
  deriving DecidableEq, Repr

/-- A 64-bit word read as a signed number. -/
def signedWord (n : Nat) : Int := Int.bmod n wordSize

/-- The encoding by numbers: -1 is verbatim, -2 is no opinion, and an alignment
comes second. -/
def Directive.encode : Directive → Int × Option Int
  | .verbatim => (-1, none)
  | .noOpinion => (-2, none)
  | .setIndent column => (signedWord column, none)
  | .alignTo base column => (signedWord base, some (signedWord column))

end Reindent
