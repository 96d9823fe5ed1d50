import Reindent.Lexer.Line
import Reindent.Position

/-!
# Documents

A document is a list of lines with their highlighting. Each line keeps the
state in which the lexer began it, so an edit lexes again from the edited line
down only until the state settles. A row can be overridden from outside; it
stays until its line is lexed again.

Line numbers past the end are allowed everywhere and refer to empty lines of
plain code.
-/

namespace Reindent

structure SourceLine where
  text : Text
  /-- The state of the lexer before the line. -/
  start : LexState
  row : Row
  deriving DecidableEq, Repr

structure Document where
  lines : List SourceLine
  tabWidth : Nat
  tabWidth_pos : 0 < tabWidth
  deriving DecidableEq

/-- The greatest number below `bound` with the property `p`. -/
def greatestBelow? (p : Nat → Bool) : Nat → Option Nat
  | 0 => none
  | n + 1 => if p n then some n else greatestBelow? p n

theorem greatestBelow?_eq_some {p : Nat → Bool} {bound m : Nat}
    (h : greatestBelow? p bound = some m) : m < bound ∧ p m = true := by
  induction bound with
  | zero => simp [greatestBelow?] at h
  | succ n ih =>
    unfold greatestBelow? at h
    split at h
    · simp_all
    · have := ih h
      exact ⟨by omega, this.2⟩

namespace SourceLine

def lexAll (state : LexState) : List Text → List SourceLine
  | [] => []
  | text :: rest =>
    let lexed := state.lexLine text
    ⟨text, state, lexed.1⟩ :: lexAll lexed.2 rest

/-- Lexes lines again until the state is the one in which a line was begun
before. -/
def relex (state : LexState) : List SourceLine → List SourceLine
  | [] => []
  | line :: rest =>
    if line.start = state then line :: rest
    else
      let lexed := state.lexLine line.text
      ⟨line.text, state, lexed.1⟩ :: relex lexed.2 rest

theorem map_text_lexAll (state : LexState) (texts : List Text) :
    (lexAll state texts).map (·.text) = texts := by
  induction texts generalizing state with
  | nil => rfl
  | cons text rest ih => simp [lexAll, ih]

theorem map_row_lexAll (state : LexState) (texts : List Text) :
    (lexAll state texts).map (·.row) = state.lexLines texts := by
  induction texts generalizing state with
  | nil => rfl
  | cons text rest ih => simp [lexAll, LexState.lexLines, ih]

theorem map_text_relex (state : LexState) (lines : List SourceLine) :
    (relex state lines).map (·.text) = lines.map (·.text) := by
  induction lines generalizing state with
  | nil => rfl
  | cons line rest ih =>
    unfold relex
    split <;> simp [ih]

end SourceLine

namespace Document

/-- A tab width of zero counts as one. -/
def ofLines (lines : List Text) (tabWidth : Nat) : Document where
  lines := SourceLine.lexAll .start lines
  tabWidth := max tabWidth 1
  tabWidth_pos := by omega

/-- Splits a text at line feeds and drops one carriage return before each. -/
def ofText (text : Text) (tabWidth : Nat) : Document :=
  ofLines ((Text.splitLines text).map Text.dropCarriageReturn) tabWidth

def lineCount (doc : Document) : Nat := doc.lines.length

def texts (doc : Document) : List Text := doc.lines.map (·.text)

def toText (doc : Document) : Text := Text.joinLines doc.texts

def line (doc : Document) (line : Nat) : Text :=
  (doc.lines[line]?.map (·.text)).getD []

def lineLength (doc : Document) (line : Nat) : Nat := Text.byteLength (doc.line line)

def attributeAt (doc : Document) (line column : Nat) : Attribute :=
  Row.at ((doc.lines[line]?.map (·.row)).getD []) column

def isCode (doc : Document) (line column : Nat) : Bool :=
  (doc.attributeAt line column).isCode

def isComment (doc : Document) (line column : Nat) : Bool :=
  (doc.attributeAt line column).isComment

def firstColumn (doc : Document) (line : Nat) : Option Nat := Text.firstColumn (doc.line line)

def lastColumn (doc : Document) (line : Nat) : Option Nat := Text.lastColumn (doc.line line)

def nextNonBlankColumn (doc : Document) (line column : Nat) : Option Nat :=
  Text.nextNonBlankColumn (doc.line line) column

def virtualColumn (doc : Document) (line column : Nat) : Nat :=
  Text.virtualColumn doc.tabWidth (doc.line line) column

def firstVirtualColumn (doc : Document) (line : Nat) : Option Nat :=
  (doc.firstColumn line).map (doc.virtualColumn line)

/-- The nearest line, from `line` upwards, that is not blank. -/
def previousNonBlankLine? (doc : Document) (line : Nat) : Option Nat :=
  greatestBelow? (fun l => (doc.firstColumn l).isSome) (min (line + 1) doc.lineCount)

/-- Whether a line is neither blank nor begins with a comment. -/
def isCodeLine (doc : Document) (line : Nat) : Bool :=
  (doc.firstColumn line).any fun column => !doc.isComment line column

def previousCodeLine? (doc : Document) (line : Nat) : Option Nat :=
  greatestBelow? doc.isCodeLine (min (line + 1) doc.lineCount)

def setRow (doc : Document) (line : Nat) (row : Row) : Document :=
  { doc with lines := doc.lines.modify line fun l => { l with row := row } }

/-- Replaces the leading blanks of a line by `blanks`, which may be any text,
and lexes again what the change disturbs. Tells whether anything changed. -/
def setLeadingBlanks (doc : Document) (line : Nat) (blanks : Text) : Document × Bool :=
  match doc.lines[line]? with
  | none => (doc, false)
  | some old =>
    if Text.leadingBlanks old.text = blanks then (doc, false)
    else
      let text := blanks ++ Text.body old.text
      let lexed := old.start.lexLine text
      let below := SourceLine.relex lexed.2 (doc.lines.drop (line + 1))
      ({ doc with lines := doc.lines.take line ++ ⟨text, old.start, lexed.1⟩ :: below }, true)

end Document

end Reindent
