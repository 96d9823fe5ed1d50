import Reindent.Document

/-!
# Open brackets

Of the brackets that stand in code before a point, the ones that are not
closed again there decide how a line inside them is placed. Each of the
three kinds is matched on its own; brackets of another kind in between do not
matter.
-/

namespace Reindent

inductive Bracket where
  | paren
  | brace
  | square
  deriving DecidableEq, Repr

namespace Bracket

def all : List Bracket := [.paren, .brace, .square]

def opener : Bracket → Char
  | .paren => '('
  | .brace => '{'
  | .square => '['

def closer : Bracket → Char
  | .paren => ')'
  | .brace => '}'
  | .square => ']'

def ofOpener? (c : Char) : Option Bracket := all.find? (·.opener == c)

end Bracket

def isBracketChar (c : Char) : Bool :=
  Bracket.all.any fun bracket => c == bracket.opener || c == bracket.closer

structure BracketSite where
  position : Position
  char : Char
  deriving DecidableEq, Repr

/-- The brackets in code of a line's text from `column` on. -/
def bracketSites (line column : Nat) : Text → Row → List BracketSite
  | [], _ => []
  | c :: rest, row =>
    let later := bracketSites line (column + c.utf8Size) rest (row.drop c.utf8Size)
    if isBracketChar c && (row.at 0).isCode then ⟨⟨line, column⟩, c⟩ :: later else later

/-- The brackets in code before a point, in the lines from number `line` on. -/
def bracketSitesBefore (point : Position) (line : Nat) : List SourceLine → List BracketSite
  | [] => []
  | l :: rest =>
    if line < point.line then
      bracketSites line 0 l.text l.row ++ bracketSitesBefore point (line + 1) rest
    else if line = point.line then
      (bracketSites line 0 l.text l.row).filter (·.position.column < point.column)
    else []

/-- The nearest opener that is not closed again, in sites listed from the
nearest on, when `closed` closers behind them still look for their openers. -/
def unclosed? (bracket : Bracket) (closed : Nat) : List BracketSite → Option Position
  | [] => none
  | site :: rest =>
    if site.char = bracket.closer then unclosed? bracket (closed + 1) rest
    else if site.char = bracket.opener then
      match closed with
      | 0 => some site.position
      | closed + 1 => unclosed? bracket closed rest
    else unclosed? bracket closed rest

structure Anchor where
  position : Position
  bracket : Bracket
  deriving DecidableEq, Repr

namespace Document

/-- The brackets in code before a point, in order. A point past the end of the
line or of the document has all there is before it. -/
def bracketSitesBefore (doc : Document) (point : Position) : List BracketSite :=
  Reindent.bracketSitesBefore point 0 doc.lines

def anchor? (doc : Document) (bracket : Bracket) (point : Position) : Option Position :=
  unclosed? bracket 0 (doc.bracketSitesBefore point).reverse

/-- The nearest open bracket of any kind before a point. -/
def lastAnchor? (doc : Document) (point : Position) : Option Anchor :=
  let sites := (doc.bracketSitesBefore point).reverse
  let anchors := Bracket.all.filterMap fun bracket =>
    (unclosed? bracket 0 sites).map fun position => Anchor.mk position bracket
  match anchors with
  | [] => none
  | first :: rest =>
    some (rest.foldl (fun a b => if b.position.isBefore a.position then a else b) first)

/-- Whether nothing but blanks and a comment follows a column. -/
def isLastCodeColumn (doc : Document) (line column : Nat) : Bool :=
  match doc.lastColumn line with
  | none => true
  | some last =>
    if column < last then (doc.nextNonBlankColumn line (column + 1)).any (doc.isComment line)
    else true

end Document

end Reindent
