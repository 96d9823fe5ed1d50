import Reindent.Lexer.Attribute
import Reindent.Lexer.Literal

/-!
# Lexing a line

The lexer is precise enough for indentation: it tells code from comments,
strings, here documents and embedded documentation. A line is cut into
lexemes, each of which gives all its bytes one attribute. Nothing is ever
refused; a literal that the line cuts short goes on in the next line.
-/

namespace Reindent

/-- A piece of a line: its attribute, how many bytes it takes after its first
one, and the state behind it. -/
structure Lexeme where
  kind : Attribute
  extra : Nat
  state : LexState

namespace LexState

def enter (state : LexState) (context : LexContext) : LexState :=
  { state with context := context }

def codeLexeme (state : LexState) (before : List UInt8) (b : UInt8) (after : List UInt8) :
    Lexeme :=
  let plain : Lexeme := ⟨.normal, 0, state⟩
  if b == '#'.toUInt8 then ⟨.comment, after.length, state⟩
  else if Literal.isOneOf "\"'`" b then ⟨.string, 0, state.enter (.quoted b none 0)⟩
  else if b == '%'.toUInt8 then
    match Literal.percent before after with
    | none => plain
    | some (delimiter, extra) =>
      let close := Literal.closingDelimiter delimiter
      let opening := if close == delimiter then none else some delimiter
      ⟨.string, extra, state.enter (.quoted close opening 0)⟩
  else if b == '/'.toUInt8 then
    if Literal.operandBefore before then plain
    else ⟨.string, 0, state.enter (.quoted b none 0)⟩
  else if b == '?'.toUInt8 then
    match Literal.character before after with
    | none => plain
    | some extra => ⟨.string, extra, state⟩
  else if b == '<'.toUInt8 && after.head? == some '<'.toUInt8 then
    match Literal.hereDocument after.tail with
    | none => ⟨.normal, 1, state⟩
    | some (document, extra) =>
      ⟨.normal, extra + 1, { state with pending := state.pending ++ [document] }⟩
  else plain

/-- The lexeme at the byte `b` of a quoted literal. A backslash takes the byte
after it along, if the line has one. -/
def quotedLexeme (state : LexState) (close : UInt8) (opening : Option UInt8) (depth : Nat)
    (b : UInt8) : Lexeme :=
  if b == '\\'.toUInt8 then ⟨.string, 1, state⟩
  else if opening == some b then ⟨.string, 0, state.enter (.quoted close opening (depth + 1))⟩
  else if b == close then
    match depth with
    | 0 => ⟨.string, 0, state.enter .code⟩
    | depth + 1 => ⟨.string, 0, state.enter (.quoted close opening depth)⟩
  else ⟨.string, 0, state⟩

def lexeme (state : LexState) (before : List UInt8) (b : UInt8) (after : List UInt8) : Lexeme :=
  match state.context with
  | .code => state.codeLexeme before b after
  | .quoted close opening depth => state.quotedLexeme close opening depth b
  | .blockComment => ⟨.blockComment, 0, state⟩

/-- Attributes of the bytes `after`, and the state behind them. The first
`covered` of them still belong to a lexeme with the attribute `current`;
`before` holds the bytes already passed, nearest first. -/
def scan (state : LexState) (covered : Nat) (current : Attribute) (before : List UInt8) :
    List UInt8 → Row × LexState
  | [] => ([], state)
  | b :: after =>
    match covered with
    | n + 1 =>
      let rest := scan state n current (b :: before) after
      (current :: rest.1, rest.2)
    | 0 =>
      let next := state.lexeme before b after
      let rest := scan next.state next.extra next.kind (b :: before) after
      (next.kind :: rest.1, rest.2)

@[simp] theorem length_scan (state : LexState) (covered : Nat) (current : Attribute)
    (before bytes : List UInt8) :
    (state.scan covered current before bytes).1.length = bytes.length := by
  induction bytes generalizing state covered current before with
  | nil => rfl
  | cons b after ih =>
    cases covered <;> simp [scan, ih]

/-- Lexes one line: its row and the state at the start of the next line. -/
def lexLine (state : LexState) (line : Text) : Row × LexState :=
  let filled (kind : Attribute) : Row := List.replicate (Text.byteLength line) kind
  match state.pending with
  | document :: later =>
    (filled .hereDocument,
      if document.closedBy line then { state with pending := later } else state)
  | [] =>
    match state.context with
    | .blockComment =>
      (filled .blockComment,
        if "=end".toList.isPrefixOf line then state.enter .code else state)
    | .code =>
      if "=begin".toList.isPrefixOf line then (filled .blockComment, state.enter .blockComment)
      else state.scan 0 .normal [] (Text.bytes line)
    | .quoted .. => state.scan 0 .normal [] (Text.bytes line)

@[simp] theorem length_lexLine (state : LexState) (line : Text) :
    (state.lexLine line).1.length = Text.byteLength line := by
  unfold lexLine
  split
  · simp
  · split
    · simp
    · split <;> simp [Text.length_bytes]
    · simp [Text.length_bytes]

def lexLines (state : LexState) : List Text → List Row
  | [] => []
  | line :: rest => (state.lexLine line).1 :: (state.lexLine line).2.lexLines rest

end LexState

def highlight (lines : List Text) : List Row := LexState.start.lexLines lines

end Reindent
