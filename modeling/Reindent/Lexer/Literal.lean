import Reindent.Lexer.State

/-!
# Literals that begin in code

Recognisers for the literals whose first byte is also an operator. Each looks
at the bytes before that byte, nearest first, and at the bytes after it, and
answers with the number of bytes that the opener takes after it. All of them
work on bytes: whatever lies outside ASCII is neither a delimiter nor part of
an identifier.
-/

namespace Reindent.Literal

def asciiBytes (text : String) : List UInt8 := text.toList.map Char.toUInt8

def isOneOf (set : String) (b : UInt8) : Bool := (asciiBytes set).contains b

def isUpper (b : UInt8) : Bool := 'A'.toUInt8 ≤ b && b ≤ 'Z'.toUInt8

def isLetter (b : UInt8) : Bool := isUpper b || ('a'.toUInt8 ≤ b && b ≤ 'z'.toUInt8)

def isDigit (b : UInt8) : Bool := '0'.toUInt8 ≤ b && b ≤ '9'.toUInt8

def isIdentifier (b : UInt8) : Bool := isLetter b || isDigit b || b == '_'.toUInt8

def valueKeywords : List (List UInt8) :=
  ["if", "elsif", "unless", "while", "until", "when", "and", "or", "not", "return", "then",
    "in"].map asciiBytes

/-- Whether the code before ends in a value, so that the byte that follows is
an operator. A closing bracket ends a value, and so does every word but the
keywords that call for one. -/
def operandBefore (before : List UInt8) : Bool :=
  match before.dropWhile Text.isBlankByte with
  | [] => false
  | last :: rest =>
    isOneOf ")]\x7d" last ||
      (isIdentifier last &&
        !valueKeywords.contains ((last :: rest).takeWhile isIdentifier).reverse)

def closingDelimiter (opening : UInt8) : UInt8 :=
  if opening == '('.toUInt8 then ')'.toUInt8
  else if opening == '['.toUInt8 then ']'.toUInt8
  else if opening == '{'.toUInt8 then '}'.toUInt8
  else if opening == '<'.toUInt8 then '>'.toUInt8
  else opening

/-- A percent literal at a `%`: its delimiter and how many bytes the opener takes
up to the delimiter. A typed literal such as `%w(` is refused only when it
touches the operand before it, a bare one after any operand. -/
def percent (before after : List UInt8) : Option (UInt8 × Nat) :=
  let typed := after.head?.any (isOneOf "qQwWiIrsx")
  match if typed then after.tail else after with
  | [] => none
  | delimiter :: _ =>
    let touching := before.head?.any fun b => !Text.isBlankByte b
    if isOneOf "([\x7b<|!/^" delimiter && !(operandBefore before && (touching || !typed)) then
      some (delimiter, if typed then 2 else 1)
    else none

/-- How many bytes a character literal such as `?a` or `?\n` takes after its
`?`. The byte behind it must not go on with an identifier. -/
def character (before after : List UInt8) : Option Nat :=
  if operandBefore before then none
  else match after with
    | [] => none
    | first :: _ =>
      if Text.isBlankByte first then none
      else
        let taken := if first == '\\'.toUInt8 then min 2 after.length else 1
        if after[taken]?.any isIdentifier then none else some taken

/-- The here document opened by what follows `<<`, and the bytes its opener
takes. Without quotes the terminator is an identifier, which must look like
a constant unless `-` or `~` makes the intent clear. -/
def hereDocument (after : List UInt8) : Option (HereDocument × Nat) :=
  let indented := after.head?.any (isOneOf "-~")
  let marks := if indented then 1 else 0
  match after.drop marks with
  | [] => none
  | first :: rest =>
    if isOneOf "\"'`" first then
      let terminator := rest.takeWhile (· != first)
      if terminator.isEmpty || terminator.length == rest.length then none
      else some (⟨terminator, indented⟩, marks + terminator.length + 2)
    else if isUpper first || (indented && (isLetter first || first == '_'.toUInt8)) then
      let terminator := (first :: rest).takeWhile isIdentifier
      some (⟨terminator, indented⟩, marks + terminator.length)
    else none

end Reindent.Literal
