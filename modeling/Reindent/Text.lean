import Reindent.Unicode.WhiteSpace
import Reindent.Unicode.Width

/-!
# Line text and its columns

A line is the list of its characters without a terminator. A column is an
offset into the UTF-8 bytes of the line, so a column may fall inside a
character. A virtual column counts screen positions with tabs expanded, and is
a number of any size. Only space and tab are blanks here; the wider white
space of Unicode matters for trimming alone.
-/

namespace Reindent

abbrev Text := List Char

/-- Columns and widths are 64-bit words. -/
def wordSize : Nat := 0x1_0000_0000_0000_0000

namespace Text

def bytes (text : Text) : List UInt8 :=
  text.flatMap String.utf8EncodeChar

def byteLength : Text → Nat
  | [] => 0
  | c :: rest => c.utf8Size + byteLength rest

theorem length_bytes (text : Text) : (bytes text).length = byteLength text := by
  induction text with
  | nil => rfl
  | cons c rest ih =>
    simp only [bytes, byteLength, List.flatMap_cons, List.length_append,
      String.length_utf8EncodeChar] at *
    omega

def isBlank (c : Char) : Bool := c == ' ' || c == '\t'

def isBlankByte (b : UInt8) : Bool := b == ' '.toUInt8 || b == '\t'.toUInt8

def leadingBlanks (text : Text) : Text := text.takeWhile isBlank

/-- What is left of a line without its leading blanks. -/
def body (text : Text) : Text := text.dropWhile isBlank

theorem leadingBlanks_append_body (text : Text) : leadingBlanks text ++ body text = text :=
  List.takeWhile_append_dropWhile

def isAllWhiteSpace (text : Text) : Bool := text.all Unicode.isWhiteSpace

def endsInBackslash (text : Text) : Bool := text.getLast? == some '\\'

def firstColumn (text : Text) : Option Nat :=
  if (body text).isEmpty then none else some (leadingBlanks text).length

def lastColumn (text : Text) : Option Nat :=
  match text.reverse.dropWhile isBlank with
  | [] => none
  | kept => some (byteLength kept - 1)

def nextNonBlankColumn (text : Text) (column : Nat) : Option Nat :=
  (((bytes text).drop column).findIdx? fun b => !isBlankByte b).map (column + ·)

def advance (tabWidth position : Nat) (c : Char) : Nat :=
  if c == '\t' then position + (tabWidth - position % tabWidth)
  else position + Unicode.displayWidth c

def virtualColumnFrom (tabWidth column : Nat) : Nat → Nat → Text → Nat
  | offset, position, [] => position + (column - offset)
  | offset, position, c :: rest =>
    if offset < column then
      virtualColumnFrom tabWidth column (offset + c.utf8Size) (advance tabWidth position c) rest
    else position

/-- Screen position of `column`. Characters that begin before it count in
full, and columns past the end of the line count as spaces. -/
def virtualColumn (tabWidth : Nat) (text : Text) (column : Nat) : Nat :=
  virtualColumnFrom tabWidth column 0 0 text

/-- The lines of a text; a final line feed begins a last empty line. -/
def splitLines (text : Text) : List Text :=
  text.foldr (fun c lines =>
    if c == '\n' then [] :: lines
    else match lines with
      | [] => [[c]]
      | line :: rest => (c :: line) :: rest) [[]]

def dropCarriageReturn (line : Text) : Text :=
  if line.getLast? == some '\r' then line.dropLast else line

def joinLines (lines : List Text) : Text :=
  List.intercalate ['\n'] lines

end Text

end Reindent
