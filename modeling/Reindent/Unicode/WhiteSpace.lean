import Reindent.Unicode.Range

/-!
# White space

The `White_Space` property, and trimming by it. This is wider than the
spaces and tabs that count as indentation: it has the no-break space, the
line separators and the ideographic space, but no zero-width character.
-/

namespace Reindent.Unicode

def whiteSpace : Ranges :=
  [(0x9, 0xD), (0x20, 0x20), (0x85, 0x85), (0xA0, 0xA0), (0x1680, 0x1680), (0x2000, 0x200A),
   (0x2028, 0x2029), (0x202F, 0x202F), (0x205F, 0x205F), (0x3000, 0x3000)]

def isWhiteSpace (c : Char) : Bool :=
  whiteSpace.containsChar c

def trimStart (text : List Char) : List Char :=
  text.dropWhile isWhiteSpace

def trimEnd (text : List Char) : List Char :=
  (text.reverse.dropWhile isWhiteSpace).reverse

end Reindent.Unicode
