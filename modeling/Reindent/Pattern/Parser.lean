import Reindent.Pattern.Property
import Reindent.Pattern.Search

/-!
# Reading patterns

The notation is the usual one for regular expressions, without look-around
and back-references. What has no meaning is refused: an unknown escape, a
repetition of nothing, an unclosed group or class, a group name given twice.
Nesting is limited, and so is the size of a pattern with its repetitions
written out; the size is an estimate. A property escape is refused if
`Property` does not have the property, also where Unicode does.
-/

namespace Reindent.Pattern

inductive Error where
  | malformed
  | tooLarge
  deriving Repr, DecidableEq

structure Flags where
  ignoreCase : Bool
  multiLine : Bool
  dotAll : Bool
  swapGreed : Bool
  crlf : Bool
  verbose : Bool
  unicode : Bool
  deriving Repr, DecidableEq

namespace Flags

def initial : Flags := ⟨false, false, false, false, false, false, true⟩

def set? (flags : Flags) (value : Bool) : Char → Option Flags
  | 'i' => some { flags with ignoreCase := value }
  | 'm' => some { flags with multiLine := value }
  | 's' => some { flags with dotAll := value }
  | 'U' => some { flags with swapGreed := value }
  | 'R' => some { flags with crlf := value }
  | 'x' => some { flags with verbose := value }
  | 'u' => some { flags with unicode := value }
  | _ => none

def cased (flags : Flags) (set : CharSet) : CharSet :=
  if !flags.ignoreCase then set
  else if flags.unicode then .anyCase set
  else .union set (.inter (.anyCase set) .ascii)

def dot? (flags : Flags) : Option CharSet :=
  if !flags.unicode then none
  else if flags.dotAll then some .all
  else if flags.crlf then some (.complement (.union (.single '\r') (.single '\n')))
  else some (.complement (.single '\n'))

def lineStart (flags : Flags) : Look :=
  if flags.multiLine then .lineStart flags.crlf else .textStart

def lineEnd (flags : Flags) : Look :=
  if flags.multiLine then .lineEnd flags.crlf else .textEnd

end Flags

/-! ## Blanks and numbers -/

def dropIgnored (inComment : Bool) : Text → Text
  | [] => []
  | c :: rest =>
    if inComment then dropIgnored (c != '\n') rest
    else if Unicode.isWhiteSpace c then dropIgnored false rest
    else if c == '#' then dropIgnored true rest
    else c :: rest

/-- In verbose notation, white space and comments mean nothing. -/
def Flags.skip (flags : Flags) (text : Text) : Text :=
  if flags.verbose then dropIgnored false text else text

def hexValue? (c : Char) : Option Nat :=
  if '0' ≤ c && c ≤ '9' then some (c.toNat - '0'.toNat)
  else if 'a' ≤ c && c ≤ 'f' then some (c.toNat - 'a'.toNat + 10)
  else if 'A' ≤ c && c ≤ 'F' then some (c.toNat - 'A'.toNat + 10)
  else none

def charOfNat? (n : Nat) : Option Char :=
  if n.isValidChar then some (Char.ofNat n) else none

/-- The digits at the start of a text, and what follows on them. In verbose
notation white space and comments may part them. -/
def digitRun (flags : Flags) (inComment : Bool) : Text → Text × Text
  | [] => ([], [])
  | c :: rest =>
    if inComment then digitRun flags (c != '\n') rest
    else if c.isDigit then
      let (digits, rest) := digitRun flags false rest
      (c :: digits, rest)
    else if flags.verbose && Unicode.isWhiteSpace c then digitRun flags false rest
    else if flags.verbose && c == '#' then digitRun flags true rest
    else ([], c :: rest)

def decimal? (flags : Flags) (text : Text) : Option (Option Nat × Text) :=
  let (digits, rest) := digitRun flags false (Unicode.trimStart text)
  let rest := flags.skip (Unicode.trimStart rest)
  if digits.isEmpty then some (none, rest)
  else
    let value := digits.foldl (fun n c => 10 * n + (c.toNat - '0'.toNat)) 0
    if value < 0x1_0000_0000 then some (some value, rest) else none

def bounds? (flags : Flags) (text : Text) : Option ((Nat × Option Nat) × Text) := do
  let (low, rest) ← decimal? flags (flags.skip text)
  match rest with
  | ',' :: rest =>
    match flags.skip rest with
    | '}' :: rest => return ((← low, none), rest)
    | rest =>
      let low ← low
      let (high, rest) ← decimal? flags rest
      let high ← high
      match rest with
      | '}' :: rest => if low ≤ high then some ((low, some high), rest) else none
      | _ => none
  | '}' :: rest =>
    let low ← low
    return ((low, some low), rest)
  | _ => none

/-! ## Escapes -/

inductive Escape where
  | char (c : Char)
  | set (set : CharSet)
  | look (condition : Look)

def hexDigits? (flags : Flags) : Nat → Nat → Text → Option (Nat × Text)
  | 0, value, text => some (value, text)
  | n + 1, value, text =>
    match flags.skip text with
    | [] => none
    | c :: rest => do hexDigits? flags n (16 * value + (← hexValue? c)) rest

def hexBraces? (flags : Flags) (value : Option Nat) : Text → Option (Nat × Text)
  | [] => none
  | c :: rest =>
    if c == '}' then value.map (·, rest)
    else if flags.verbose && Unicode.isWhiteSpace c then hexBraces? flags value rest
    else do
      let next := 16 * value.getD 0 + (← hexValue? c)
      if next < 0x1_0000_0000 then hexBraces? flags (some next) rest else none

/-- A code point in hexadecimal: two, four or eight digits by the letter of the
escape, or any number of them in braces. Two digits name a byte when the
pattern is not read as Unicode. -/
def hexEscape? (flags : Flags) (digits : Nat) (text : Text) : Option (Escape × Text) :=
  match flags.skip text with
  | '{' :: rest => do
    let (value, rest) ← hexBraces? flags none rest
    return (.char (← charOfNat? value), rest)
  | text => do
    let (value, rest) ← hexDigits? flags digits 0 text
    if digits == 2 && !flags.unicode && 0x80 ≤ value then none
    else return (.char (← charOfNat? value), rest)

def splitAt? (separator : Text) : Text → Option (Text × Text)
  | [] => none
  | c :: rest =>
    if separator.isPrefixOf (c :: rest) then some ([], (c :: rest).drop separator.length)
    else (splitAt? separator rest).map fun (before, after) => (c :: before, after)

def namedSet? (name : Text) : Option CharSet :=
  let pair (parts : Text × Text) :=
    Property.lookup? (some (String.ofList parts.1)) (String.ofList parts.2)
  match splitAt? ['!', '='] name, splitAt? [':'] name, splitAt? ['='] name with
  | some parts, _, _ => (pair parts).map .complement
  | none, some parts, _ => pair parts
  | none, none, some parts => pair parts
  | none, none, none => Property.lookup? none (String.ofList name)

def propertyEscape? (flags : Flags) (negated : Bool) (text : Text) : Option (Escape × Text) := do
  let (name, rest) ← match flags.skip text with
    | [] | '\\' :: _ => none
    | '{' :: rest => do
      let (name, rest) ← splitAt? ['}'] rest
      pure (if flags.verbose then name.filter (!Unicode.isWhiteSpace ·) else name, rest)
    | c :: rest => some ([c], rest)
  let set ← if flags.unicode then namedSet? name else none
  let set := flags.cased set
  return (.set (if negated then .complement set else set), rest)

def classEscape? (flags : Flags) (negated : Bool) (unicode ascii : CharSet) (rest : Text) :
    Option (Escape × Text) :=
  if flags.unicode then some (.set (if negated then .complement unicode else unicode), rest)
  else if negated then none
  else some (.set ascii, rest)

/-- A word boundary, or one of its halves when a name in braces follows. Braces
that hold no name begin a counted repetition. -/
def boundaryEscape? (flags : Flags) (text : Text) : Option (Escape × Text) :=
  let isName (c : Char) := c.isAlpha || c == '-'
  let plain := some (Escape.look (.wordBoundary !flags.unicode), text)
  match text with
  | '{' :: inner =>
    match flags.skip inner with
    | [] => none
    | first :: inner =>
      if !isName first then plain
      else do
        let (name, rest) ← splitAt? ['}'] (first :: inner)
        let name := if flags.verbose then name.filter (!Unicode.isWhiteSpace ·) else name
        let look ← match String.ofList name with
          | "start" => some (Look.wordStart !flags.unicode)
          | "end" => some (Look.wordEnd !flags.unicode)
          | "start-half" => some (Look.noWordBefore !flags.unicode)
          | "end-half" => some (Look.noWordAfter !flags.unicode)
          | _ => none
        return (.look look, rest)
  | _ => plain

/-- ASCII characters other than letters, digits and angle brackets may be
escaped to stand for themselves. -/
def isEscapable (c : Char) : Bool :=
  c.toNat < 0x80 && !(c.isAlphanum || c == '<' || c == '>')

def escape? (flags : Flags) : Text → Option (Escape × Text)
  | [] => none
  | c :: rest =>
    match c with
    | 'x' => hexEscape? flags 2 rest
    | 'u' => hexEscape? flags 4 rest
    | 'U' => hexEscape? flags 8 rest
    | 'p' => propertyEscape? flags false rest
    | 'P' => propertyEscape? flags true rest
    | 'd' => classEscape? flags false .digit .asciiDigit rest
    | 'D' => classEscape? flags true .digit .asciiDigit rest
    | 's' => classEscape? flags false .whiteSpace .asciiWhiteSpace rest
    | 'S' => classEscape? flags true .whiteSpace .asciiWhiteSpace rest
    | 'w' => classEscape? flags false .word .asciiWord rest
    | 'W' => classEscape? flags true .word .asciiWord rest
    | 'a' => some (.char '\x07', rest)
    | 'f' => some (.char '\x0c', rest)
    | 't' => some (.char '\t', rest)
    | 'n' => some (.char '\n', rest)
    | 'r' => some (.char '\r', rest)
    | 'v' => some (.char '\x0b', rest)
    | 'A' => some (.look .textStart, rest)
    | 'z' => some (.look .textEnd, rest)
    | 'b' => boundaryEscape? flags rest
    | 'B' => some (.look (.noWordBoundary !flags.unicode), rest)
    | '<' => some (.look (.wordStart !flags.unicode), rest)
    | '>' => some (.look (.wordEnd !flags.unicode), rest)
    | c => if isEscapable c then some (.char c, rest) else none

/-! ## Bracketed classes -/

inductive SetOperator where
  | intersection
  | difference
  | symmetricDifference

def SetOperator.apply : SetOperator → CharSet → CharSet → CharSet
  | .intersection, a, b => .inter a b
  | .difference, a, b => .difference a b
  | .symmetricDifference, a, b => .symmetricDifference a b

/-- A class being read: what stands before the last set operator, the union
of the items after it, how many they are and how deep they nest. -/
structure ClassDraft where
  negated : Bool
  operand : Option (CharSet × SetOperator)
  items : CharSet
  count : Nat
  depth : Nat

namespace ClassDraft

def add (draft : ClassDraft) (set : CharSet) (depth : Nat) : ClassDraft :=
  { draft with
    items := .union draft.items set
    count := draft.count + 1
    depth := max draft.depth depth }

def combined (draft : ClassDraft) (flags : Flags) : CharSet :=
  match draft.operand with
  | none => flags.cased draft.items
  | some (left, operator) => operator.apply left (flags.cased draft.items)

def operate (draft : ClassDraft) (flags : Flags) (operator : SetOperator) : ClassDraft :=
  { draft with
    operand := some (draft.combined flags, operator)
    items := .empty
    count := 0
    depth := draft.depth + 1 }

/-- The finished set. A class of bytes must keep to ASCII. -/
def close? (draft : ClassDraft) (flags : Flags) : Option (CharSet × Nat) :=
  let set := draft.combined flags
  let set := if draft.negated then .complement set else set
  if !flags.unicode && !set.isAscii then none
  else some (set, draft.depth + if draft.count ≤ 1 then 1 else 2)

end ClassDraft

def leadingHyphens (flags : Flags) (draft : ClassDraft) : Text → ClassDraft × Text
  | [] => (draft, [])
  | c :: rest =>
    if flags.verbose && Unicode.isWhiteSpace c then leadingHyphens flags draft rest
    else if c == '-' then leadingHyphens flags (draft.add (.single '-') 0) rest
    else (draft, c :: rest)

/-- Reads what may only stand at the start of a class: a caret, hyphens that
stand for themselves, and a closing bracket that does. -/
def classStart (flags : Flags) (text : Text) : ClassDraft × Text :=
  let (negated, text) := match flags.skip text with
    | '^' :: rest => (true, flags.skip rest)
    | text => (false, text)
  match leadingHyphens flags ⟨negated, none, .empty, 0, 0⟩ text with
  | (draft, ']' :: rest) =>
    if draft.count == 0 then (draft.add (.single ']') 0, rest) else (draft, ']' :: rest)
  | result => result

def posixClass? : Text → Option (CharSet × Text)
  | ':' :: text => do
    let (negated, text) := match text with
      | '^' :: rest => (true, rest)
      | text => (false, text)
    let (name, rest) ← splitAt? [':'] text
    let set ← CharSet.posix? (String.ofList name)
    match rest with
    | ']' :: rest => some (if negated then .complement set else set, rest)
    | _ => none
  | _ => none

def classItem? (flags : Flags) : Text → Option (Escape × Text)
  | [] => none
  | '\\' :: rest =>
    match escape? flags rest with
    | some (.look _, _) => none
    | result => result
  | c :: rest => some (.char c, rest)

def classChar? (flags : Flags) : Escape → Option Char
  | .char c => if flags.unicode || c.toNat < 0x80 then some c else none
  | _ => none

/-- One item or a range of characters. A hyphen before the closing bracket or
before another hyphen makes no range. -/
def classRange? (flags : Flags) (text : Text) : Option (CharSet × Text) := do
  let (first, rest) ← classItem? flags text
  let rest := flags.skip rest
  let isRange := match rest with
    | '-' :: after => !(match flags.skip after with
      | ']' :: _ | '-' :: _ => true
      | _ => false)
    | _ => false
  if isRange then
    let (last, rest) ← classItem? flags (flags.skip (rest.drop 1))
    let low ← classChar? flags first
    let high ← classChar? flags last
    if low ≤ high then some (.interval low high, rest) else none
  else
    match first with
    | .set set => some (set, rest)
    | first => return (.single (← classChar? flags first), rest)

def class? (flags : Flags) : Nat → ClassDraft → Text → Option ((CharSet × Nat) × Text)
  | 0, _, _ => none
  | fuel + 1, draft, text =>
    match flags.skip text with
    | [] => none
    | ']' :: rest => (draft.close? flags).map (·, rest)
    | '&' :: '&' :: rest => class? flags fuel (draft.operate flags .intersection) rest
    | '-' :: '-' :: rest => class? flags fuel (draft.operate flags .difference) rest
    | '~' :: '~' :: rest => class? flags fuel (draft.operate flags .symmetricDifference) rest
    | '[' :: rest =>
      match posixClass? rest with
      | some (set, rest) => class? flags fuel (draft.add set 0) rest
      | none => do
        let (inner, rest) := classStart flags rest
        let ((set, depth), rest) ← class? flags fuel inner rest
        class? flags fuel (draft.add set depth) rest
    | text => do
      let (set, rest) ← classRange? flags text
      class? flags fuel (draft.add set 0) rest

/-! ## Groups -/

def isNameChar (first : Bool) (c : Char) : Bool :=
  c == '_' || Unicode.isAlphabetic c ||
    (!first && (c == '.' || c == '[' || c == ']' || Unicode.isNumeric c))

def groupName? (text : Text) : Option (String × Text) := do
  let (name, rest) ← splitAt? ['>'] text
  match name with
  | [] => none
  | first :: more =>
    if isNameChar true first && more.all (isNameChar false) then
      some (String.ofList name, rest)
    else none

/-- Flags up to the colon or the parenthesis that ends them. No flag is named
twice, and a minus sign is followed by one. -/
def flagList? (flags : Flags) (seen : List Char) : Text → Option (Flags × List Char × Text)
  | [] => none
  | c :: rest =>
    if c == ':' || c == ')' then
      if seen.head? == some '-' then none else some (flags, seen, c :: rest)
    else if seen.contains c then none
    else if c == '-' then flagList? flags (c :: seen) rest
    else do flagList? (← flags.set? (!seen.contains '-') c) (c :: seen) rest

inductive GroupStart where
  | flags (flags : Flags)
  | group (name : Option String) (flags : Flags)

def flagGroup? (flags : Flags) (text : Text) : Option (GroupStart × Text) := do
  let (inner, seen, rest) ← flagList? flags [] text
  match rest with
  | ')' :: rest => if seen.isEmpty then none else some (.flags inner, rest)
  | _ :: rest => some (.group none inner, rest)
  | [] => none

def groupStart? (flags : Flags) (text : Text) : Option (GroupStart × Text) :=
  match flags.skip text with
  | '?' :: '=' :: _ | '?' :: '!' :: _ | '?' :: '<' :: '=' :: _ | '?' :: '<' :: '!' :: _ => none
  | '?' :: 'P' :: '<' :: rest | '?' :: '<' :: rest => do
    let (name, rest) ← groupName? rest
    return (.group (some name) flags, rest)
  | '?' :: rest => flagGroup? flags rest
  | rest => some (.group none flags, rest)

/-! ## Whole patterns -/

/-- A piece of a concatenation. A change of flags is a piece that cannot be
repeated. -/
structure Piece where
  pattern : Pattern
  depth : Nat
  repeatable : Bool

def concat (pieces : List Piece) : Pattern × Nat :=
  match pieces with
  | [] => (.empty, 0)
  | [piece] => (piece.pattern, piece.depth)
  | last :: before =>
    (before.foldl (fun rest piece => .seq piece.pattern rest) last.pattern,
      pieces.foldl (fun depth piece => max depth piece.depth) 0 + 1)

def alternatives (branches : List (Pattern × Nat)) : Pattern × Nat :=
  match branches with
  | [] => (.empty, 0)
  | [branch] => branch
  | last :: before =>
    (before.foldl (fun rest branch => .alt branch.1 rest) last.1,
      branches.foldl (fun depth branch => max depth branch.2) 0 + 1)

structure ParseState where
  text : Text
  flags : Flags
  names : List String

def repeated? (pieces : List Piece) (low : Nat) (high : Option Nat) (greedy : Bool) :
    Option (List Piece) :=
  match pieces with
  | piece :: before =>
    if piece.repeatable then
      some (⟨.rounds piece.pattern low high greedy, piece.depth + 1, true⟩ :: before)
    else none
  | [] => none

def greed (flags : Flags) : Text → Bool × Text
  | '?' :: rest => (flags.swapGreed, rest)
  | rest => (!flags.swapGreed, rest)

def charPattern (flags : Flags) (c : Char) : Pattern := .char (flags.cased (.single c))

def atom? (flags : Flags) : Text → Option (Pattern × Nat × Text)
  | [] => none
  | '\\' :: rest => do
    let (escape, rest) ← escape? flags rest
    match escape with
    | .char c => some (charPattern flags c, 0, rest)
    | .set set => some (.char set, 0, rest)
    | .look condition => some (.look condition, 0, rest)
  | '[' :: rest => do
    let (draft, inner) := classStart flags rest
    let ((set, depth), rest) ← class? flags (inner.length + 1) draft inner
    return (.char set, depth, rest)
  | '.' :: rest => do return (.char (← flags.dot?), 0, rest)
  | '^' :: rest => some (.look flags.lineStart, 0, rest)
  | '$' :: rest => some (.look flags.lineEnd, 0, rest)
  | c :: rest => some (charPattern flags c, 0, rest)

/-- Reads up to the end of the enclosing group. `branches` holds the finished
alternatives and `pieces` the current one, both with the last one first. -/
def body? : Nat → List (Pattern × Nat) → List Piece → ParseState →
    Option ((Pattern × Nat) × ParseState)
  | 0, _, _, _ => none
  | fuel + 1, branches, pieces, state =>
    let flags := state.flags
    let repeatedBy (low : Nat) (high : Option Nat) (rest : Text) := do
      let (greedy, rest) := greed flags rest
      body? fuel branches (← repeated? pieces low high greedy) { state with text := rest }
    match flags.skip state.text with
    | [] => some (alternatives (concat pieces :: branches), { state with text := [] })
    | ')' :: rest =>
      some (alternatives (concat pieces :: branches), { state with text := ')' :: rest })
    | '|' :: rest => body? fuel (concat pieces :: branches) [] { state with text := rest }
    | '?' :: rest => repeatedBy 0 (some 1) rest
    | '*' :: rest => repeatedBy 0 none rest
    | '+' :: rest => repeatedBy 1 none rest
    | '{' :: rest => do
      let ((low, high), rest) ← bounds? flags rest
      repeatedBy low high (flags.skip rest)
    | '(' :: rest => do
      let (start, rest) ← groupStart? flags rest
      match start with
      | .flags inner =>
        body? fuel branches (⟨.empty, 0, false⟩ :: pieces)
          { state with text := rest, flags := inner }
      | .group name inner =>
        if name.any state.names.contains then none
        else do
          let ((pattern, depth), last) ←
            body? fuel [] [] ⟨rest, inner, name.toList ++ state.names⟩
          match last.text with
          | ')' :: rest =>
            let pattern := match name with
              | some name => .group name pattern
              | none => pattern
            body? fuel branches (⟨pattern, depth + 1, true⟩ :: pieces)
              ⟨rest, flags, last.names⟩
          | _ => none
    | text => do
      let (pattern, depth, rest) ← atom? flags text
      body? fuel branches (⟨pattern, depth, true⟩ :: pieces) { state with text := rest }

def nestLimit : Nat := 250

def sizeLimit : Nat := 10485760

def parse (text : Text) : Except Error Pattern :=
  match body? (text.length + 1) [] [] ⟨text, .initial, []⟩ with
  | some ((pattern, depth), ⟨[], _, _⟩) =>
    if nestLimit < depth then .error .malformed
    else if sizeLimit < pattern.weight then .error .tooLarge
    else .ok pattern
  | _ => .error .malformed

end Reindent.Pattern
