import Reindent.Text

/-!
# Strict JSON

A reader for JSON texts as configurations use them. It keeps of a value what
a configuration can ask for: a number is known only when it is written as a
plain non-negative integer, a string only when its escapes spell Unicode text.
Anything else that the grammar admits is read and remains opaque, so a field
that nobody asks for may hold any value. Nesting costs no stack: the open
arrays and objects are kept in a list.
-/

namespace Reindent

inductive JsonValue where
  | null
  | bool (value : Bool)
  | number (value : Option Nat)
  | string (value : Option String)
  | array (items : List JsonValue)
  | object (fields : List (Option String × JsonValue))

namespace Json

inductive Token where
  | mark (c : Char)
  | value (value : JsonValue)

def hexDigit? (c : Char) : Option Nat :=
  if '0' ≤ c && c ≤ '9' then some (c.toNat - '0'.toNat)
  else if 'a' ≤ c && c ≤ 'f' then some (c.toNat - 'a'.toNat + 10)
  else if 'A' ≤ c && c ≤ 'F' then some (c.toNat - 'A'.toNat + 10)
  else none

def escapeUnit? : Char → Option Nat
  | '"' => some 0x22
  | '\\' => some 0x5C
  | '/' => some 0x2F
  | 'b' => some 0x08
  | 'f' => some 0x0C
  | 'n' => some 0x0A
  | 'r' => some 0x0D
  | 't' => some 0x09
  | _ => none

/-- The units of a string up to its closing quote, last one first. An escape
may give half of a surrogate pair. -/
def stringUnits? (units : List Nat) : Text → Option (List Nat × Text)
  | [] => none
  | '"' :: rest => some (units, rest)
  | '\\' :: 'u' :: a :: b :: c :: d :: rest =>
    match hexDigit? a, hexDigit? b, hexDigit? c, hexDigit? d with
    | some a, some b, some c, some d =>
      stringUnits? ((((a * 16 + b) * 16 + c) * 16 + d) :: units) rest
    | _, _, _, _ => none
  | '\\' :: c :: rest =>
    match escapeUnit? c with
    | some unit => stringUnits? (unit :: units) rest
    | none => none
  | c :: rest => if c.toNat < 0x20 then none else stringUnits? (c.toNat :: units) rest

def isHighSurrogate (unit : Nat) : Bool := 0xD800 ≤ unit && unit ≤ 0xDBFF

def isLowSurrogate (unit : Nat) : Bool := 0xDC00 ≤ unit && unit ≤ 0xDFFF

/-- Joins surrogate pairs, reading the units from the last to the first; a half
that stands alone spells no text. -/
def joinUnits? (text : Text) : List Nat → Option Text
  | [] => some text
  | [unit] =>
    if isHighSurrogate unit || isLowSurrogate unit then none
    else some (Char.ofNat unit :: text)
  | low :: high :: rest =>
    if isLowSurrogate low then
      if isHighSurrogate high then
        joinUnits? (Char.ofNat (0x10000 + (high - 0xD800) * 0x400 + (low - 0xDC00)) :: text) rest
      else none
    else if isHighSurrogate low then none
    else joinUnits? (Char.ofNat low :: text) (high :: rest)

def digits (text : Text) : Text × Text :=
  (text.takeWhile Char.isDigit, text.dropWhile Char.isDigit)

def fraction? : Text → Option (Bool × Text)
  | '.' :: rest =>
    let (places, rest) := digits rest
    if places.isEmpty then none else some (true, rest)
  | rest => some (false, rest)

def exponent? : Text → Option (Bool × Text)
  | 'e' :: rest | 'E' :: rest =>
    let rest := match rest with
      | '+' :: rest | '-' :: rest => rest
      | rest => rest
    let (places, rest) := digits rest
    if places.isEmpty then none else some (true, rest)
  | rest => some (false, rest)

/-- Reads a number. No digit follows a leading zero. -/
def number? (text : Text) : Option (JsonValue × Text) := do
  let (negative, text) := match text with
    | '-' :: rest => (true, rest)
    | text => (false, text)
  let (whole, rest) := match text with
    | '0' :: rest => (['0'], rest)
    | text => digits text
  if whole.isEmpty then none
  else
    let (fractional, rest) ← fraction? rest
    let (scaled, rest) ← exponent? rest
    let value := whole.foldl (fun n c => 10 * n + (c.toNat - '0'.toNat)) 0
    return (.number (if negative || fractional || scaled then none else some value), rest)

def isSpace (c : Char) : Bool := c == ' ' || c == '\t' || c == '\n' || c == '\r'

def token? (text : Text) : Option (Token × Text) :=
  match text with
  | 'n' :: 'u' :: 'l' :: 'l' :: rest => some (.value .null, rest)
  | 't' :: 'r' :: 'u' :: 'e' :: rest => some (.value (.bool true), rest)
  | 'f' :: 'a' :: 'l' :: 's' :: 'e' :: rest => some (.value (.bool false), rest)
  | '"' :: rest => do
    let (units, rest) ← stringUnits? [] rest
    return (.value (.string ((joinUnits? [] units).map String.ofList)), rest)
  | c :: rest =>
    if ['[', ']', '{', '}', ',', ':'].contains c then some (.mark c, rest)
    else do
      let (value, rest) ← number? text
      return (.value value, rest)
  | [] => none

/-- All tokens of a text. Every token takes a character, so the length of the
text bounds their number. -/
def tokens? : Nat → List Token → Text → Option (List Token)
  | fuel, read, text =>
    match fuel, text.dropWhile isSpace with
    | _, [] => some read.reverse
    | 0, _ => none
    | fuel + 1, text =>
      match token? text with
      | some (token, rest) => tokens? fuel (token :: read) rest
      | none => none

/-- An open array or object, with its members so far, last one first. -/
inductive Frame where
  | array (items : List JsonValue)
  | object (fields : List (Option String × JsonValue)) (key : Option String)

inductive Expected where
  | item
  | itemOrEnd
  | key
  | keyOrEnd
  | colon
  | separator
  | nothing (result : JsonValue)

def finish (value : JsonValue) : List Frame → Expected × List Frame
  | [] => (.nothing value, [])
  | .array items :: outer => (.separator, .array (value :: items) :: outer)
  | .object fields key :: outer => (.separator, .object ((key, value) :: fields) key :: outer)

def close? : Char → List Frame → Option (JsonValue × List Frame)
  | ']', .array items :: outer => some (.array items.reverse, outer)
  | '}', .object fields _ :: outer => some (.object fields.reverse, outer)
  | _, _ => none

def step? (expected : Expected) (frames : List Frame) (token : Token) :
    Option (Expected × List Frame) :=
  let opening? : Char → Option (Expected × List Frame)
    | '[' => some (.itemOrEnd, .array [] :: frames)
    | '{' => some (.keyOrEnd, .object [] none :: frames)
    | _ => none
  let closing? (c : Char) := (close? c frames).map fun (value, outer) => finish value outer
  match expected, token with
  | .item, .value value | .itemOrEnd, .value value => some (finish value frames)
  | .item, .mark c => opening? c
  | .itemOrEnd, .mark c => if c == ']' then closing? c else opening? c
  | .key, .value (.string key) | .keyOrEnd, .value (.string key) =>
    match frames with
    | .object fields _ :: outer => some (.colon, .object fields key :: outer)
    | _ => none
  | .keyOrEnd, .mark '}' => closing? '}'
  | .colon, .mark ':' => some (.item, frames)
  | .separator, .mark ',' =>
    match frames with
    | .array _ :: _ => some (.item, frames)
    | .object .. :: _ => some (.key, frames)
    | [] => none
  | .separator, .mark c => closing? c
  | _, _ => none

def build? (expected : Expected) (frames : List Frame) : List Token → Option JsonValue
  | [] =>
    match expected with
    | .nothing result => some result
    | _ => none
  | token :: rest =>
    match step? expected frames token with
    | some (expected, frames) => build? expected frames rest
    | none => none

end Json

def JsonValue.parse? (text : Text) : Option JsonValue := do
  Json.build? .item [] (← Json.tokens? text.length [] text)

end Reindent
