import Reindent.Config.Rules
import Reindent.Proofs.Matching

/-!
# The default rules

The patterns that the default configuration compiles to, written with a few
combinators so that proofs can follow their parts.
-/

namespace Reindent

namespace Pattern

def literal : List Char → Pattern
  | [] => .empty
  | [c] => .char (.single c)
  | c :: rest => .seq (.char (.single c)) (literal rest)

def oneOf : List String → Pattern
  | [] => .empty
  | [word] => literal word.toList
  | word :: rest => .alt (literal word.toList) (oneOf rest)

def wordEdge : Pattern := .look (.wordBoundary false)

def wholeWord (word : String) : Pattern :=
  .seq wordEdge (word.toList.foldr (fun c rest => .seq (.char (.single c)) rest) wordEdge)

def spaces : Pattern := star .whiteSpace

def restOfLine : Pattern := star (.complement (.single '\n'))

def eitherChar (a b : Char) : Pattern := .char (.union (.union .empty (.single a)) (.single b))

def blockParameters : Pattern :=
  .seq spaces (.seq (.char (.single '|')) (.seq restOfLine (.char (.single '|'))))

def operator : Pattern :=
  .alt (.char (.single '+')) <| .alt (.char (.single '-')) <| .alt (.char (.single '*')) <|
  .alt (.char (.single '/')) <| .alt (.char (.single '=')) <| .alt (literal ['&', '&']) <|
  .alt (literal ['|', '|']) <| .alt (wholeWord "and") <| .alt (wholeWord "or") <|
  .char (.single ',')

def tailOpener : Pattern := .alt (wholeWord "do") (.char (.single '{'))

end Pattern

open Pattern

def blockOpeners : List String :=
  ["def", "if", "unless", "for", "while", "until", "class", "module", "else", "elsif", "case",
    "when", "begin", "rescue", "ensure", "catch"]

def blockClosers : List String := ["end", "when", "else", "elsif", "rescue", "ensure"]

namespace Rules

def opener : Pattern := .seq (oneOf blockOpeners) wordEdge

def closer : Pattern := .alt (.seq (oneOf blockClosers) wordEdge) (eitherChar ']' '}')

def closerTail : Pattern := .seq (.group trailingGroup restOfLine) (.look .textEnd)

def default : Rules where
  triggerCharacters := "cdefhilnrsuw\x7d]".toList
  blockStart := .seq (.look .textStart) (.seq spaces opener)
  blockEnd := .seq (.look .textStart) (.seq spaces (.seq closer closerTail))
  continuation := .seq operator spaces
  blockOpenerTail := .seq tailOpener (.seq (.rounds blockParameters 0 (some 1) true) spaces)
  trailingComma := .seq (.char (.single ',')) spaces
  looseOpener := .seq (eitherChar '[' '{') (.seq spaces (.look .textEnd))
  verbatimAttributes := ["Ruby:Here Document", "Ruby:Blockcomment"]
  requiredStyle := "ruby"

theorem blockStart_default :
    default.blockStart = .seq (.look .textStart) (.seq spaces opener) := rfl

theorem blockEnd_default :
    default.blockEnd = .seq (.look .textStart) (.seq spaces (.seq closer closerTail)) := rfl

end Rules

theorem Config.compile_default : Config.default.compile = .ok Rules.default := by
  have h : Config.default.compile.toOption = some Rules.default := by decide +kernel
  cases hc : Config.default.compile with
  | error e => simp [hc, Except.toOption] at h
  | ok rules => simpa [hc, Except.toOption] using h

theorem Rules.eq_default {rules : Rules} (h : Config.default.compile = .ok rules) :
    rules = .default :=
  Except.ok.inj (h.symm.trans Config.compile_default)

end Reindent
