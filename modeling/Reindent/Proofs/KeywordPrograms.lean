import Reindent.Proofs.BlockStack
import Reindent.Proofs.Structure

/-!
# Programs of nested keyword blocks

A small language of well-nested programs: plain lines, and blocks of an
opener, a body, any number of branches with bodies of their own, and an end.
Every line has some margin of blanks. The lines of a program are listed with
their depth and, for branches and ends, with the line of their opener, both
read off the syntax tree.

The openers of the blocks that are open before a line form a stack, which each
line changes as the tree tells. The rest of the module says what is seen of a
document that shows such a program, whatever the margins are: all of it is
code, no bracket is ever open, and a pattern finds in a line what it finds in
the bare phrase.
-/

namespace Reindent

namespace Program

abbrev Margin := { blanks : Text // AllBlank blanks }

inductive Opener where
  | defM
  | ifX
  | whileY
  | classC
  | unlessZ
  deriving DecidableEq, Repr

inductive Phrase where
  | plain
  | opener (first : Opener)
  | branch
  | close
  deriving DecidableEq, Repr

namespace Phrase

def text : Phrase → Text
  | .plain => "y = 2".toList
  | .opener .defM => "def m".toList
  | .opener .ifX => "if x".toList
  | .opener .whileY => "while y".toList
  | .opener .classC => "class C".toList
  | .opener .unlessZ => "unless z".toList
  | .branch => "else".toList
  | .close => "end".toList

def opens : Phrase → Bool
  | .opener _ | .branch => true
  | .plain | .close => false

def closes : Phrase → Bool
  | .branch | .close => true
  | .plain | .opener _ => false

end Phrase

mutual
/-- Plain lines and blocks, one after the other. -/
inductive Body where
  | nil
  | plain (margin : Margin) (next : Body)
  | block (margin : Margin) (first : Opener) (body : Body) (tail : Tail) (next : Body)
/-- What follows on the first body of a block: branches, and the end. -/
inductive Tail where
  | close (margin : Margin)
  | branch (margin : Margin) (body : Body) (tail : Tail)
end

structure Line where
  margin : Margin
  phrase : Phrase
  depth : Nat
  /-- The number of the line that opens the block of a branch or an end. -/
  opener? : Option Nat

def Line.text (line : Line) : Text := line.margin.1 ++ line.phrase.text

mutual
def Body.lines (depth number : Nat) : Body → List Line
  | .nil => []
  | .plain margin next => ⟨margin, .plain, depth, none⟩ :: next.lines depth (number + 1)
  | .block margin first body tail next =>
    let inner := body.lines (depth + 1) (number + 1)
    let rest := tail.lines depth number (number + 1 + inner.length)
    let block := ⟨margin, .opener first, depth, none⟩ :: (inner ++ rest)
    block ++ next.lines depth (number + block.length)
def Tail.lines (depth opener number : Nat) : Tail → List Line
  | .close margin => [⟨margin, .close, depth, some opener⟩]
  | .branch margin body tail =>
    let inner := body.lines (depth + 1) (number + 1)
    ⟨margin, .branch, depth, some opener⟩ ::
      (inner ++ tail.lines depth opener (number + 1 + inner.length))
end

-- ---------------------------------------------------------------------------
-- Open blocks along the lines
-- ---------------------------------------------------------------------------

/-- What line `number` does to the line numbers of the openers of open blocks,
the innermost first. The stack before the line gives its depth. -/
inductive Step : List Nat → Nat → Line → List Nat → Prop
  | plain {stack : List Nat} {number : Nat} (margin : Margin) :
      Step stack number ⟨margin, .plain, stack.length, none⟩ stack
  | opener {stack : List Nat} {number : Nat} (margin : Margin) (first : Opener) :
      Step stack number ⟨margin, .opener first, stack.length, none⟩ (number :: stack)
  | branch {stack : List Nat} {number opener : Nat} (margin : Margin) :
      Step (opener :: stack) number ⟨margin, .branch, stack.length, some opener⟩
        (opener :: stack)
  | close {stack : List Nat} {number opener : Nat} (margin : Margin) :
      Step (opener :: stack) number ⟨margin, .close, stack.length, some opener⟩ stack

inductive Steps : List Nat → Nat → List Line → List Nat → Prop
  | nil {stack : List Nat} {number : Nat} : Steps stack number [] stack
  | cons {stack next last : List Nat} {number : Nat} {line : Line} {lines : List Line} :
      Step stack number line next → Steps next (number + 1) lines last →
      Steps stack number (line :: lines) last

namespace Steps

variable {stack last : List Nat} {number i : Nat} {lines : List Line} {line : Line}

theorem append {middle : List Nat} {below : List Line} (h : Steps stack number lines middle)
    (h' : Steps middle (number + lines.length) below last) :
    Steps stack number (lines ++ below) last := by
  induction h with
  | nil => exact h'
  | cons step _ ih =>
    refine .cons step (ih ?_)
    rwa [List.length_cons, Nat.add_comm _ 1, ← Nat.add_assoc] at h'

theorem split {above below : List Line} (h : Steps stack number (above ++ below) last) :
    ∃ middle, Steps stack number above middle ∧
      Steps middle (number + above.length) below last := by
  induction above generalizing stack number with
  | nil => exact ⟨stack, .nil, h⟩
  | cons line above ih =>
    cases h with
    | cons step h =>
      obtain ⟨middle, habove, hbelow⟩ := ih h
      refine ⟨middle, .cons step habove, ?_⟩
      rwa [List.length_cons, Nat.add_comm _ 1, ← Nat.add_assoc]

theorem exists_step (h : Steps [] 0 lines last) (hline : lines[i]? = some line) :
    ∃ stack next, Steps [] 0 (lines.take i) stack ∧ Step stack i line next := by
  obtain ⟨hlt, hget⟩ := List.getElem?_eq_some_iff.mp hline
  rw [← List.take_append_drop i lines, List.drop_eq_getElem_cons hlt, hget] at h
  obtain ⟨stack, habove, hbelow⟩ := h.split
  rw [List.length_take, Nat.min_eq_left (Nat.le_of_lt hlt), Nat.zero_add] at hbelow
  cases hbelow with
  | cons step _ => exact ⟨stack, _, habove, step⟩

theorem exists_last_step (h : Steps [] 0 (lines.take (i + 1)) last)
    (hline : lines[i]? = some line) :
    ∃ stack, Steps [] 0 (lines.take i) stack ∧ Step stack i line last := by
  have hlt := (List.getElem?_eq_some_iff.mp hline).1
  rw [List.take_add_one, hline, Option.toList_some] at h
  obtain ⟨stack, habove, hbelow⟩ := h.split
  rw [List.length_take, Nat.min_eq_left (Nat.le_of_lt hlt), Nat.zero_add] at hbelow
  cases hbelow with
  | cons step hnil =>
    cases hnil
    exact ⟨stack, habove, step⟩

/-- Every open block was opened by a line above, whose depth is the number of
blocks around. -/
theorem opened (h : Steps [] 0 (lines.take i) stack) (hi : i ≤ lines.length) {opener : Nat}
    {outer : List Nat} (hmem : opener :: outer <:+ stack) :
    opener < i ∧ ∃ line, lines[opener]? = some line ∧ line.depth = outer.length := by
  induction i generalizing stack with
  | zero =>
    cases h
    simp at hmem
  | succ i ih =>
    have hline := List.getElem?_eq_getElem (Nat.lt_of_succ_le hi)
    obtain ⟨before, hsteps, step⟩ := h.exists_last_step hline
    -- All blocks but one opened by this very line were open before it.
    have earlier (hmem : opener :: outer <:+ before) :
        opener < i + 1 ∧ ∃ line, lines[opener]? = some line ∧ line.depth = outer.length := by
      obtain ⟨hlt, hopener⟩ := ih hsteps (Nat.le_of_succ_le hi) hmem
      exact ⟨Nat.lt_succ_of_lt hlt, hopener⟩
    generalize lines[i] = line at hline step
    cases step with
    | plain | branch => exact earlier hmem
    | close => exact earlier (hmem.trans (List.suffix_cons _ _))
    | opener =>
      rcases List.suffix_cons_iff.mp hmem with heq | hmem
      · obtain ⟨rfl, rfl⟩ := List.cons.inj heq
        exact ⟨Nat.lt_succ_self _, _, hline, rfl⟩
      · exact earlier hmem

end Steps

mutual
theorem Body.steps (stack : List Nat) (number : Nat) :
    (body : Body) → Steps stack number (body.lines stack.length number) stack
  | .nil => by
    rw [Body.lines]
    exact .nil
  | .plain margin next => by
    rw [Body.lines]
    exact .cons (.plain margin) (next.steps stack (number + 1))
  | .block margin first body tail next => by
    rw [Body.lines]
    have hbody := body.steps (number :: stack) (number + 1)
    have htail := tail.steps stack number
      (number + 1 + (body.lines (stack.length + 1) (number + 1)).length)
    exact .append (.cons (.opener margin first) (hbody.append htail)) (next.steps stack _)
theorem Tail.steps (stack : List Nat) (opener number : Nat) :
    (tail : Tail) → Steps (opener :: stack) number (tail.lines stack.length opener number) stack
  | .close margin => by
    rw [Tail.lines]
    exact .cons (.close margin) .nil
  | .branch margin body tail => by
    rw [Tail.lines]
    have hbody := body.steps (opener :: stack) (number + 1)
    exact .cons (.branch margin) (hbody.append (tail.steps stack opener _))
end

-- ---------------------------------------------------------------------------
-- Texts without brackets
-- ---------------------------------------------------------------------------

theorem bracketSitesBefore_eq_nil {point : Position} {line : Nat} {lines : List SourceLine}
    (h : ∀ l ∈ lines, ∀ c ∈ l.text, isBracketChar c = false) :
    bracketSitesBefore point line lines = [] := by
  induction lines generalizing line with
  | nil => rfl
  | cons l rest ih =>
    have hrest := @ih (line + 1) fun m hm => h m (List.mem_cons_of_mem l hm)
    simp [bracketSitesBefore, bracketSites_eq_nil (h l List.mem_cons_self), hrest]

theorem ends_looseOpener {place : Cursor} (h : ∀ c ∈ place.after, isBracketChar c = false) :
    Rules.default.looseOpener.ends place = [] := by
  have hempty (c : Char) : CharSet.empty.contains c = false := rfl
  have hsees : place.sees (.union (.union .empty (.single '[')) (.single '{')) = false := by
    rw [← Bool.not_eq_true, Cursor.sees_iff]
    rintro ⟨c, rest, hafter, hc⟩
    have hplain := h c (by simp [hafter])
    rw [CharSet.contains, CharSet.contains, hempty, Bool.false_or, Bool.or_eq_true,
      CharSet.contains_single, CharSet.contains_single] at hc
    rcases hc with rfl | rfl <;> exact absurd hplain (by decide)
  have hopener : Rules.default.looseOpener = .seq (Pattern.eitherChar '[' '{')
      (.seq Pattern.spaces (.look .textEnd)) := rfl
  rw [hopener, Pattern.ends, Pattern.eitherChar, Pattern.ends_char, hsees]
  rfl

theorem isMatch_looseOpener {text : Text} (h : ∀ c ∈ text, isBracketChar c = false) :
    Rules.default.looseOpener.isMatch text = false := by
  have hnone (before : Option Char) (offset : Nat) :
      Rules.default.looseOpener.findFrom? before offset text = none := by
    induction text generalizing before offset with
    | nil => rw [Pattern.findFrom?, Pattern.matchAt?, ends_looseOpener h]; rfl
    | cons c rest ih =>
      have hrest := ih (fun d hd => h d (List.mem_cons_of_mem c hd)) (some c)
        (offset + c.utf8Size)
      rw [Pattern.findFrom?, Pattern.matchAt?, ends_looseOpener h, hrest]
      rfl
  rw [Pattern.isMatch, Pattern.find?, hnone]
  rfl

-- ---------------------------------------------------------------------------
-- What the lexer and the patterns make of a phrase
-- ---------------------------------------------------------------------------

namespace Phrase

def all : List Phrase :=
  [.plain, .opener .defM, .opener .ifX, .opener .whileY, .opener .classC, .opener .unlessZ,
    .branch, .close]

theorem mem_all (phrase : Phrase) : phrase ∈ all := by
  cases phrase with
  | opener first => cases first <;> decide
  | plain | branch | close => decide

instance (P : Phrase → Prop) [DecidablePred P] : Decidable (∀ phrase, P phrase) :=
  decidable_of_iff (∀ phrase ∈ all, P phrase)
    ⟨fun h phrase => h phrase phrase.mem_all, fun h phrase _ => h phrase⟩

theorem text_ne_nil : ∀ phrase : Phrase, phrase.text ≠ [] := by decide

theorem leadingBlanks_text : ∀ phrase : Phrase, Text.leadingBlanks phrase.text = [] := by decide

theorem body_text (phrase : Phrase) : Text.body phrase.text = phrase.text := by
  have h := Text.leadingBlanks_append_body phrase.text
  rwa [leadingBlanks_text, List.nil_append] at h

theorem isAllWhiteSpace_text : ∀ phrase : Phrase, Text.isAllWhiteSpace phrase.text = false := by
  decide

theorem endsInBackslash_text : ∀ phrase : Phrase, Text.endsInBackslash phrase.text = false := by
  decide

theorem isBracketChar_eq_false (phrase : Phrase) : ∀ c ∈ phrase.text, isBracketChar c = false := by
  have hany : ∀ phrase : Phrase, phrase.text.any isBracketChar = false := by decide
  simpa using List.any_eq_false.mp (hany phrase)

theorem lexLine_text : ∀ phrase : Phrase, LexState.start.lexLine phrase.text =
    (List.replicate (Text.byteLength phrase.text) .normal, .start) := by
  decide

theorem scans_text (phrase : Phrase) : LexState.start.Scans phrase.text := by
  have hbegin : ∀ phrase : Phrase, ¬ "=begin".toList <+: phrase.text := by decide
  exact ⟨rfl, by decide, fun h => hbegin phrase h.2⟩

def endsWith (phrase : Phrase) (pattern : Pattern) : Bool :=
  (pattern.matchesAt (Cursor.start phrase.text)).any
    (Match.reaches (fun _ => .normal) (Cursor.start phrase.text).finish)

theorem opens_eq : ∀ phrase : Phrase, (Rules.default.blockStart.isMatch phrase.text ||
    phrase.endsWith Rules.default.blockOpenerTail) = phrase.opens := by
  decide +kernel

theorem closes_eq : ∀ phrase : Phrase,
    Rules.default.blockEnd.isMatch phrase.text = phrase.closes := by
  decide +kernel

theorem endsWith_continuation : ∀ phrase : Phrase,
    phrase.endsWith Rules.default.continuation = false := by
  decide +kernel

end Phrase

theorem lexLine_of_body {phrase : Phrase} {text : Text} (h : Text.body text = phrase.text) :
    (LexState.start.lexLine text).2 = .start ∧
      (LexState.start.lexLine text).1.drop (Text.leadingBlanks text).length =
        List.replicate (Text.byteLength phrase.text) .normal := by
  have hscans : LexState.start.Scans text := by
    have hself := Text.leadingBlanks_append_body text
    rw [h, ← phrase.body_text] at hself
    rw [← hself]
    refine phrase.scans_text.reblank (Text.allBlank_leadingBlanks text) fun hne => ?_
    exact absurd phrase.leadingBlanks_text hne
  obtain ⟨hstate, hrow⟩ := LexState.lexLine_reblanked LexState.proper_start hscans
    phrase.scans_text (h.trans phrase.body_text.symm)
  rw [hstate, hrow, phrase.lexLine_text, phrase.leadingBlanks_text]
  exact ⟨rfl, rfl⟩

-- ---------------------------------------------------------------------------
-- Documents that show a program
-- ---------------------------------------------------------------------------

/-- The document has the lines of a program, with any margins, and is lexed. -/
structure Shows (doc : Document) (lines : List Line) : Prop where
  lexed : Lexed (fun _ => False) 0 .start doc.lines
  bodies : doc.texts.map Text.body = lines.map (·.phrase.text)

theorem shows_ofLines (lines : List Line) (tabWidth : Nat) :
    Shows (Document.ofLines (lines.map Line.text) tabWidth) lines := by
  refine ⟨Lexed.lexAll _ 0 .start _, ?_⟩
  rw [Document.texts_ofLines, List.map_map]
  apply List.map_congr_left
  intro line _
  rw [Function.comp_apply, Line.text, Text.body_append line.margin.2, line.phrase.body_text]

namespace Shows

variable {doc : Document} {lines : List Line} {i : Nat} {line : Line}

theorem lineCount (h : Shows doc lines) : doc.lineCount = lines.length := by
  have hlength := congrArg List.length h.bodies
  simpa using hlength

theorem lt_lineCount (h : Shows doc lines) (hline : lines[i]? = some line) : i < doc.lineCount := by
  rw [h.lineCount]
  exact (List.getElem?_eq_some_iff.mp hline).1

theorem body_line (h : Shows doc lines) (hline : lines[i]? = some line) :
    Text.body (doc.line i) = line.phrase.text := by
  have hget := congrArg (fun l => l[i]?) h.bodies
  simp only [List.getElem?_map, hline, Document.getElem?_texts, Option.map_map,
    Option.map_some] at hget
  obtain ⟨l, hl, htext⟩ := Option.map_eq_some_iff.mp hget
  rw [Document.line_eq hl]
  exact htext

theorem setLeadingBlanks (h : Shows doc lines) {blanks : Text} (hblank : AllBlank blanks)
    (i : Nat) : Shows (doc.setLeadingBlanks i blanks).1 lines := by
  refine ⟨Document.lexed_setLeadingBlanks h.lexed i blanks, ?_⟩
  rw [Document.texts_setLeadingBlanks, List.map_set, Text.body_blanks_body hblank, ← h.bodies]
  apply List.ext_getElem?
  intro k
  by_cases hk : i = k
  · subst hk
    rw [List.getElem?_set_self', List.getElem?_map, Document.getElem?_texts]
    cases hl : doc.lines[i]? with
    | none => rfl
    | some l => simp [Document.line_eq hl]
  · rw [List.getElem?_set_ne hk]

-- ---------------------------------------------------------------------------
-- Single lines
-- ---------------------------------------------------------------------------

theorem after_texts (h : Shows doc lines) (i : Nat) :
    LexState.start.after (doc.texts.take i) = .start := by
  have hphrase : ∀ text ∈ doc.texts.take i, ∃ phrase : Phrase, Text.body text = phrase.text := by
    intro text hmem
    have hbody : Text.body text ∈ doc.texts.map Text.body :=
      List.mem_map_of_mem (List.mem_of_mem_take hmem)
    rw [h.bodies] at hbody
    obtain ⟨line, -, hline⟩ := List.mem_map.mp hbody
    exact ⟨line.phrase, hline.symm⟩
  revert hphrase
  generalize doc.texts.take i = texts
  intro hphrase
  induction texts with
  | nil => rfl
  | cons text rest ih =>
    obtain ⟨phrase, hbody⟩ := hphrase text List.mem_cons_self
    rw [LexState.after_cons, (lexLine_of_body hbody).1]
    exact ih fun other hmem => hphrase other (List.mem_cons_of_mem _ hmem)

theorem attributeAt (h : Shows doc lines) (hline : lines[i]? = some line) (column : Nat) :
    doc.attributeAt i (doc.margin i + column) = .normal := by
  obtain ⟨l, hl⟩ : ∃ l, doc.lines[i]? = some l :=
    ⟨_, List.getElem?_eq_getElem (h.lt_lineCount hline)⟩
  obtain ⟨hstart, hrow⟩ := h.lexed.of_getElem? hl
  have hbody := h.body_line hline
  have hstate : l.start = .start := hstart.trans (h.after_texts i)
  rw [Document.line_eq hl] at hbody
  rw [Document.attributeAt_eq hl, ← Row.at_drop, hrow id, hstate, Document.margin,
    Document.line_eq hl, (lexLine_of_body hbody).2, Row.at, List.getElem?_replicate]
  split <;> rfl

theorem isCodeLine (h : Shows doc lines) (hline : lines[i]? = some line) :
    doc.isCodeLine i = true := by
  have hne := line.phrase.text_ne_nil
  rw [Document.isCodeLine_eq, h.body_line hline, ← Nat.add_zero (doc.margin i),
    h.attributeAt hline]
  simpa [Attribute.isComment] using hne

theorem isVerbatim (h : Shows doc lines) (hline : lines[i]? = some line) {rules : Rules}
    (hrules : Attribute.normal.name ∉ rules.verbatimAttributes) :
    doc.isVerbatim rules i = false := by
  have hbody := h.body_line hline
  have hne : Text.body (doc.line i) ≠ [] := hbody ▸ line.phrase.text_ne_nil
  have hlast : doc.lineLength i - 1 =
      doc.margin i + (Text.byteLength (Text.body (doc.line i)) - 1) := by
    have hpos := Text.byteLength_pos hne
    rw [Document.Shifted.lineLength_eq]
    omega
  rw [Document.isVerbatim, Document.previousNonBlankLine?_self (h.lt_lineCount hline) hne,
    Option.any_some, hlast, h.attributeAt hline]
  simpa using hrules

theorem isBracketChar_eq_false (h : Shows doc lines) {l : SourceLine} (hl : l ∈ doc.lines) :
    ∀ c ∈ l.text, isBracketChar c = false := by
  obtain ⟨i, hi⟩ := List.getElem?_of_mem hl
  have hlt : i < lines.length := by
    rw [← h.lineCount]
    exact (List.getElem?_eq_some_iff.mp hi).1
  have hbody := h.body_line (List.getElem?_eq_getElem hlt)
  rw [Document.line_eq hi] at hbody
  intro c hc
  rw [← Text.leadingBlanks_append_body l.text, List.mem_append] at hc
  rcases hc with hc | hc
  · rcases Text.isBlank_iff.mp (Text.allBlank_leadingBlanks l.text c hc) with rfl | rfl <;> decide
  · exact Phrase.isBracketChar_eq_false _ c (hbody ▸ hc)

theorem lastAnchor? (h : Shows doc lines) (point : Position) : doc.lastAnchor? point = none := by
  have hsites : doc.bracketSitesBefore point = [] :=
    bracketSitesBefore_eq_nil fun l hl => h.isBracketChar_eq_false hl
  simp [Document.lastAnchor?, hsites, unclosed?]

-- ---------------------------------------------------------------------------
-- Lines as statements
-- ---------------------------------------------------------------------------

theorem content (h : Shows doc lines) (hline : lines[i]? = some line) :
    (Statement.singleLine i).content doc = doc.line i := by
  have hbackslash : Text.endsInBackslash (doc.line i) = false := by
    rw [← Text.endsInBackslash_body, h.body_line hline]
    exact line.phrase.endsInBackslash_text
  simp [Statement.content, Statement.lineNumbers, Statement.singleLine, Statement.joined,
    hbackslash]

theorem stretch (h : Shows doc lines) (hline : lines[i]? = some line) :
    Stretch true (marksFrom (doc.attributeAt i) 0 (doc.line i))
      (marksFrom (fun _ => .normal) 0 line.phrase.text) := by
  have hblank := Text.allBlank_leadingBlanks (doc.line i)
  have hself := Text.leadingBlanks_append_body (doc.line i)
  rw [h.body_line hline] at hself
  rw [← hself, marksFrom_append]
  refine .blanks_left ?_ (hblank.marksFrom _ 0)
  have hsame : marksFrom (doc.attributeAt i) (0 + Text.byteLength (Text.leadingBlanks (doc.line i)))
      line.phrase.text = marksFrom (fun _ => .normal) 0 line.phrase.text := by
    refine marksFrom_congr fun column _ => ?_
    rw [Nat.zero_add, hblank.byteLength]
    exact h.attributeAt hline column
  rw [hsame]
  exact .refl true _

theorem endsWith (h : Shows doc lines) (hline : lines[i]? = some line) {pattern : Pattern}
    (hsteady : ∀ α β, pattern.Steady α β) :
    (Statement.singleLine i).endsWith doc pattern = line.phrase.endsWith pattern := by
  have hkinds : Statement.kindFrom doc (i - i) i = doc.attributeAt i := by
    rw [Nat.sub_self]
    rfl
  rw [Statement.endsWith_eq, h.content hline, Statement.singleLine, hkinds, Phrase.endsWith]
  exact (hsteady _ _).reachesEnd_eq (.start (h.stretch hline))

end Shows

end Program

end Reindent
