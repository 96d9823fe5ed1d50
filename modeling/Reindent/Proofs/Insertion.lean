import Reindent.Proofs.BracketStack
import Reindent.Proofs.Comments
import Reindent.Proofs.Frame

/-!
# Lines put in between

A blank line or a comment put in between two lines of code belongs to no
statement, so it moves the numbers of the lines below it and changes nothing
else about how the document falls into statements. Where it goes, the lexer
must be in plain code, or the line would be part of a string or a document;
and it must not follow a backslash, which joins only lines that are next to
each other.
-/

namespace Reindent

def shiftLine (k line : Nat) : Nat := if line < k then line else line + 1

def Position.shift (k : Nat) (position : Position) : Position :=
  ⟨shiftLine k position.line, position.column⟩

def Anchor.shift (k : Nat) (anchor : Anchor) : Anchor :=
  ⟨anchor.position.shift k, anchor.bracket⟩

def Statement.shift (k : Nat) (stmt : Statement) : Statement :=
  ⟨shiftLine k stmt.start, shiftLine k stmt.stop⟩

/-- Nothing but blanks, or a comment behind blanks. -/
def Text.IsFiller (text : Text) : Prop :=
  AllBlank text ∨ ∃ blanks comment, AllBlank blanks ∧ text = blanks ++ '#' :: comment

-- ---------------------------------------------------------------------------
-- Line numbers
-- ---------------------------------------------------------------------------

section
variable {k line : Nat}

theorem shiftLine_of_lt (h : line < k) : shiftLine k line = line := if_pos h

theorem shiftLine_of_le (h : k ≤ line) : shiftLine k line = line + 1 :=
  if_neg (Nat.not_lt.mpr h)

theorem shiftLine_succ (h : line + 1 ≠ k) : shiftLine k (line + 1) = shiftLine k line + 1 := by
  unfold shiftLine
  split <;> split <;> omega

theorem shiftLine_lt_shiftLine {m n : Nat} : shiftLine k m < shiftLine k n ↔ m < n := by
  unfold shiftLine
  split <;> split <;> omega

theorem shiftLine_inj {m n : Nat} : shiftLine k m = shiftLine k n ↔ m = n := by
  unfold shiftLine
  split <;> split <;> omega

theorem Position.isBefore_shift (p q : Position) :
    (p.shift k).isBefore (q.shift k) = p.isBefore q := by
  rw [Bool.eq_iff_iff, isBefore_iff, isBefore_iff]
  simp only [shift, shiftLine_lt_shiftLine, shiftLine_inj]

/-- Lines that were apart stay apart, and neighbours are only parted at `k`. -/
theorem shiftLine_add_one_eq {above below : Nat} (hlt : above < below) :
    shiftLine k above + 1 = shiftLine k below ↔ above + 1 = below ∧ above + 1 ≠ k := by
  unfold shiftLine
  split <;> split <;> omega

theorem greatestBelow?_shiftLine {p q : Nat → Bool} (hshift : ∀ m, q (shiftLine k m) = p m)
    (hk : q k = false) (n : Nat) :
    greatestBelow? q (shiftLine k n) = (greatestBelow? p n).map (shiftLine k) := by
  induction n with
  | zero =>
    cases k with
    | zero => simp [shiftLine, greatestBelow?, hk]
    | succ k => simp [shiftLine, greatestBelow?]
  | succ n ih =>
    have hstep : greatestBelow? q (shiftLine k (n + 1)) =
        greatestBelow? q (shiftLine k n + 1) := by
      by_cases hn : n + 1 = k
      · subst hn
        simp [shiftLine, greatestBelow?, hk]
      · rw [shiftLine_succ hn]
    rw [hstep, greatestBelow?, greatestBelow?, hshift, ih]
    split <;> rfl

end

-- ---------------------------------------------------------------------------
-- Documents with a line put in
-- ---------------------------------------------------------------------------

/-- The second document has the lines of the first and one more, at number `k`,
which is no line of code and follows no backslash. -/
structure Document.Inserted (k : Nat) (doc new : Document) : Prop where
  lines : ∃ above filler below, above.length = k ∧ doc.lines = above ++ below ∧
    new.lines = above ++ filler :: below
  noCode : new.isCodeLine k = false
  brackets : new.BracketsInCode
  unjoined : ∀ above, above + 1 = k → doc.endsInBackslash above = false

theorem bracketSites_shiftLine (k line column : Nat) (text : Text) (row : Row) :
    bracketSites (shiftLine k line) column text row =
      (bracketSites line column text row).map fun site => ⟨site.position.shift k, site.char⟩ := by
  induction text generalizing column row with
  | nil => rfl
  | cons c rest ih =>
    simp only [bracketSites, ih]
    split <;> rfl

theorem allBracketSites_append (line : Nat) (above below : List SourceLine) :
    allBracketSites line (above ++ below) =
      allBracketSites line above ++ allBracketSites (line + above.length) below := by
  induction above generalizing line with
  | nil => rfl
  | cons l rest ih =>
    simp [allBracketSites, ih, Nat.add_assoc, Nat.add_comm 1]

theorem allBracketSites_above {k line : Nat} {lines : List SourceLine}
    (h : line + lines.length ≤ k) :
    allBracketSites line lines =
      (allBracketSites line lines).map fun site => ⟨site.position.shift k, site.char⟩ := by
  induction lines generalizing line with
  | nil => rfl
  | cons l rest ih =>
    rw [List.length_cons] at h
    have hline : shiftLine k line = line := shiftLine_of_lt (by omega)
    rw [allBracketSites, List.map_append, ← bracketSites_shiftLine, hline, ← ih (by omega)]

theorem allBracketSites_below {k line : Nat} (h : k ≤ line) (lines : List SourceLine) :
    allBracketSites (line + 1) lines =
      (allBracketSites line lines).map fun site => ⟨site.position.shift k, site.char⟩ := by
  induction lines generalizing line with
  | nil => rfl
  | cons l rest ih =>
    rw [allBracketSites, allBracketSites, List.map_append, ← bracketSites_shiftLine,
      shiftLine_of_le h, ← ih (Nat.le_succ_of_le h)]

namespace Document.Inserted

variable {k : Nat} {doc new : Document} {rules : Rules}

theorem getElem? (h : doc.Inserted k new) (line : Nat) :
    new.lines[shiftLine k line]? = doc.lines[line]? := by
  obtain ⟨above, filler, below, rfl, hdoc, hnew⟩ := h.lines
  rw [hdoc, hnew]
  unfold shiftLine
  split
  case isTrue hlt => rw [List.getElem?_append_left hlt, List.getElem?_append_left hlt]
  case isFalse hge =>
    have hle : above.length ≤ line := Nat.le_of_not_lt hge
    rw [List.getElem?_append_right hle, List.getElem?_append_right (Nat.le_succ_of_le hle),
      Nat.succ_sub hle, List.getElem?_cons_succ]

theorem line (h : doc.Inserted k new) (line : Nat) :
    new.line (shiftLine k line) = doc.line line := by
  rw [Document.line, Document.line, h.getElem?]

theorem attributeAt (h : doc.Inserted k new) (line column : Nat) :
    new.attributeAt (shiftLine k line) column = doc.attributeAt line column := by
  rw [Document.attributeAt, Document.attributeAt, h.getElem?]

theorem isCodeLine (h : doc.Inserted k new) (line : Nat) :
    new.isCodeLine (shiftLine k line) = doc.isCodeLine line := by
  simp only [isCodeLine_eq, margin, h.line, h.attributeAt]

theorem endsWith_singleLine (h : doc.Inserted k new) (line : Nat) (pattern : Pattern) :
    (Statement.singleLine (shiftLine k line)).endsWith new pattern =
      (Statement.singleLine line).endsWith doc pattern := by
  have hposition (doc : Document) (line offset : Nat) :
      (Statement.singleLine line).positionAt doc offset = ⟨line, offset⟩ := by
    simp [Statement.positionAt, Statement.singleLine, Statement.walk]
  have hcontent : (Statement.singleLine (shiftLine k line)).content new =
      (Statement.singleLine line).content doc := by
    simp [Statement.content, Statement.lineNumbers, Statement.singleLine, h.line]
  simp only [Statement.endsWith, hcontent, Statement.isCodeAt, Statement.isCommentAt, hposition,
    isCode, isComment, h.attributeAt]

-- ---------------------------------------------------------------------------
-- Open brackets
-- ---------------------------------------------------------------------------

theorem allBracketSites (h : doc.Inserted k new) :
    allBracketSites 0 new.lines =
      (allBracketSites 0 doc.lines).map fun site => ⟨site.position.shift k, site.char⟩ := by
  obtain ⟨above, filler, below, rfl, hdoc, hnew⟩ := h.lines
  have hat : new.lines[above.length]? = some filler := by
    rw [hnew, List.getElem?_append_right (Nat.le_refl _), Nat.sub_self]
    rfl
  have hnone := h.brackets _ _ hat h.noCode
  rw [hnew, hdoc, allBracketSites_append, allBracketSites_append, List.map_append, Nat.zero_add,
    ← allBracketSites_above (Nat.le_of_eq (Nat.zero_add _)),
    ← allBracketSites_below (Nat.le_refl _), Reindent.allBracketSites, hnone, List.nil_append]

theorem lastAnchor?_of_lines (h : doc.Inserted k new) {m n : Nat}
    (hlines : ∀ line, shiftLine k line < m ↔ line < n) :
    new.lastAnchor? ⟨m, 0⟩ = (doc.lastAnchor? ⟨n, 0⟩).map (Anchor.shift k) := by
  have hbefore (p : Position) : (p.shift k).isBefore ⟨m, 0⟩ = p.isBefore ⟨n, 0⟩ := by
    rw [Bool.eq_iff_iff, Position.isBefore_iff, Position.isBefore_iff]
    simp [Position.shift, hlines]
  have hsites : new.bracketSitesBefore ⟨m, 0⟩ = (doc.bracketSitesBefore ⟨n, 0⟩).map
      fun site => ⟨site.position.shift k, site.char⟩ := by
    simp only [bracketSitesBefore, bracketSitesBefore_eq_filter, h.allBracketSites,
      List.filter_map, Function.comp_def, hbefore]
  have hrel := rel_lastAnchor? (R := fun p q => q = p.shift k) (a := doc) (b := new)
    (p := ⟨n, 0⟩) (q := ⟨m, 0⟩)
    (by rintro p _ p' _ rfl rfl; exact (Position.isBefore_shift p p').symm)
    (by simp [hsites, List.forall₂_map_right_iff, List.forall₂_same])
  rcases rel_cases hrel with ⟨hdoc, hnew⟩ | ⟨x, y, hdoc, hnew, hbracket, hposition⟩
  · rw [hdoc, hnew]
    rfl
  · rw [hdoc, hnew, Option.map_some, Anchor.shift, ← hposition, hbracket]

theorem lastAnchor? (h : doc.Inserted k new) (line : Nat) :
    new.lastAnchor? ⟨shiftLine k line, 0⟩ =
      (doc.lastAnchor? ⟨line, 0⟩).map (Anchor.shift k) :=
  h.lastAnchor?_of_lines fun _ => shiftLine_lt_shiftLine

-- ---------------------------------------------------------------------------
-- Statements
-- ---------------------------------------------------------------------------

theorem continues (h : doc.Inserted k new) (line : Nat) :
    new.continues rules (shiftLine k line) = doc.continues rules line := by
  have hlines (other : Nat) : shiftLine k other < shiftLine k line + 1 ↔ other < line + 1 := by
    rw [Nat.lt_succ_iff_lt_or_eq, Nat.lt_succ_iff_lt_or_eq, shiftLine_lt_shiftLine, shiftLine_inj]
  rw [Document.continues, Document.continues, h.lastAnchor?_of_lines hlines, Option.isSome_map,
    h.endsWith_singleLine]

theorem joins (h : doc.Inserted k new) {above below : Nat} (hlt : above < below) :
    new.joins rules (shiftLine k above) (shiftLine k below) = doc.joins rules above below := by
  have hslash : new.endsInBackslash (shiftLine k above) = doc.endsInBackslash above := by
    rw [Document.endsInBackslash, Document.endsInBackslash, h.line]
  rw [Document.joins, Document.joins, hslash, h.continues]
  congr 1
  by_cases hk : above + 1 = k
  · simp [h.unjoined above hk]
  · have hnext := shiftLine_add_one_eq (k := k) hlt
    simp only [hk, ne_eq, not_false_eq_true, and_true] at hnext
    simp only [Bool.beq_eq_decide_eq, hnext]

theorem codeLineAbove? (h : doc.Inserted k new) (line : Nat) :
    new.codeLineAbove? (shiftLine k line) = (doc.codeLineAbove? line).map (shiftLine k) :=
  greatestBelow?_shiftLine h.isCodeLine h.noCode line

theorem previousCodeLine? (h : doc.Inserted k new) (line : Nat) :
    new.previousCodeLine? (shiftLine k line) = (doc.previousCodeLine? line).map (shiftLine k) := by
  have habove := h.codeLineAbove? line
  rw [Document.codeLineAbove?, Document.codeLineAbove?] at habove
  simp only [Document.previousCodeLine?, greatestBelow?_min_lineCount, Document.codeLineAbove?,
    greatestBelow?, h.isCodeLine, habove]
  split <;> rfl

theorem statementStart (h : doc.Inserted k new) {line : Nat} (hcode : doc.isCodeLine line = true) :
    new.statementStart rules (shiftLine k line) = shiftLine k (doc.statementStart rules line) := by
  refine induction_codeLine (P := fun line => new.statementStart rules (shiftLine k line) =
    shiftLine k (doc.statementStart rules line)) ?_ ?_ hcode
  · intro line hcode hnone
    have hnew : new.codeLineAbove? (shiftLine k line) = none := by
      rw [h.codeLineAbove?, hnone]
      rfl
    rw [statementStart_of_none rules hcode hnone,
      statementStart_of_none rules (h.isCodeLine line ▸ hcode) hnew]
  · intro above line hn ih
    have hnew : new.codeLineAbove? (shiftLine k line) = some (shiftLine k above) := by
      rw [h.codeLineAbove?, hn.codeLineAbove?]
      rfl
    have hpair := neighbours_of_codeLineAbove? (h.isCodeLine line ▸ hn.code_below) hnew
    rw [hpair.statementStart, hn.statementStart, h.joins hn.lt, ih]
    split <;> rfl

theorem previousStatement? (h : doc.Inserted k new) (line : Nat) :
    new.previousStatement? rules (shiftLine k line) =
      (doc.previousStatement? rules line).map (Statement.shift k) := by
  rw [Document.previousStatement?, Document.previousStatement?, h.previousCodeLine?]
  cases hstop : doc.previousCodeLine? line with
  | none => rfl
  | some stop =>
    have hcode : doc.isCodeLine stop = true := (greatestBelow?_eq_some hstop).2
    simp [h.statementStart hcode, Statement.shift]

end Document.Inserted

-- ---------------------------------------------------------------------------
-- Blank lines and comments
-- ---------------------------------------------------------------------------

theorem Text.IsFiller.body {filler : Text} (h : filler.IsFiller) :
    Text.body filler = [] ∨ ∃ comment, Text.body filler = '#' :: comment := by
  rcases h with hblank | ⟨blanks, comment, hblank, rfl⟩
  · have hbody := body_append hblank []
    rw [List.append_nil] at hbody
    exact .inl hbody
  · exact .inr ⟨comment, body_append hblank ('#' :: comment)⟩

theorem LexState.lexLine_filler {filler : Text} (h : filler.IsFiller) :
    (LexState.start.lexLine filler).2 = .start ∧
      (Text.body filler = [] ∨
        Row.at (LexState.start.lexLine filler).1 (Text.leadingBlanks filler).length =
          .comment) := by
  have hscans {text : Text}
      (hbody : Text.body text = [] ∨ ∃ comment, Text.body text = '#' :: comment) :
      LexState.start.Scans text := by
    refine ⟨rfl, by simp [LexState.start], ?_⟩
    rintro ⟨-, rest, rfl⟩
    rcases hbody with hnil | ⟨comment, hhash⟩
    · simp [Text.body, Text.isBlank] at hnil
    · simp [Text.body, Text.isBlank] at hhash
  have hself : Text.body (Text.body filler) = Text.body filler := Text.body_body filler
  have hbare : LexState.start.Scans (Text.body filler) := hscans (by rw [hself]; exact h.body)
  obtain ⟨hstate, hrow⟩ := lexLine_reblanked proper_start (hscans h.body) hbare hself.symm
  rcases h.body with hnil | ⟨comment, hhash⟩
  · exact ⟨by rw [hstate, hnil]; rfl, .inl hnil⟩
  · have hline : LexState.start.lexLine ('#' :: comment) =
        (List.replicate ((Text.bytes comment).length + 1) .comment, .start) := by
      have hkind : (LexState.start.lexeme [] '#'.toUInt8 (Text.bytes comment)).kind = .comment :=
        rfl
      rw [lexLine_of_scans (hscans (.inr ⟨comment, rfl⟩)), ← scan_of_kind_comment hkind]
      rfl
    rw [Text.leadingBlanks_body, hhash, hline, List.length_nil, List.drop_zero] at hrow
    refine ⟨by rw [hstate, hhash, hline], .inr ?_⟩
    rw [← Nat.add_zero (Text.leadingBlanks filler).length, ← Row.at_drop, hrow]
    rfl

theorem Document.inserted_ofLines {above below : List Text} {filler : Text} (tabWidth : Nat)
    (hfiller : filler.IsFiller) (hstate : LexState.start.after above = .start)
    (hslash : ∀ last, above.getLast? = some last → Text.endsInBackslash last = false) :
    (ofLines (above ++ below) tabWidth).Inserted above.length
      (ofLines (above ++ filler :: below) tabWidth) := by
  obtain ⟨hnext, hrow⟩ := LexState.lexLine_filler hfiller
  have hdoc : (ofLines (above ++ below) tabWidth).lines =
      SourceLine.lexAll .start above ++ SourceLine.lexAll .start below := by
    rw [ofLines, SourceLine.lexAll_append, hstate]
  have hnew : (ofLines (above ++ filler :: below) tabWidth).lines =
      SourceLine.lexAll .start above ++ ⟨filler, .start, (LexState.start.lexLine filler).1⟩ ::
        SourceLine.lexAll .start below := by
    rw [ofLines, SourceLine.lexAll_append, hstate, SourceLine.lexAll, hnext]
  have hlength := SourceLine.length_lexAll .start above
  refine ⟨⟨_, _, _, hlength, hdoc, hnew⟩, ?_, bracketsInCode_ofLines _ _, ?_⟩
  · have hat : (ofLines (above ++ filler :: below) tabWidth).lines[above.length]? =
        some ⟨filler, .start, (LexState.start.lexLine filler).1⟩ := by
      rw [hnew, List.getElem?_append_right (Nat.le_of_eq hlength), hlength, Nat.sub_self]
      rfl
    rw [isCodeLine_eq, margin, attributeAt_eq hat, line_eq hat]
    rcases hrow with hnil | hcomment
    · simp [hnil]
    · simp [hcomment, Attribute.isComment]
  · intro last hlast
    have htext : above.getLast? = some ((ofLines (above ++ below) tabWidth).line last) := by
      rw [List.getLast?_eq_getElem?, ← hlast, Nat.add_sub_cancel, line_eq_texts, texts_ofLines,
        List.getElem?_append_left (by omega), List.getElem?_eq_getElem (by omega)]
      rfl
    exact hslash _ htext

/-- A blank line or a comment put in between, where the lexer is in plain code and
the line above does not end in a backslash, shifts the numbers of the lines
below it and changes nothing else about the lines of code, the statements and
the open brackets that are found from any line. -/
theorem filler_shifts_segmentation (above below : List Text) (filler : Text) (tabWidth : Nat)
    (rules : Rules) (hfiller : filler.IsFiller) (hstate : LexState.start.after above = .start)
    (hslash : ∀ last, above.getLast? = some last → Text.endsInBackslash last = false) :
    let doc := Document.ofLines (above ++ below) tabWidth
    let new := Document.ofLines (above ++ filler :: below) tabWidth
    let k := above.length
    ∀ line,
      new.previousCodeLine? (shiftLine k line) =
        (doc.previousCodeLine? line).map (shiftLine k) ∧
      new.previousStatement? rules (shiftLine k line) =
        (doc.previousStatement? rules line).map (Statement.shift k) ∧
      new.lastAnchor? ⟨shiftLine k line, 0⟩ =
        (doc.lastAnchor? ⟨line, 0⟩).map (Anchor.shift k) := by
  intro doc new k line
  have h : doc.Inserted k new := Document.inserted_ofLines tabWidth hfiller hstate hslash
  exact ⟨h.previousCodeLine? line, h.previousStatement? line, h.lastAnchor? line⟩

/-- A comment inside an open bracket, with a closer and a backslash in its text. -/
theorem filler_shifts_segmentation_bracket :
    let new := Document.ofLines ["x = f(1,".toList, "  # ) \\".toList, "2)".toList] 8
    new.previousCodeLine? 1 = some 0 ∧ new.previousStatement? .default 2 = some ⟨0, 2⟩ ∧
      new.lastAnchor? ⟨2, 0⟩ = some ⟨⟨0, 5⟩, .paren⟩ := by
  intro new
  have hfiller : Text.IsFiller "  # ) \\".toList :=
    .inr ⟨[' ', ' '], " ) \\".toList, by decide, by decide⟩
  have hshift := filler_shifts_segmentation ["x = f(1,".toList] ["2)".toList] "  # ) \\".toList 8
    .default hfiller (by decide) (by rintro last ⟨⟩; decide) 1
  obtain ⟨-, hstatement, hanchor⟩ := hshift
  refine ⟨by decide, ?_, ?_⟩
  · refine Eq.trans hstatement ?_
    decide +kernel
  · refine Eq.trans hanchor ?_
    decide +kernel

end Reindent
