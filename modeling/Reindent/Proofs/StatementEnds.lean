import Reindent.Proofs.Comments
import Reindent.Proofs.Offsets

/-!
# What follows a match at the end of a statement

A pattern that is tested at the end of a statement may also end where a comment
begins. The lexer never takes up code again behind a comment, so nothing of the
line follows such a match. But a statement may have further lines, and the text
that is searched joins them all: a comment on an earlier line hides the code of
the lines below it.
-/

namespace Reindent

-- ---------------------------------------------------------------------------
-- The shape of a row
-- ---------------------------------------------------------------------------

def Attribute.isProgram : Attribute → Bool
  | .normal | .string => true
  | _ => false

theorem Attribute.isComment_of_isProgram {kind : Attribute} (h : kind.isProgram = true) :
    kind.isComment = false := by
  revert h
  cases kind <;> decide

namespace LexState

variable {state : LexState}

theorem lexeme_isProgram (h : state.context ≠ .blockComment) (before : List UInt8) (b : UInt8)
    (after : List UInt8) :
    ((state.lexeme before b after).kind.isProgram = true ∨
      (state.lexeme before b after).kind = .comment) ∧
    (state.lexeme before b after).state.context ≠ .blockComment := by
  rw [lexeme]
  cases hcontext : state.context with
  | code =>
    dsimp only [codeLexeme]
    repeat' split
    all_goals simp [Attribute.isProgram, enter, hcontext]
  | quoted close opening depth =>
    dsimp only [quotedLexeme]
    repeat' split
    all_goals simp [Attribute.isProgram, enter, hcontext]
  | blockComment => exact absurd hcontext h

/-- A scanned row is a run of program bytes and then a run of comment bytes. -/
theorem exists_scan_eq (h : state.context ≠ .blockComment) {covered : Nat}
    {current : Attribute} (hcurrent : covered = 0 ∨ current.isProgram = true)
    (before bytes : List UInt8) :
    ∃ front n, (state.scan covered current before bytes).1 =
        front ++ List.replicate n .comment ∧
      ∀ kind ∈ front, kind.isProgram = true := by
  induction bytes generalizing state covered current before with
  | nil => exact ⟨[], 0, rfl, by simp⟩
  | cons b after ih =>
    cases covered with
    | zero =>
      obtain ⟨hkind, hnext⟩ := lexeme_isProgram h before b after
      rcases hkind with hkind | hkind
      · obtain ⟨front, n, hrow, hfront⟩ := ih hnext (.inr hkind) (b :: before)
        refine ⟨_ :: front, n, congrArg (List.cons _) hrow, ?_⟩
        exact List.forall_mem_cons.mpr ⟨hkind, hfront⟩
      · exact ⟨[], after.length + 1, by rw [scan_of_kind_comment hkind]; rfl, by simp⟩
    | succ covered =>
      have hcurrent := hcurrent.resolve_left (Nat.succ_ne_zero _)
      obtain ⟨front, n, hrow, hfront⟩ := ih h (.inr hcurrent) (b :: before)
      refine ⟨current :: front, n, congrArg (List.cons _) hrow, ?_⟩
      exact List.forall_mem_cons.mpr ⟨hcurrent, hfront⟩

theorem isComment_lexLine_of_le (state : LexState) (line : Text) {column later : Nat}
    (h : (Row.at (state.lexLine line).1 column).isComment = true) (hle : column ≤ later)
    (hlt : later < Text.byteLength line) :
    (Row.at (state.lexLine line).1 later).isComment = true := by
  by_cases hscans : state.Scans line
  · obtain ⟨front, n, hrow, hfront⟩ :=
      exists_scan_eq hscans.2.1 (.inl rfl) [] (Text.bytes line)
    have hlength := length_lexLine state line
    rw [lexLine_of_scans hscans, hrow] at h hlength ⊢
    have hge : front.length ≤ column := by
      by_contra hlow
      rw [Row.at, List.getElem?_append_left (Nat.lt_of_not_le hlow),
        List.getElem?_eq_getElem (Nat.lt_of_not_le hlow), Option.getD_some,
        Attribute.isComment_of_isProgram (hfront _ (List.getElem_mem _))] at h
      exact Bool.false_ne_true h
    rw [List.length_append, List.length_replicate] at hlength
    rw [Row.at, List.getElem?_append_right (hge.trans hle), List.getElem?_replicate,
      if_pos (by omega)]
    rfl
  · obtain ⟨kind, -, hrow⟩ := row_of_not_scans hscans
    rw [hrow, Row.at_replicate (Nat.lt_of_le_of_lt hle hlt)] at h
    rw [hrow, Row.at_replicate hlt, h]

end LexState

-- ---------------------------------------------------------------------------
-- Comments in a document
-- ---------------------------------------------------------------------------

section
variable {texts : List Text} {tabWidth line column later : Nat}

theorem Document.exists_row_ofLines (h : (ofLines texts tabWidth).isComment line column = true) :
    ∃ x : SourceLine, (ofLines texts tabWidth).lines[line]? = some x ∧
      x.row = (x.start.lexLine x.text).1 := by
  cases hx : (ofLines texts tabWidth).lines[line]? with
  | none => simp [isComment, attributeAt, hx, Row.at, Attribute.isComment] at h
  | some x => exact ⟨x, rfl, ((Lexed.lexAll (fun _ => False) 0 .start texts).of_getElem? hx).2 id⟩

theorem Document.lt_of_isComment (h : (ofLines texts tabWidth).isComment line column = true) :
    column < (ofLines texts tabWidth).lineLength line := by
  obtain ⟨x, hx, hrow⟩ := exists_row_ofLines h
  rw [isComment, attributeAt_eq hx] at h
  rw [lineLength, line_eq hx, ← LexState.length_lexLine x.start, ← hrow]
  by_contra hge
  rw [Row.at, List.getElem?_eq_none (Nat.le_of_not_lt hge)] at h
  exact Bool.false_ne_true h

theorem Document.isComment_of_le (h : (ofLines texts tabWidth).isComment line column = true)
    (hle : column ≤ later) (hlt : later < (ofLines texts tabWidth).lineLength line) :
    (ofLines texts tabWidth).isComment line later = true := by
  obtain ⟨x, hx, hrow⟩ := exists_row_ofLines h
  rw [isComment, attributeAt_eq hx, hrow] at h ⊢
  rw [lineLength, line_eq hx] at hlt
  exact LexState.isComment_lexLine_of_le _ _ h hle hlt

end

-- ---------------------------------------------------------------------------
-- What follows in the text of a statement
-- ---------------------------------------------------------------------------

namespace Statement

theorem le_line_walk (doc : Document) (lines line offset : Nat) :
    line ≤ (walk doc lines line offset).line := by
  induction lines generalizing line offset with
  | zero => exact Nat.le_refl line
  | succ lines ih =>
    simp only [walk]
    split
    · exact Nat.le_of_succ_le (ih (line + 1) _)
    · exact Nat.le_refl line

theorem walk_mono (doc : Document) (lines line : Nat) {offset later : Nat} (h : offset ≤ later) :
    (walk doc lines line offset).line ≤ (walk doc lines line later).line ∧
      ((walk doc lines line later).line = (walk doc lines line offset).line →
        (walk doc lines line offset).column ≤ (walk doc lines line later).column) := by
  induction lines generalizing line offset later with
  | zero => exact ⟨Nat.le_refl line, fun _ => h⟩
  | succ lines ih =>
    simp only [walk]
    by_cases hoffset : doc.lineLength line < offset
    · rw [if_pos hoffset, if_pos (Nat.lt_of_lt_of_le hoffset h)]
      exact ih (line + 1) (Nat.sub_le_sub_right h _)
    · rw [if_neg hoffset]
      split
      · have hbelow := le_line_walk doc lines (line + 1) (later - (doc.lineLength line + 1))
        exact ⟨Nat.le_of_succ_le hbelow, fun hsame => absurd hsame (Nat.ne_of_gt hbelow)⟩
      · exact ⟨Nat.le_refl line, fun _ => h⟩

variable {stmt : Statement}

theorem getElem?_bytes_content {doc : Document} (hordered : stmt.Ordered) {offset : Nat}
    (h : offset < Text.byteLength (stmt.content doc)) :
    (stmt.positionAt doc offset).column ≤ doc.lineLength (stmt.positionAt doc offset).line ∧
      (Text.bytes (stmt.content doc))[offset]? =
        Text.joinedByte? (doc.line (stmt.positionAt doc offset).line)
          (stmt.positionAt doc offset).column := by
  rw [content_eq_textFrom hordered] at h ⊢
  exact ⟨(reaches_walk (Nat.le_of_lt h)).1.column, getElem?_bytes_textFrom h⟩

/-- Whether a byte of the statement's text is a blank or belongs to a comment. There
is only filler behind the end. -/
def isFillerAt (stmt : Statement) (doc : Document) (offset : Nat) : Bool :=
  (Text.bytes (stmt.content doc))[offset]?.all fun b =>
    Text.isBlankByte b || stmt.isCommentAt doc offset

theorem isFillerAt_of_ge {doc : Document} {offset : Nat}
    (h : Text.byteLength (stmt.content doc) ≤ offset) : stmt.isFillerAt doc offset = true := by
  rw [isFillerAt, List.getElem?_eq_none (by rwa [Text.length_bytes])]
  rfl

theorem isFillerAt_of_isCommentAt {texts : List Text} {tabWidth : Nat} (hordered : stmt.Ordered)
    {offset later : Nat} (h : stmt.isCommentAt (.ofLines texts tabWidth) offset = true)
    (hle : offset ≤ later)
    (hline : (stmt.positionAt (.ofLines texts tabWidth) later).line =
      (stmt.positionAt (.ofLines texts tabWidth) offset).line) :
    stmt.isFillerAt (.ofLines texts tabWidth) later = true := by
  rcases Nat.lt_or_ge later (Text.byteLength (stmt.content (.ofLines texts tabWidth))) with
    hlt | hge
  · obtain ⟨hcolumn, hbyte⟩ := getElem?_bytes_content hordered hlt
    rw [isFillerAt, hbyte]
    rcases Nat.eq_or_lt_of_le hcolumn with hjoint | hinside
    · rw [hjoint, Document.lineLength, Text.joinedByte?_byteLength]
      rfl
    · have hright := (walk_mono _ _ _ hle).2 hline
      have hcomment : stmt.isCommentAt (.ofLines texts tabWidth) later = true := by
        rw [isCommentAt, ← hline] at h
        exact Document.isComment_of_le h hright hinside
      simp [hcomment]
  · exact isFillerAt_of_ge hge

end Statement

/-- A match that counts as one at the end of a statement ends its line: behind it
the line has only blanks and a comment. It ends the statement if no comment stands
above the statement's last line. -/
theorem endsWith_match_ends_line (rules : Rules) (texts : List Text) (tabWidth line : Nat)
    (stmt : Statement)
    (hstmt : (Document.ofLines texts tabWidth).previousStatement? rules line = some stmt)
    (pattern : Pattern) (hends : stmt.endsWith (.ofLines texts tabWidth) pattern = true) :
    let doc := Document.ofLines texts tabWidth
    ∃ found ∈ pattern.allMatches (stmt.content doc),
      stmt.isCodeAt doc found.start = true ∧
      (∀ later ≥ found.stop,
        (stmt.positionAt doc later).line = (stmt.positionAt doc found.stop).line →
          stmt.isFillerAt doc later = true) ∧
      ((∀ l, stmt.start ≤ l → l < stmt.stop → ∀ column < doc.lineLength l,
          doc.isComment l column = false) →
        ∀ later ≥ found.stop, stmt.isFillerAt doc later = true) := by
  intro doc
  have habove : doc.statementAbove? rules (line + 1) = some stmt := hstmt
  have hordered : stmt.Ordered := (Document.isStatement_of_statementAbove? habove).ordered
  obtain ⟨found, hfound, hmatch⟩ := List.any_eq_true.mp hends
  obtain ⟨hcode, hreaches⟩ := Bool.and_eq_true_iff.mp hmatch
  refine ⟨found, hfound, hcode, ?_⟩
  rcases Bool.or_eq_true_iff.mp hreaches with hstop | hcomment
  · have hfiller (later : Nat) (hge : later ≥ found.stop) : stmt.isFillerAt doc later = true :=
      Statement.isFillerAt_of_ge (beq_iff_eq.mp hstop ▸ hge)
    exact ⟨fun later hge _ => hfiller later hge, fun _ => hfiller⟩
  · refine ⟨fun later hge => Statement.isFillerAt_of_isCommentAt hordered hcomment hge,
      fun hclear later hge => ?_⟩
    -- The comment can only be on the last line, and so can all that follows it.
    have hlast : stmt.stop ≤ (stmt.positionAt doc found.stop).line := by
      by_contra habove
      have hnone := hclear _ (Statement.le_line_walk _ _ _ _) (Nat.lt_of_not_le habove) _
        (Document.lt_of_isComment hcomment)
      exact Bool.false_ne_true (hnone.symm.trans hcomment)
    have hbelow := (Statement.walk_mono doc (stmt.stop - stmt.start) stmt.start hge).1
    have hle := Statement.line_positionAt_le hordered doc later
    exact Statement.isFillerAt_of_isCommentAt hordered hcomment hge
      (Nat.le_antisymm (hle.trans hlast) hbelow)

/-- A block behind a call that is wrapped: only the last line has a comment. -/
theorem endsWith_match_ends_line_call :
    let doc := Document.ofLines (["call(a,", "b) do |x| # each", "y"].map String.toList) 8
    let stmt : Statement := ⟨0, 1⟩
    doc.previousStatement? .default 1 = some stmt ∧
      stmt.endsWith doc Rules.default.blockOpenerTail = true ∧
      ∃ found ∈ Rules.default.blockOpenerTail.allMatches (stmt.content doc),
        stmt.isCodeAt doc found.start = true ∧
          ∀ later ≥ found.stop, stmt.isFillerAt doc later = true := by
  intro doc stmt
  have hstmt : doc.previousStatement? .default 1 = some stmt := by decide +kernel
  have hends : stmt.endsWith doc Rules.default.blockOpenerTail = true := by decide +kernel
  obtain ⟨found, hfound, hcode, -, hclear⟩ :=
    endsWith_match_ends_line .default _ 8 1 stmt hstmt _ hends
  refine ⟨hstmt, hends, found, hfound, hcode, hclear fun l _ hlt => ?_⟩
  obtain rfl : l = 0 := Nat.lt_one_iff.mp hlt
  decide +kernel

/-- A comma before a comment counts as the end of a statement although the statement
goes on below the comment. -/
theorem comma_before_comment_is_no_end :
    let doc := Document.ofLines (["foo(a, # first", "b)"].map String.toList) 8
    let stmt : Statement := ⟨0, 1⟩
    doc.previousStatement? .default 1 = some stmt ∧
      stmt.endsWith doc Rules.default.trailingComma = true ∧
      ¬ ∃ found ∈ Rules.default.trailingComma.allMatches (stmt.content doc),
        stmt.isCodeAt doc found.start = true ∧
          ∀ later ≥ found.stop, stmt.isFillerAt doc later = true := by
  intro doc stmt
  refine ⟨by decide +kernel, by decide +kernel, ?_⟩
  rintro ⟨found, hfound, -, hfiller⟩
  have hmatches : Rules.default.trailingComma.allMatches (stmt.content doc) =
      [⟨5, 7, []⟩] := by decide +kernel
  rw [hmatches, List.mem_singleton] at hfound
  subst hfound
  exact absurd (hfiller 15 (by decide)) (by decide +kernel)

end Reindent
