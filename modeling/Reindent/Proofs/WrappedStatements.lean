import Reindent.Proofs.Columns
import Reindent.Proofs.Frame
import Reindent.Proofs.Segments
import Reindent.Proofs.Structure

/-!
# Wrapped statements

The second line of a statement that is wrapped outside of brackets is indented
twice, and each later one follows the line of code above it. So in a document
without any indent a pass brings all lines of the statement but the first to one
column. The pass rewrites the lines above while it goes; since it keeps the
structure of the document, each line still finds its statement, whose first
line has its place by then.

This is about rows that the lexer made. A row that was set from outside is lost
when the pass moves its line, and with it the statement may fall apart. Lines of
white space only are passed over, even where they count as code.
-/

namespace Reindent

-- ---------------------------------------------------------------------------
-- The document that a pass finds at a line
-- ---------------------------------------------------------------------------

namespace Indenter

variable {indenter : Indenter} {doc : Document} {line : Nat}

/-- The state in which a pass over all lines comes to a line. -/
def reached (indenter : Indenter) (doc : Document) (line : Nat) : Document × Nat :=
  (List.range line).foldl indenter.indentStep (doc, 0)

theorem reached_succ (indenter : Indenter) (doc : Document) (line : Nat) :
    indenter.reached doc (line + 1) = indenter.indentStep (indenter.reached doc line) line := by
  simp [reached, List.range_succ]

theorem reached_eq_indentLines (h : line < doc.lineCount) :
    indenter.reached doc (line + 1) = indenter.indentLines doc 0 line := by
  rw [reached, indentLines, Nat.min_eq_left h, Nat.sub_zero, List.range_eq_range']

theorem line_reached (indenter : Indenter) (doc : Document) (line : Nat) :
    (indenter.reached doc line).1.line line = doc.line line :=
  line_foldl_indentStep_of_notMem (by simp) (doc, 0)

theorem sameBodies_reached (indenter : Indenter) (doc : Document) (line : Nat) :
    doc.SameBodies (indenter.reached doc line).1 :=
  sameBodies_foldl_indentStep (List.range line) (doc, 0)

theorem agreeAbove_reached (h : line ≤ doc.lineCount) :
    AgreeAbove line (indenter.reached doc line).1 (indenter.indentAll doc).1 := by
  obtain ⟨rest, hrest⟩ := Nat.exists_eq_add_of_le h
  rw [indentAll_eq, hrest, List.range_add, List.foldl_append]
  refine agreeAbove_foldl_indentStep ?_ (indenter.reached doc line)
  simp

theorem firstVirtualColumn_indentStep {state : Document × Nat} {column : Nat}
    (htab : state.1.tabWidth = max indenter.settings.tabWidth 1)
    (hlt : line < state.1.lineCount) (hwhite : Text.isAllWhiteSpace (state.1.line line) = false)
    (hanswer : indenter.answer state.1 line = .setIndent column) (hcolumn : column ≤ maxIndent) :
    (indenter.indentStep state line).1.firstVirtualColumn line = some column := by
  rw [indenter.indentStep_eq hlt hwhite, hanswer]
  exact Document.firstVirtualColumn_apply_setIndent htab hlt (Text.body_ne_nil hwhite) hcolumn

theorem answer_eq_indentContinuation {above : Statement}
    (habove : doc.statementAbove? indenter.rules line = some above)
    (hverbatim : doc.isVerbatim indenter.rules line = false)
    (hanchor : doc.lastAnchor? ⟨line, 0⟩ = none)
    (hjoins : doc.joins indenter.rules above.stop line = true) :
    indenter.answer doc line =
      doc.indentContinuation above line indenter.settings.indentWidth .manual := by
  simp [answer, Document.directiveFor, Document.acceptsTrigger, habove, hverbatim, hanchor, hjoins]

end Indenter

-- ---------------------------------------------------------------------------
-- Lines of code
-- ---------------------------------------------------------------------------

namespace Document

variable {doc : Document} {line : Nat}

theorem body_ne_nil_of_isCodeLine (h : doc.isCodeLine line = true) :
    Text.body (doc.line line) ≠ [] := by
  rw [isCodeLine_eq, Bool.and_eq_true] at h
  simpa using h.1

theorem margin_lt_lineLength (h : doc.isCodeLine line = true) :
    doc.margin line < doc.lineLength line := by
  have hpos := Text.byteLength_pos (body_ne_nil_of_isCodeLine h)
  rw [Shifted.lineLength_eq]
  omega

theorem isVerbatim_eq_false (hlexed : Lexed (fun _ => False) 0 .start doc.lines)
    (hcode : doc.isCodeLine line = true)
    (hhere : doc.attributeAt line (doc.margin line) ≠ .hereDocument) :
    doc.isVerbatim .default line = false := by
  have hlt := lt_lineCount_of_isCodeLine hcode
  have hbody := body_ne_nil_of_isCodeLine hcode
  obtain ⟨x, hx⟩ : ∃ x, doc.lines[line]? = some x := ⟨_, List.getElem?_eq_getElem hlt⟩
  obtain ⟨hstart, hrow⟩ := hlexed.of_getElem? hx
  have hproper : x.start.Proper := hstart ▸ LexState.proper_after LexState.proper_start _
  by_cases hscans : x.start.Scans x.text
  case pos =>
    have hplain := SourceLine.not_isEmbedded_of_scans hproper (hrow id) hscans
    rw [isVerbatim, previousNonBlankLine?_self hlt hbody, Option.any_some, attributeAt_eq hx]
    have hmem {kind : Attribute} (hlast : x.row.at (doc.lineLength line - 1) = kind)
        (hkind : kind ≠ .normal) : kind ∈ x.row :=
      List.mem_of_getElem? (Row.getElem?_of_at hlast hkind)
    cases hlast : x.row.at (doc.lineLength line - 1) with
    | normal | comment | string => decide
    | hereDocument => exact absurd (.inr (.inr (.inl (hmem hlast (by decide))))) hplain
    | blockComment => exact absurd (.inr (.inr (.inr (hmem hlast (by decide))))) hplain
  case neg =>
    -- The whole line has one attribute, which makes it a comment or a here document.
    obtain ⟨kind, hkind, hfilled⟩ := LexState.row_of_not_scans hscans
    have hfirst : doc.attributeAt line (doc.margin line) = kind := by
      have hmargin := margin_lt_lineLength hcode
      rw [lineLength, line_eq hx] at hmargin
      rw [attributeAt_eq hx, hrow id, hfilled, Row.at_replicate hmargin]
    rw [isCodeLine_eq, hfirst] at hcode
    rw [hfirst] at hhere
    cases kind with
    | hereDocument => exact absurd rfl hhere
    | blockComment => simp [Attribute.isComment] at hcode
    | normal | comment | string => simp [Attribute.isEmbedded] at hkind

theorem isAllWhiteSpace_eq_false_of_joins {below : Nat}
    (hanchor : doc.lastAnchor? ⟨line + 1, 0⟩ = none)
    (h : doc.joins .default line below = true) : Text.isAllWhiteSpace (doc.line line) = false := by
  by_contra hwhite
  rw [Bool.not_eq_false] at hwhite
  have hbackslash : Text.endsInBackslash (doc.line line) = false := by
    rw [Text.endsInBackslash, beq_eq_false_iff_ne]
    intro hlast
    have hbackslash := List.all_eq_true.mp hwhite _ (List.mem_of_getLast? hlast)
    exact absurd hbackslash (by decide)
  have hcontent : (Statement.singleLine line).content doc = doc.line line := by
    simp [Statement.content, Statement.lineNumbers, Statement.singleLine, Statement.joined,
      hbackslash]
  have hends : (Statement.singleLine line).endsWith doc Rules.default.continuation = false := by
    rw [Statement.endsWith_eq, hcontent]
    exact Pattern.reachesEnd_of_isAllWhiteSpace (by decide +kernel) hwhite
  simp [joins, continues, endsInBackslash, hbackslash, hanchor, hends] at h

end Document

-- ---------------------------------------------------------------------------
-- One line and all lines
-- ---------------------------------------------------------------------------

/-- A continuation of a statement that is at its place goes to one column past the
first line, for the first continuation as well as for later ones. -/
theorem Document.indentContinuation_eq {doc : Document} {above : Statement}
    {line column indentWidth : Nat} (hordered : above.start ≤ above.stop)
    (hfirst : doc.firstVirtualColumn above.start = some column)
    (hlater : above.start < above.stop →
      doc.firstVirtualColumn above.stop = some (column + 2 * indentWidth))
    (hline : doc.firstVirtualColumn line = some 0) :
    doc.indentContinuation above line indentWidth .manual =
      .setIndent (column + 2 * indentWidth) := by
  rcases Nat.eq_or_lt_of_le hordered with hsame | hlt
  · have hsingle : above.isSingleLine = true := by simp [Statement.isSingleLine, hsame]
    have hright : doc.startsRightOf line above.stop = false := by
      simp [startsRightOf, hline, ← hsame, hfirst]
    simp [indentContinuation, hsingle, hright, Statement.indent, hfirst, Nat.mul_comm]
  · have hseveral : above.isSingleLine = false := by
      simp [Statement.isSingleLine, Nat.ne_of_lt hlt]
    simp [indentContinuation, hseveral, hlater hlt]

/-- A statement whose lines are outside of brackets and of here documents. -/
structure Document.Wrapped (doc : Document) (stmt : Statement) : Prop where
  isStatement : doc.IsStatement .default stmt
  outside : ∀ l, stmt.start ≤ l → l ≤ stmt.stop → doc.lastAnchor? ⟨l, 0⟩ = none
  plain : ∀ l, stmt.start ≤ l → l ≤ stmt.stop → ∀ column < doc.lineLength l,
    doc.attributeAt l column ≠ .hereDocument

section
variable {texts : List Text} {settings : Settings} {before : Document} {stmt : Statement}
  {above line column : Nat}
variable (hbefore : before = .ofLines texts settings.tabWidth)
  (hmargins : ∀ text ∈ texts, Text.leadingBlanks text = [])
include hbefore hmargins

/-- What a pass over a document without any indent finds at a line: the lines above
have other blanks by then, but no line is lexed in another way. -/
theorem Indenter.shifted_reached (hpos : 0 < line) (hlt : line < before.lineCount) :
    let mid := (Indenter.reached ⟨.default, settings⟩ before line).1
    Lexed (fun _ => False) 0 .start mid.lines ∧ before.Shifted mid := by
  intro mid
  have hbegin : NoIndentedBegin texts := fun text hmem hne => absurd (hmargins text hmem) hne
  have hkeeps : Rules.default.KeepsEmbedded := Rules.keepsEmbedded_of_mem (by decide) (by decide)
  obtain ⟨last, rfl⟩ := Nat.exists_eq_add_one.mpr hpos
  have hmid : mid = (Indenter.indentLines ⟨.default, settings⟩ before 0 last).1 := by
    rw [← reached_eq_indentLines (Nat.lt_of_succ_lt hlt)]
  rw [hmid, hbefore]
  exact ⟨(reindented_indentLines hbegin hkeeps _ 0 last).1,
    (shifted_indentLines ⟨.default, settings⟩ hbegin hkeeps _ 0 last).imp fun _ _ h => h.1⟩

theorem Indenter.firstVirtualColumn_reached (indenter : Indenter) (hcode : before.isCodeLine line = true) :
    (indenter.reached before line).1.firstVirtualColumn line = some 0 := by
  have hline := indenter.line_reached before line
  have hmargin : Text.leadingBlanks (before.line line) = [] := by
    rw [Document.line_eq_texts, hbefore, Document.texts_ofLines]
    cases hget : texts[line]? with
    | none => rfl
    | some text => exact hmargins text (List.mem_of_getElem? hget)
  have hbody := Document.body_ne_nil_of_isCodeLine hcode
  rw [Document.firstVirtualColumn_eq (hline ▸ hbody), hline, hmargin]
  rfl

namespace Document.Wrapped

theorem answer_reached (h : before.Wrapped stmt) (hn : before.Neighbours above line)
    (hstart : stmt.start ≤ above) (hstop : line ≤ stmt.stop) :
    let indenter : Indenter := ⟨.default, settings⟩
    let mid := (indenter.reached before line).1
    indenter.answer mid line =
      mid.indentContinuation ⟨stmt.start, above⟩ line settings.indentWidth .manual := by
  intro indenter mid
  have hlt := lt_lineCount_of_isCodeLine hn.code_below
  have hpos : 0 < line := Nat.zero_lt_of_lt hn.lt
  have hinside : stmt.start ≤ line := hstart.trans hn.lt.le
  obtain ⟨hlexed, hshifted⟩ := Indenter.shifted_reached hbefore hmargins hpos hlt
  apply Indenter.answer_eq_indentContinuation
  · -- The statement above is the part of this one that is above the line.
    have habove : before.statementAbove? .default line = some ⟨stmt.start, above⟩ := by
      rw [statementAbove?_eq, hn.codeLineAbove?, Option.map_some,
        h.isStatement.statementStart_eq above hstart (hn.lt.le.trans hstop) hn.code_above]
    obtain ⟨last, rfl⟩ := Nat.exists_eq_add_one.mpr hpos
    rw [← habove]
    exact (hshifted.previousStatement? last).symm
  · refine isVerbatim_eq_false hlexed (hshifted.isCodeLine line ▸ hn.code_below) ?_
    rw [← Nat.add_zero (mid.margin line), ← hshifted.attributeAt]
    exact h.plain line hinside hstop _ (margin_lt_lineLength hn.code_below)
  · rcases rel_cases (hshifted.lastAnchor? line) with ⟨-, hnone⟩ | ⟨x, -, hsome, -⟩
    · exact hnone
    · simp [h.outside line hinside hstop] at hsome
  · rw [← hshifted.joins]
    exact h.isStatement.joined above line hn hstart hstop

/-- A line of a wrapped statement goes to the column past the first line, if the line of
code above is there or is the first itself. -/
theorem firstVirtualColumn_of_above (h : before.Wrapped stmt) (hn : before.Neighbours above line)
    (hstart : stmt.start ≤ above) (hstop : line ≤ stmt.stop)
    (hwhite : Text.isAllWhiteSpace (before.line line) = false)
    (hbound : column + 2 * settings.indentWidth ≤ maxIndent) :
    let after := (Indenter.indentAll ⟨.default, settings⟩ before).1
    after.firstVirtualColumn stmt.start = some column →
    (stmt.start < above →
      after.firstVirtualColumn above = some (column + 2 * settings.indentWidth)) →
    after.firstVirtualColumn line = some (column + 2 * settings.indentWidth) := by
  intro after hfirst hlater
  let indenter : Indenter := ⟨.default, settings⟩
  have hlt := lt_lineCount_of_isCodeLine hn.code_below
  have hline := indenter.line_reached before line
  have hbodies := indenter.sameBodies_reached before line
  have hmid : AgreeAbove line (indenter.reached before line).1 after :=
    Indenter.agreeAbove_reached hlt.le
  have hnext : AgreeAbove (line + 1) (indenter.reached before (line + 1)).1 after :=
    Indenter.agreeAbove_reached hlt
  have hanswer : indenter.answer (indenter.reached before line).1 line =
      .setIndent (column + 2 * settings.indentWidth) := by
    rw [answer_reached hbefore hmargins h hn hstart hstop]
    refine indentContinuation_eq hstart ?_ ?_ ?_
    · exact (hmid.firstVirtualColumn (Nat.lt_of_le_of_lt hstart hn.lt)).trans hfirst
    · exact fun hbelow => (hmid.firstVirtualColumn hn.lt).trans (hlater hbelow)
    · exact Indenter.firstVirtualColumn_reached hbefore hmargins indenter hn.code_below
  have htab : (indenter.reached before line).1.tabWidth = max settings.tabWidth 1 :=
    hbodies.tabWidth.trans (hbefore ▸ rfl)
  rw [← hnext.firstVirtualColumn (Nat.lt_succ_self line), Indenter.reached_succ]
  exact Indenter.firstVirtualColumn_indentStep htab (hbodies.lineCount ▸ hlt) (hline ▸ hwhite)
    hanswer hbound

theorem firstVirtualColumn_later (h : before.Wrapped stmt) (hcode : before.isCodeLine line = true)
    (hbound : column + 2 * settings.indentWidth ≤ maxIndent) :
    let after := (Indenter.indentAll ⟨.default, settings⟩ before).1
    after.firstVirtualColumn stmt.start = some column →
    stmt.start < line → line ≤ stmt.stop → Text.isAllWhiteSpace (before.line line) = false →
    after.firstVirtualColumn line = some (column + 2 * settings.indentWidth) := by
  intro after hfirst
  -- By induction on the lines of code; the first one of the statement is the base.
  refine induction_codeLine (P := fun line => stmt.start < line → line ≤ stmt.stop →
    Text.isAllWhiteSpace (before.line line) = false →
    after.firstVirtualColumn line = some (column + 2 * settings.indentWidth)) ?_ ?_ hcode
  · intro line _ hnone hstart _ _
    obtain ⟨above, hfound, -⟩ := exists_codeLineAbove? h.isStatement.code_start hstart
    simp [hfound] at hnone
  · intro above line hn ih hstart hstop hwhite
    have habove := hn.le_above h.isStatement.code_start hstart
    refine firstVirtualColumn_of_above hbefore hmargins h hn habove hstop hwhite hbound hfirst ?_
    intro hlt
    have hjoins := h.isStatement.joined above line hn habove hstop
    have hnext : above + 1 ≤ stmt.stop := Nat.le_trans hn.lt hstop
    have houtside := h.outside (above + 1) (habove.trans (Nat.le_succ above)) hnext
    exact ih hlt (hn.lt.le.trans hstop) (isAllWhiteSpace_eq_false_of_joins houtside hjoins)

end Document.Wrapped

end

/-- In a document without any indent, a pass with the default rules puts the lines of a
wrapped statement into one column, two levels past its first line. -/
theorem indentAll_wraps_flush (rules : Rules) (hrules : Config.default.compile = .ok rules)
    (settings : Settings) (texts : List Text)
    (hmargins : ∀ text ∈ texts, Text.leadingBlanks text = []) (line : Nat) (stmt : Statement)
    (column : Nat) :
    let before := Document.ofLines texts settings.tabWidth
    let after := (Indenter.indentAll ⟨rules, settings⟩ before).1
    before.previousStatement? rules line = some stmt →
    (∀ l, stmt.start ≤ l → l ≤ stmt.stop → before.lastAnchor? ⟨l, 0⟩ = none) →
    (∀ l, stmt.start ≤ l → l ≤ stmt.stop → ∀ i < before.lineLength l,
      before.attributeAt l i ≠ .hereDocument) →
    after.firstVirtualColumn stmt.start = some column →
    column + 2 * settings.indentWidth ≤ maxIndent →
    ∀ l, stmt.start < l → l ≤ stmt.stop → before.isCodeLine l = true →
      Text.isAllWhiteSpace (before.line l) = false →
      after.firstVirtualColumn l = some (column + 2 * settings.indentWidth) := by
  intro before after hstmt houtside hplain hfirst hbound l hstart hstop hcode hwhite
  obtain rfl := Rules.eq_default hrules
  have habove : before.statementAbove? .default (line + 1) = some stmt := hstmt
  have hwrapped : before.Wrapped stmt :=
    ⟨Document.isStatement_of_statementAbove? habove, houtside, hplain⟩
  exact hwrapped.firstVirtualColumn_later rfl hmargins hcode hbound hfirst hstart hstop hwhite

/-- A sum in the body of a method, with a comment, a blank line and a backslash in it,
indented with tabs. -/
theorem indentAll_wraps_flush_sum :
    let before := Document.ofLines
      (["def f", "x = 1 +", "# two", "", "2 \\", "* 3"].map String.toList) 4
    let after := (Indenter.indentAll ⟨.default, ⟨4, 3, false⟩⟩ before).1
    before.previousStatement? .default 5 = some ⟨1, 5⟩ ∧
      after.firstVirtualColumn 1 = some 3 ∧ after.firstVirtualColumn 4 = some 9 ∧
      after.firstVirtualColumn 5 = some 9 ∧ after.line 5 = "\t\t * 3".toList := by
  intro before after
  have hstmt : before.previousStatement? .default 5 = some ⟨1, 5⟩ := by decide +kernel
  have hfirst : after.firstVirtualColumn 1 = some 3 := by decide +kernel
  have houtside : ∀ l < 6, before.lastAnchor? ⟨l, 0⟩ = none := by decide +kernel
  have hplain : ∀ l < 6, ∀ i < before.lineLength l, before.attributeAt l i ≠ .hereDocument := by
    decide +kernel
  have hflush := indentAll_wraps_flush .default Config.compile_default ⟨4, 3, false⟩
    (["def f", "x = 1 +", "# two", "", "2 \\", "* 3"].map String.toList) (by decide) 5 ⟨1, 5⟩ 3
    hstmt (fun l _ hl => houtside l (Nat.lt_succ_of_le hl))
    (fun l _ hl => hplain l (Nat.lt_succ_of_le hl)) hfirst (by decide)
  exact ⟨hstmt, hfirst, hflush 4 (by decide) (by decide) (by decide +kernel) (by decide +kernel),
    hflush 5 (by decide) (by decide) (by decide +kernel) (by decide +kernel), by decide +kernel⟩

/-- A row that was set from outside joins two lines until the pass moves the first of
them, and a line of white space that is no blank continues a statement but keeps its
place. -/
theorem indentAll_leaves_wrapped_line :
    (let before := (Document.ofLines (["def f", "x # +", "y"].map String.toList) 8).setRow 1
        (List.replicate 5 .normal)
      let after := (Indenter.indentAll ⟨.default, .default⟩ before).1
      (∀ text ∈ before.texts, Text.leadingBlanks text = []) ∧
        before.previousStatement? .default 2 = some ⟨1, 2⟩ ∧
        (∀ l < 3, before.lastAnchor? ⟨l, 0⟩ = none ∧
          ∀ i < before.lineLength l, before.attributeAt l i ≠ .hereDocument) ∧
        after.firstVirtualColumn 1 = some 2 ∧ 2 + 2 * 2 ≤ maxIndent ∧
        before.isCodeLine 2 = true ∧ after.firstVirtualColumn 2 ≠ some (2 + 2 * 2)) ∧
    (let before := Document.ofLines (["x = 1 +", "\u00a0"].map String.toList) 8
      let after := (Indenter.indentAll ⟨.default, .default⟩ before).1
      (∀ text ∈ before.texts, Text.leadingBlanks text = []) ∧
        before.previousStatement? .default 1 = some ⟨0, 1⟩ ∧
        (∀ l < 2, before.lastAnchor? ⟨l, 0⟩ = none ∧
          ∀ i < before.lineLength l, before.attributeAt l i ≠ .hereDocument) ∧
        after.firstVirtualColumn 0 = some 0 ∧ 0 + 2 * 2 ≤ maxIndent ∧
        before.isCodeLine 1 = true ∧ after.firstVirtualColumn 1 ≠ some (0 + 2 * 2)) := by
  constructor
  · intro before after
    exact ⟨by decide, by decide +kernel, by decide +kernel, by decide +kernel, by decide,
      by decide +kernel, by decide +kernel⟩
  · intro before after
    exact ⟨by decide, by decide +kernel, by decide +kernel, by decide +kernel, by decide,
      by decide +kernel, by decide +kernel⟩

end Reindent
