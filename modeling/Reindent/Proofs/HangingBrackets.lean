import Reindent.Proofs.BracketPlacement

/-!
# Lines inside a hanging bracket

A bracket hangs when it ends its line and no other bracket is open around it.
The lines inside it are placed by the line of the bracket. A line goes back to
it only if there is code between the two lines and no comma at the end of that
code. The line itself does not count, so a closing bracket goes back to its
opener after a last element without a comma, and goes one step past it after a
comma or when the brackets are empty.
-/

namespace Reindent

-- ---------------------------------------------------------------------------
-- The comma at the end
-- ---------------------------------------------------------------------------

/-- Whether the text from an offset on is white space up to its end or to a comment. -/
def Text.fadesOut (kinds : Nat → Attribute) (offset : Nat) (text : Text) : Bool :=
  isAllWhiteSpace text ||
    (kinds (offset + byteLength (text.takeWhile Unicode.isWhiteSpace))).isComment

theorem Cursor.offset_advance {place : Cursor} {front rest : Text}
    (h : place.after = front ++ rest) :
    (place.advance front.length).offset = place.offset + Text.byteLength front := by
  induction front generalizing place with
  | nil => rfl
  | cons c front ih =>
    have hafter : place.step.after = front ++ rest := by simp [h]
    rw [List.length_cons, advance_succ, ih hafter, offset_step h, Text.byteLength,
      Nat.add_assoc]

theorem Cursor.isStop_skip (kinds : Nat → Attribute) (place : Cursor) :
    (place.skip .whiteSpace).isStop kinds = Text.fadesOut kinds place.offset place.after := by
  have hsplit : place.after = place.after.takeWhile Unicode.isWhiteSpace ++
      place.after.dropWhile Unicode.isWhiteSpace := List.takeWhile_append_dropWhile.symm
  have hoffset : (place.skip .whiteSpace).offset = place.offset +
      Text.byteLength (place.after.takeWhile Unicode.isWhiteSpace) := offset_advance hsplit
  have hafter : (place.skip .whiteSpace).after = place.after.dropWhile Unicode.isWhiteSpace :=
    after_skip place .whiteSpace
  rw [isStop_eq, hoffset, hafter, Text.fadesOut, Text.isAllWhiteSpace]
  congr 1
  rw [Bool.eq_iff_iff, List.isEmpty_iff, List.dropWhile_eq_nil_iff, List.all_eq_true]

namespace Pattern

variable {kinds : Nat → Attribute} {place : Cursor}

theorem reachesEnd_skip {pattern : Pattern} (hleads : pattern.leads = true) :
    pattern.reachesEnd kinds (place.skip .whiteSpace) = pattern.reachesEnd kinds place := by
  rw [reachesEnd, reachesEnd, matchesAt_skip hleads, Cursor.skip, Cursor.finish_advance]

theorem reachesEnd_bare (pattern : Pattern) :
    pattern.reachesEnd kinds place.bare = pattern.reachesEnd kinds place := rfl

theorem reachesEnd_iff_exists {pattern : Pattern} (hconsumes : pattern.Consumes)
    (Found : Option Char → Nat → Text → Prop)
    (hstep : ∀ next : Cursor, next.after <:+ place.after → next.after ≠ [] →
      (pattern.reachesEnd kinds next = true ↔
        Found next.before next.offset next.after ∨ pattern.reachesEnd kinds next.step = true)) :
    pattern.reachesEnd kinds place = true ↔
      ∃ front text, place.after = front ++ text ∧ text ≠ [] ∧
        Found (front.getLast?.or place.before) (place.offset + Text.byteLength front) text := by
  induction place using Cursor.induction_after with
  | stop place hnil =>
    rw [reachesEnd_of_nil hconsumes hnil, hnil]
    refine iff_of_false Bool.false_ne_true ?_
    rintro ⟨front, text, heq, hne, -⟩
    exact hne (List.append_eq_nil_iff.mp heq.symm).2
  | more place hne ih =>
    obtain ⟨c, rest, hafter⟩ := List.exists_cons_of_ne_nil hne
    have hrest : place.step.after = rest := by simp [hafter]
    have hbefore : place.step.before = some c := by rw [Cursor.step, hafter]
    have hlater : place.step.after <:+ place.after := by
      rw [hrest, hafter]
      exact List.suffix_cons c rest
    have hlast (front : Text) :
        (c :: front).getLast?.or place.before = front.getLast?.or (some c) := by
      rw [List.getLast?_cons]
      cases front.getLast? <;> rfl
    rw [hstep place List.suffix_rfl hne, ih fun next h => hstep next (h.trans hlater), hrest,
      hbefore, Cursor.offset_step hafter, hafter]
    constructor
    · rintro (hhere | ⟨front, text, rfl, htext, hfound⟩)
      · exact ⟨[], c :: rest, rfl, List.cons_ne_nil c rest, hhere⟩
      · refine ⟨c :: front, text, rfl, htext, ?_⟩
        rwa [hlast, Text.byteLength, ← Nat.add_assoc]
    · rintro ⟨front, text, heq, htext, hfound⟩
      cases front with
      | nil =>
        obtain rfl : c :: rest = text := heq
        exact .inl hfound
      | cons d front =>
        obtain ⟨rfl, rfl⟩ := List.cons.inj heq
        rw [hlast, Text.byteLength, ← Nat.add_assoc] at hfound
        exact .inr ⟨front, text, rfl, htext, hfound⟩

/-- The search tries every comma, since the white space behind one holds no other. -/
theorem reachesEnd_trailingComma_cons {c : Char} {text : Text} (h : place.after = c :: text) :
    Rules.default.trailingComma.reachesEnd kinds place =
      (c == ',' && ((kinds place.offset).isCode && Text.fadesOut kinds (place.offset + 1) text) ||
        Rules.default.trailingComma.reachesEnd kinds place.step) := by
  have hleads : Rules.default.trailingComma.leads = true := by decide +kernel
  have hconsumes := consumes_of_leads hleads
  have hbare : place.bare.after = c :: text := h
  have hends : (Rules.default.trailingComma.ends place.bare).head? =
      ((Pattern.char (.single ',')).ends place.bare).head?.map fun last => last.skip .whiteSpace :=
    head?_ends_seq_star _ _ _
  have hsees : place.bare.sees (.single ',') = (c == ',') := by
    rw [Cursor.sees_of_cons hbare, Bool.eq_iff_iff, CharSet.contains_single, beq_iff_eq]
  rw [ends_char, hsees] at hends
  cases hc : c == ',' with
  | false =>
    rw [hc, if_neg Bool.false_ne_true] at hends
    rw [reachesEnd_of_none hconsumes (by simp [h]) hends, Bool.false_and, Bool.false_or]
  | true =>
    obtain rfl := beq_iff_eq.mp hc
    have hsize : ','.utf8Size = 1 := rfl
    rw [hc, if_pos rfl] at hends
    rw [reachesEnd_of_some hconsumes hends, reachesEnd_skip hleads, Cursor.isStop_skip,
      Cursor.offset_step hbare, hsize, Cursor.offset_bare, Cursor.after_step, hbare,
      ← Cursor.bare_step, reachesEnd_bare, List.tail_cons, Bool.true_and]

theorem reachesEnd_trailingComma_iff : Rules.default.trailingComma.reachesEnd kinds place = true ↔
    ∃ front rest, place.after = front ++ ',' :: rest ∧
      (kinds (place.offset + Text.byteLength front)).isCode = true ∧
      Text.fadesOut kinds (place.offset + Text.byteLength front + 1) rest = true := by
  have hconsumes : Rules.default.trailingComma.Consumes := consumes_of_leads (by decide +kernel)
  rw [reachesEnd_iff_exists hconsumes fun _ offset text => ∃ rest, text = ',' :: rest ∧
    (kinds offset).isCode = true ∧ Text.fadesOut kinds (offset + 1) rest = true]
  · constructor
    · rintro ⟨front, _, heq, -, rest, rfl, hfound⟩
      exact ⟨front, rest, heq, hfound⟩
    · rintro ⟨front, rest, heq, hfound⟩
      exact ⟨front, ',' :: rest, heq, List.cons_ne_nil _ _, rest, rfl, hfound⟩
  · intro next _ hne
    obtain ⟨c, text, hafter⟩ := List.exists_cons_of_ne_nil hne
    rw [reachesEnd_trailingComma_cons hafter, hafter]
    simp [and_comm]

end Pattern

/-- A comma of the code with only white space between it and the end of the
statement's text or a comment, which may be on any line of the statement. -/
def Statement.HasFinalComma (stmt : Statement) (doc : Document) : Prop :=
  ∃ front rest, stmt.content doc = front ++ ',' :: rest ∧
    stmt.isCodeAt doc (Text.byteLength front) = true ∧
    Text.fadesOut (kindFrom doc (stmt.stop - stmt.start) stmt.start) (Text.byteLength front + 1)
      rest = true

theorem Statement.endsWith_trailingComma_iff {stmt : Statement} {doc : Document} :
    stmt.endsWith doc Rules.default.trailingComma = true ↔ stmt.HasFinalComma doc := by
  rw [endsWith_eq, Pattern.reachesEnd_trailingComma_iff]
  simp only [Cursor.start, Nat.zero_add]
  rfl

instance (stmt : Statement) (doc : Document) : Decidable (stmt.HasFinalComma doc) :=
  decidable_of_iff _ Statement.endsWith_trailingComma_iff

-- ---------------------------------------------------------------------------
-- Placing a line
-- ---------------------------------------------------------------------------

namespace Document

variable {doc : Document} {rules : Rules} {line base : Nat} {anchor : Anchor} {above : Statement}

theorem exists_firstVirtualColumn (h : doc.isCodeLine line = true) :
    ∃ base, doc.firstVirtualColumn line = some base := by
  cases hfirst : doc.firstColumn line with
  | none => simp [isCodeLine, hfirst] at h
  | some column => exact ⟨doc.virtualColumn line column, by rw [firstVirtualColumn, hfirst]; rfl⟩

def HasCodeBetween (doc : Document) (first last : Nat) : Prop :=
  ∃ m, first < m ∧ m < last ∧ doc.isCodeLine m = true

theorem line_eq_stop_iff (hbrackets : doc.BracketsInCode)
    (h : doc.lastAnchor? ⟨line, 0⟩ = some anchor)
    (habove : doc.statementAbove? rules line = some above) :
    anchor.position.line = above.stop ↔ ¬ doc.HasCodeBetween anchor.position.line line := by
  have hstop := codeLineAbove?_of_statementAbove? habove
  have nearest {m : Nat} (hcode : doc.isCodeLine m = true) (hlt : m < line) : m ≤ above.stop := by
    obtain ⟨found, hfound, hle⟩ := exists_codeLineAbove? hcode hlt
    exact Option.some.inj (hfound.symm.trans hstop) ▸ hle
  constructor
  · rintro heq ⟨m, hgt, hlt, hcode⟩
    exact absurd (nearest hcode hlt) (Nat.not_le.mpr (heq ▸ hgt))
  · intro hnone
    by_contra hne
    obtain ⟨hlt, hcode⟩ := greatestBelow?_eq_some hstop
    have hle := nearest (isCodeLine_of_lastAnchor? hbrackets h) (line_lt_of_lastAnchor? h)
    exact hnone ⟨above.stop, Nat.lt_of_le_of_ne hle hne, hlt, hcode⟩

theorem stepsPast_default_iff (hbrackets : doc.BracketsInCode)
    (h : doc.lastAnchor? ⟨line, 0⟩ = some anchor)
    (habove : doc.statementAbove? .default line = some above) :
    doc.stepsPast .default anchor above = true ↔
      ¬ doc.HasCodeBetween anchor.position.line line ∨ above.HasFinalComma doc := by
  rw [stepsPast, Bool.or_eq_true, beq_iff_eq, line_eq_stop_iff hbrackets h habove,
    Statement.endsWith_trailingComma_iff]

theorem indentInBrackets_of_hangs (hhangs : doc.hangs anchor = true)
    (hbase : doc.firstVirtualColumn anchor.position.line = some base) (indentWidth : Nat) :
    doc.indentInBrackets rules anchor above indentWidth =
      .setIndent (if doc.stepsPast rules anchor above then base + indentWidth else base) := by
  simp only [indentInBrackets, hhangs, hbase, if_true, Option.getD_some]
  split <;> rfl

/-- A line that begins with the closer of the nearest open bracket, which hangs. -/
structure ClosesHanging (doc : Document) (line : Nat) (anchor : Anchor) : Prop where
  closer : (Text.body (doc.line line)).head? = some anchor.bracket.closer
  nearest : doc.lastAnchor? ⟨line, 0⟩ = some anchor
  hangs : doc.hangs anchor = true

theorem ClosesHanging.lt_lineCount (h : doc.ClosesHanging line anchor) :
    line < doc.lineCount := by
  by_contra hge
  have hline : doc.line line = [] := by
    rw [Document.line, List.getElem?_eq_none (Nat.le_of_not_lt hge)]
    rfl
  have hcloser := h.closer
  rw [hline] at hcloser
  exact absurd hcloser (by simp [Text.body])

end Document

/-- A closing bracket of a hanging bracket goes back to the line of its opener if
there is code between the two lines and it has no comma at its end. Otherwise
it goes one step past that line like any other line inside the bracket. -/
theorem closer_of_hanging_bracket (rules : Rules) (hrules : Config.default.compile = .ok rules)
    (texts : List Text) (tabWidth indentWidth line : Nat) (anchor : Anchor)
    (hcloses : (Document.ofLines texts tabWidth).ClosesHanging line anchor)
    (hverbatim : (Document.ofLines texts tabWidth).isVerbatim rules line = false) :
    let doc := Document.ofLines texts tabWidth
    ∃ above base, doc.statementAbove? rules line = some above ∧
      doc.firstVirtualColumn anchor.position.line = some base ∧
      (doc.HasCodeBetween anchor.position.line line → ¬ above.HasFinalComma doc →
        doc.indent rules line indentWidth .manual = .setIndent base) ∧
      (¬ doc.HasCodeBetween anchor.position.line line ∨ above.HasFinalComma doc →
        doc.indent rules line indentWidth .manual = .setIndent (base + indentWidth)) := by
  intro doc
  obtain rfl := Rules.eq_default hrules
  have hbrackets := Document.bracketsInCode_ofLines texts tabWidth
  obtain ⟨stop, habove⟩ :=
    Document.statementAbove?_of_lastAnchor? .default hbrackets hcloses.nearest
  obtain ⟨base, hbase⟩ := Document.exists_firstVirtualColumn
    (Document.isCodeLine_of_lastAnchor? hbrackets hcloses.nearest)
  have hindent : doc.indent .default line indentWidth .manual = .setIndent
      (if doc.stepsPast .default anchor ⟨doc.statementStart .default anchor.position.line, stop⟩
        then base + indentWidth else base) := by
    rw [Document.indent, Document.tryIndent, if_pos hcloses.lt_lineCount,
      Document.directiveFor_eq_indentInBrackets (.inl rfl) habove hverbatim hcloses.nearest,
      Document.indentInBrackets_of_hangs hcloses.hangs hbase]
  have hsteps := Document.stepsPast_default_iff hbrackets hcloses.nearest habove
  refine ⟨_, base, habove, hbase, fun hcode hcomma => ?_, fun hpast => ?_⟩
  · have hstays := hsteps.not.mpr (not_or.mpr ⟨not_not.mpr hcode, hcomma⟩)
    rw [hindent, if_neg hstays]
  · rw [hindent, if_pos (hsteps.mpr hpast)]

/-- A list whose last element has no comma. -/
theorem closer_of_hanging_bracket_list :
    let doc := Document.ofLines (["list = [", "  1,", "  2", "  ]"].map String.toList) 8
    doc.ClosesHanging 3 ⟨⟨0, 7⟩, .square⟩ ∧ doc.firstVirtualColumn 0 = some 0 ∧
      doc.indent .default 3 2 .manual = .setIndent 0 := by
  intro doc
  have hcloses : doc.ClosesHanging 3 ⟨⟨0, 7⟩, .square⟩ :=
    ⟨by decide +kernel, by decide +kernel, by decide +kernel⟩
  have hbase : doc.firstVirtualColumn 0 = some 0 := by decide +kernel
  have habove : doc.statementAbove? .default 3 = some ⟨0, 2⟩ := by decide +kernel
  obtain ⟨above, base, hfound, hcolumn, hback, -⟩ := closer_of_hanging_bracket .default
    Config.compile_default _ 8 2 3 ⟨⟨0, 7⟩, .square⟩ hcloses (by decide +kernel)
  obtain rfl := Option.some.inj (habove.symm.trans hfound)
  obtain rfl := Option.some.inj (hbase.symm.trans hcolumn)
  exact ⟨hcloses, hbase, hback ⟨2, by decide, by decide, by decide +kernel⟩ (by decide +kernel)⟩

/-- The closer of an empty block, and the one of a list whose last element has a comma,
go one step past the lines of their openers. -/
theorem closer_misses_its_opener :
    let block := Document.ofLines (["foo \x7b", "\x7d"].map String.toList) 8
    let list := Document.ofLines (["list = [", "  1,", "  2,", "]"].map String.toList) 8
    (block.ClosesHanging 1 ⟨⟨0, 4⟩, .brace⟩ ∧ block.isCode 1 0 = true ∧
      block.isVerbatim .default 1 = false ∧ block.firstVirtualColumn 0 = some 0 ∧
      block.blockStart? .default 1 = some ⟨0, 0⟩ ∧
      block.indent .default 1 2 .manual = .setIndent 2) ∧
    list.ClosesHanging 3 ⟨⟨0, 7⟩, .square⟩ ∧ list.isCode 3 0 = true ∧
      list.isVerbatim .default 3 = false ∧ list.firstVirtualColumn 0 = some 0 ∧
      list.indent .default 3 2 .manual = .setIndent 2 := by
  intro block list
  refine ⟨⟨⟨?_, ?_, ?_⟩, ?_, ?_, ?_, ?_, ?_⟩, ⟨?_, ?_, ?_⟩, ?_, ?_, ?_, ?_⟩
  all_goals decide +kernel

end Reindent
