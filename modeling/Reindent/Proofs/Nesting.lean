import Reindent.Proofs.Columns
import Reindent.Proofs.KeywordPrograms

/-!
# Nested programs come out at their depth

A pass over a well-nested keyword program puts every line at the column that
its depth in the syntax tree asks for, wherever it stood before, and leaves
branches and ends paired with their openers. The lines above the one at hand
have been placed already: a line after an opener or a branch goes one level
further than that line, a branch or an end goes back to its opener, and any
other line stays with the line above.
-/

namespace Reindent

/-- Rules that may differ from the default ones in what is no pattern. -/
structure Rules.HasDefaultPatterns (rules : Rules) : Prop where
  blockStart : rules.blockStart = default.blockStart
  blockEnd : rules.blockEnd = default.blockEnd
  continuation : rules.continuation = default.continuation
  blockOpenerTail : rules.blockOpenerTail = default.blockOpenerTail
  trailingComma : rules.trailingComma = default.trailingComma
  looseOpener : rules.looseOpener = default.looseOpener

theorem Rules.hasDefaultPatterns_default : Rules.default.HasDefaultPatterns :=
  ⟨rfl, rfl, rfl, rfl, rfl, rfl⟩

namespace Program

-- ---------------------------------------------------------------------------
-- Statements and blocks of a program
-- ---------------------------------------------------------------------------

namespace Shows

variable {doc : Document} {lines : List Line} {i : Nat} {line : Line} {rules : Rules}

theorem joins (h : Shows doc lines) (hrules : rules.HasDefaultPatterns)
    (hline : lines[i]? = some line) (below : Nat) : doc.joins rules i below = false := by
  have hbackslash : doc.endsInBackslash i = false := by
    rw [Document.endsInBackslash, ← Text.endsInBackslash_body, h.body_line hline]
    exact line.phrase.endsInBackslash_text
  rw [Document.joins, hbackslash, Document.continues, h.lastAnchor?, hrules.continuation,
    h.endsWith hline fun _ _ => Pattern.steady_continuation, line.phrase.endsWith_continuation]
  simp

theorem isMatch_blockEnd (h : Shows doc lines) (hrules : rules.HasDefaultPatterns)
    (hline : lines[i]? = some line) :
    rules.blockEnd.isMatch (doc.line i) = line.phrase.closes := by
  rw [hrules.blockEnd, Rules.isMatch_blockEnd (h.stretch hline), line.phrase.closes_eq]

theorem opensBlock (h : Shows doc lines) (hrules : rules.HasDefaultPatterns)
    (hline : lines[i]? = some line) :
    doc.opensBlock rules (.singleLine i) = line.phrase.opens := by
  rw [Document.opensBlock, h.content hline, hrules.blockStart, hrules.blockOpenerTail,
    Rules.isMatch_blockStart (h.stretch hline),
    h.endsWith hline fun _ _ => Pattern.steady_blockOpenerTail, line.phrase.opens_eq]

theorem closesBlock (h : Shows doc lines) (hrules : rules.HasDefaultPatterns)
    (hline : lines[i]? = some line) :
    doc.closesBlock rules (.singleLine i) = line.phrase.closes := by
  rw [Document.closesBlock, h.content hline, h.isMatch_blockEnd hrules hline]

theorem isMatch_looseOpener (h : Shows doc lines) (hrules : rules.HasDefaultPatterns)
    (hline : lines[i]? = some line) :
    rules.looseOpener.isMatch ((Statement.singleLine i).content doc) = false := by
  obtain ⟨l, hl⟩ : ∃ l, doc.lines[i]? = some l :=
    ⟨_, List.getElem?_eq_getElem (h.lt_lineCount hline)⟩
  rw [hrules.looseOpener, h.content hline, Document.line_eq hl]
  exact Program.isMatch_looseOpener (h.isBracketChar_eq_false (List.mem_of_getElem? hl))

theorem statementAbove? (h : Shows doc lines) (hrules : rules.HasDefaultPatterns)
    (hline : lines[i]? = some line) :
    doc.statementAbove? rules (i + 1) = some (.singleLine i) := by
  have hcode := h.isCodeLine hline
  have habove : doc.codeLineAbove? (i + 1) = some i := by
    rw [Document.codeLineAbove?, greatestBelow?, if_pos hcode]
  have hstart : doc.statementStart rules i = i := by
    rw [Document.statementStart_eq rules hcode]
    split
    case h_1 => rfl
    case h_2 upper hupper =>
      have hlt := Nat.lt_trans (greatestBelow?_eq_some hupper).1 (h.lt_lineCount hline)
      rw [h.lineCount] at hlt
      rw [h.joins hrules (List.getElem?_eq_getElem hlt), if_neg Bool.false_ne_true]
  rw [Document.statementAbove?_eq, habove, Option.map_some, hstart]
  rfl

theorem openBlocks (h : Shows doc lines) (hrules : rules.HasDefaultPatterns) {stack : List Nat}
    (hi : i ≤ lines.length) (hsteps : Steps [] 0 (lines.take i) stack) :
    doc.openBlocks rules i = stack.map Statement.singleLine := by
  induction i generalizing stack with
  | zero =>
    cases hsteps
    exact Document.openBlocks_of_none rfl
  | succ i ih =>
    have hline := List.getElem?_eq_getElem (Nat.lt_of_succ_le hi)
    generalize lines[i] = line at hline
    obtain ⟨before, habove, step⟩ := hsteps.exists_last_step hline
    have hbefore : doc.openBlocks rules (Statement.singleLine i).start = before.map .singleLine :=
      ih (Nat.le_of_succ_le hi) habove
    rw [Document.openBlocks_of_some (h.statementAbove? hrules hline), hbefore,
      Document.blockStep, h.opensBlock hrules hline, h.closesBlock hrules hline]
    cases step <;> rfl

theorem blockStart? (h : Shows doc lines) (hrules : rules.HasDefaultPatterns) {last : List Nat}
    (hsteps : Steps [] 0 lines last) (hline : lines[i]? = some line) {opener : Nat}
    (hopener : line.opener? = some opener) :
    doc.blockStart? rules i = some (.singleLine opener) := by
  have hi : i ≤ lines.length := Nat.le_of_lt (List.getElem?_eq_some_iff.mp hline).1
  obtain ⟨stack, next, habove, step⟩ := hsteps.exists_step hline
  rw [Document.blockStart?_eq_head?, h.openBlocks hrules hi habove]
  cases step with
  | plain | opener => simp at hopener
  | branch | close =>
    obtain rfl := Option.some.inj hopener
    rfl

end Shows

namespace Step

variable {stack next : List Nat} {i : Nat} {line : Line}

theorem length_next (h : Step stack i line next) :
    next.length = line.depth + if line.phrase.opens then 1 else 0 := by
  cases h <;> rfl

theorem depth_of_not_closes (h : Step stack i line next) (hcloses : line.phrase.closes = false) :
    line.depth = stack.length := by
  cases h with
  | plain | opener => rfl
  | branch | close => simp [Phrase.closes] at hcloses

theorem exists_opener (h : Step stack i line next) (hcloses : line.phrase.closes = true) :
    ∃ opener outer, stack = opener :: outer ∧ line.opener? = some opener ∧
      line.depth = outer.length := by
  cases h with
  | plain | opener => simp [Phrase.closes] at hcloses
  | branch | close => exact ⟨_, _, rfl, rfl, rfl⟩

end Step

-- ---------------------------------------------------------------------------
-- The pass
-- ---------------------------------------------------------------------------

theorem Shows.indentStep_eq {doc : Document} {lines : List Line} {i : Nat} {line : Line}
    (h : Shows doc lines) (hline : lines[i]? = some line) (indenter : Indenter) (count : Nat) :
    (indenter.indentStep (doc, count) i).1 =
      (indenter.apply doc i (indenter.answer doc i)).1 := by
  have hwhite : Text.isAllWhiteSpace (doc.line i) = false := by
    rw [← Text.isAllWhiteSpace_body, h.body_line hline]
    exact line.phrase.isAllWhiteSpace_text
  rw [indenter.indentStep_eq (h.lt_lineCount hline) hwhite]

structure Placed (indenter : Indenter) (lines : List Line) (base n : Nat) (doc : Document) :
    Prop where
  shows : Shows doc lines
  tabWidth : doc.tabWidth = max indenter.settings.tabWidth 1
  columns : ∀ i < n, ∀ line, lines[i]? = some line →
    doc.firstVirtualColumn i = some (base + indenter.settings.indentWidth * line.depth)

namespace Placed

variable {indenter : Indenter} {lines : List Line} {base n : Nat} {doc : Document}
  {last : List Nat} {line : Line}

theorem indent (h : Placed indenter lines base n doc) {i : Nat} (hi : i < n) {upper : Line}
    (hupper : lines[i]? = some upper) :
    (Statement.singleLine i).indent doc =
      base + indenter.settings.indentWidth * upper.depth := by
  rw [Statement.indent, Statement.singleLine, h.columns i hi upper hupper, Option.getD_some]

theorem first (hshows : Shows doc lines) (htab : doc.tabWidth = max indenter.settings.tabWidth 1)
    (hsteps : Steps [] 0 lines last) (hbase : doc.firstVirtualColumn 0 = some base) :
    Placed indenter lines base 1 doc := by
  refine ⟨hshows, htab, ?_⟩
  intro i hi line hline
  obtain rfl := Nat.lt_one_iff.mp hi
  obtain ⟨stack, next, habove, step⟩ := hsteps.exists_step hline
  cases habove
  have hdepth : line.depth = 0 := by
    cases step <;> rfl
  rw [hbase, hdepth, Nat.mul_zero, Nat.add_zero]

theorem indentStep_first (h : Placed indenter lines base 1 doc) (hline : lines[0]? = some line)
    (count : Nat) : Placed indenter lines base 1 (indenter.indentStep (doc, count) 0).1 := by
  have hanswer : indenter.answer doc 0 = .noOpinion := rfl
  rw [h.shows.indentStep_eq hline, hanswer]
  exact h

variable (hrules : indenter.rules.HasDefaultPatterns)
  (hnormal : Attribute.normal.name ∉ indenter.rules.verbatimAttributes)
  (hsteps : Steps [] 0 lines last)
include hrules hsteps

theorem indentByBlock_of_closes (h : Placed indenter lines base (n + 1) doc)
    (hline : lines[n + 1]? = some line) (hcloses : line.phrase.closes = true)
    (above : Statement) (indentWidth : Nat) :
    doc.indentByBlock indenter.rules above (n + 1) indentWidth =
      .setIndent (base + indenter.settings.indentWidth * line.depth) := by
  have hlt := (List.getElem?_eq_some_iff.mp hline).1
  obtain ⟨stack, next, habove, step⟩ := hsteps.exists_step hline
  obtain ⟨opener, outer, rfl, hopener, hdepth⟩ := step.exists_opener hcloses
  obtain ⟨hbelow, first, hfirst, houter⟩ := habove.opened (Nat.le_of_lt hlt) List.suffix_rfl
  have hstart := h.shows.blockStart? hrules hsteps hline hopener
  have hindent := h.indent hbelow hfirst
  rw [houter, ← hdepth] at hindent
  simp [Document.indentByBlock, h.shows.isMatch_blockEnd hrules hline, hcloses, hstart, hindent]

/-- Any other line goes one level further than the line above if that one opens
a block or a branch, and stays with it otherwise. -/
theorem indentByBlock_of_not_closes (h : Placed indenter lines base (n + 1) doc)
    (hline : lines[n + 1]? = some line) (hcloses : line.phrase.closes = false) :
    doc.indentByBlock indenter.rules (.singleLine n) (n + 1) indenter.settings.indentWidth =
      .setIndent (base + indenter.settings.indentWidth * line.depth) := by
  have hlt := (List.getElem?_eq_some_iff.mp hline).1
  have hupper := List.getElem?_eq_getElem (Nat.lt_of_succ_lt hlt)
  generalize lines[n] = upper at hupper
  obtain ⟨stack, next, habove, step⟩ := hsteps.exists_step hline
  obtain ⟨before, -, stepUpper⟩ := habove.exists_last_step hupper
  have hdepth := stepUpper.length_next
  rw [← step.depth_of_not_closes hcloses] at hdepth
  rw [Document.indentByBlock, h.shows.isMatch_blockEnd hrules hline, hcloses,
    if_neg Bool.false_ne_true, h.shows.opensBlock hrules hupper,
    h.shows.isMatch_looseOpener hrules hupper, Bool.or_false, h.indent (Nat.lt_succ_self n) hupper]
  cases hopens : upper.phrase.opens with
  | false => simp [hopens, hdepth]
  | true =>
    rw [hopens, if_pos rfl] at hdepth
    rw [hdepth, Nat.mul_succ, ← Nat.add_assoc, if_pos rfl]

include hnormal

theorem answer_eq (h : Placed indenter lines base (n + 1) doc)
    (hline : lines[n + 1]? = some line) :
    indenter.answer doc (n + 1) =
      .setIndent (base + indenter.settings.indentWidth * line.depth) := by
  have hlt := (List.getElem?_eq_some_iff.mp hline).1
  have hupper := List.getElem?_eq_getElem (Nat.lt_of_succ_lt hlt)
  rw [Indenter.answer, Document.directiveFor_eq_indentByBlock
    (h.shows.statementAbove? hrules hupper) (h.shows.isVerbatim hline hnormal)
    (h.shows.lastAnchor? _) (h.shows.joins hrules hupper _)]
  cases hcloses : line.phrase.closes with
  | true => exact h.indentByBlock_of_closes hrules hsteps hline hcloses _ _
  | false => exact h.indentByBlock_of_not_closes hrules hsteps hline hcloses

theorem indentStep (h : Placed indenter lines base (n + 1) doc)
    (hline : lines[n + 1]? = some line)
    (hbound : base + indenter.settings.indentWidth * line.depth ≤ maxIndent) (count : Nat) :
    Placed indenter lines base (n + 2) (indenter.indentStep (doc, count) (n + 1)).1 := by
  have hlt := h.shows.lt_lineCount hline
  have hne : Text.body (doc.line (n + 1)) ≠ [] :=
    h.shows.body_line hline ▸ line.phrase.text_ne_nil
  rw [h.shows.indentStep_eq hline, h.answer_eq hrules hnormal hsteps hline]
  refine ⟨?_, ?_, ?_⟩
  · exact h.shows.setLeadingBlanks (indenter.settings.allBlank_blanks _ 0) (n + 1)
  · exact (Document.tabWidth_setLeadingBlanks _ _ _).trans h.tabWidth
  · intro i hi other hother
    rcases Nat.lt_succ_iff_lt_or_eq.mp hi with hi | rfl
    · rw [Indenter.apply, ← (doc.agreeAbove_setLeadingBlanks (n + 1) _).firstVirtualColumn hi]
      exact h.columns i hi other hother
    · obtain rfl : line = other := Option.some.inj (hline.symm.trans hother)
      exact Document.firstVirtualColumn_apply_setIndent h.tabWidth hlt hne hbound

variable
  (hbound : ∀ line ∈ lines, base + indenter.settings.indentWidth * line.depth ≤ maxIndent)
include hbound

theorem foldl_indentStep (state : Document × Nat)
    (h : Placed indenter lines base (n + 1) state.1) {count : Nat}
    (hcount : n + 1 + count ≤ lines.length) :
    Placed indenter lines base (n + 1 + count)
      ((List.range' (n + 1) count).foldl indenter.indentStep state).1 := by
  induction count generalizing n state with
  | zero => exact h
  | succ count ih =>
    have hline := List.getElem?_eq_getElem (l := lines) (i := n + 1) (by omega)
    have hplaced := h.indentStep hrules hnormal hsteps hline (hbound _ (List.mem_of_getElem? hline))
      state.2
    rw [Nat.add_comm count 1, ← Nat.add_assoc] at hcount ⊢
    rw [Nat.add_comm 1 count, List.range'_succ, List.foldl_cons]
    exact ih _ hplaced hcount

theorem indentAll (h : Placed indenter lines base 1 doc) (hne : lines ≠ []) :
    Placed indenter lines base lines.length (indenter.indentAll doc).1 := by
  obtain ⟨count, hcount⟩ := Nat.exists_eq_add_one.mpr (List.length_pos_iff.mpr hne)
  have hline := List.getElem?_eq_getElem (l := lines) (i := 0) (by omega)
  have hrange : List.range' 0 (min (count + 1 - 1 + 1) (count + 1) - 0) =
      0 :: List.range' (0 + 1) count := by
    rw [Nat.add_sub_cancel, Nat.min_self, Nat.sub_zero, List.range'_succ]
  rw [Indenter.indentAll, Indenter.indentLines, h.shows.lineCount, hcount, hrange, List.foldl_cons,
    Nat.add_comm count 1]
  refine foldl_indentStep hrules hnormal hsteps hbound _ (h.indentStep_first hline 0) ?_
  omega

end Placed

end Program

/-- Every line of a well-nested program goes to the column of its depth, and
every branch and end is paired with its opener, whatever the margins were. The
first line tells where depth zero is. Rules under which code itself is left
alone are no rules for this. -/
theorem indentAll_nesting (rules : Rules) (hrules : rules.HasDefaultPatterns)
    (hnormal : Attribute.normal.name ∉ rules.verbatimAttributes) (settings : Settings)
    (program : Program.Body) (base : Nat) :
    let lines := program.lines 0 0
    let before := Document.ofLines (lines.map Program.Line.text) settings.tabWidth
    let after := (Indenter.indentAll ⟨rules, settings⟩ before).1
    before.firstVirtualColumn 0 = some base →
    (∀ line ∈ lines, base + settings.indentWidth * line.depth ≤ maxIndent) →
    ∀ i line, lines[i]? = some line →
      after.firstVirtualColumn i = some (base + settings.indentWidth * line.depth) ∧
      ∀ opener, line.opener? = some opener →
        after.blockStart? rules i = some (.singleLine opener) := by
  intro lines before after hbase hbound i line hline
  have hsteps : Program.Steps [] 0 lines [] := program.steps [] 0
  have hfirst : Program.Placed ⟨rules, settings⟩ lines base 1 before :=
    .first (Program.shows_ofLines lines settings.tabWidth) rfl hsteps hbase
  have hne : lines ≠ [] := List.ne_nil_of_mem (List.mem_of_getElem? hline)
  have hplaced : Program.Placed ⟨rules, settings⟩ lines base lines.length after :=
    hfirst.indentAll hrules hnormal hsteps hbound hne
  refine ⟨hplaced.columns i (List.getElem?_eq_some_iff.mp hline).1 line hline, ?_⟩
  intro opener hopener
  exact hplaced.shows.blockStart? hrules hsteps hline hopener

/-- A loop in a branch, indented with tabs. The first line alone stays in place. -/
theorem indentAll_nesting_branch :
    let margin : Program.Margin := ⟨" \t ".toList, by decide⟩
    let loop : Program.Body := .block margin .whileY (.plain margin .nil) (.close margin) .nil
    let program : Program.Body :=
      .block ⟨[' '], by decide⟩ .ifX .nil (.branch margin loop (.close margin)) .nil
    let before := Document.ofLines ((program.lines 0 0).map Program.Line.text) 4
    let after := (Indenter.indentAll ⟨.default, ⟨4, 3, false⟩⟩ before).1
    before.firstVirtualColumn 0 = some 1 ∧
      after.firstVirtualColumn 3 = some 7 ∧
      after.blockStart? .default 4 = some (.singleLine 2) ∧
      after.firstVirtualColumn 5 = some 1 ∧
      after.blockStart? .default 5 = some (.singleLine 0) := by
  intro margin loop program before after
  have hlines := indentAll_nesting .default Rules.hasDefaultPatterns_default (by decide)
    ⟨4, 3, false⟩ program 1 (by decide +kernel) (by decide)
  exact ⟨by decide +kernel, (hlines 3 _ rfl).1, (hlines 4 _ rfl).2 2 rfl, (hlines 5 _ rfl).1,
    (hlines 5 _ rfl).2 0 rfl⟩

end Reindent
