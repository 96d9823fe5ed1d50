import Mathlib.Data.Nat.Find
import Reindent.Proofs.BlockStack
import Reindent.Proofs.VeiledLines

/-!
# Documents that differ in hidden text

Two documents whose lines differ in comments and in here documents only are
read alike: they have the same lines of code, the same brackets and the same
statements, and a statement opens or closes a block in one if it does in the
other. The indent of a line is the same unless it is measured from a line of
a here document. With the default rules this takes the comments to be quiet,
and the lines of here documents to be tame and idle. These may end in an open
bracket: the bracket that keeps such a line in a statement is closed below it.
-/

namespace Reindent

theorem rel_getElem? {R : SourceLine → SourceLine → Prop} {xs ys : List SourceLine}
    (h : List.Forall₂ R xs ys) (i : Nat) : Option.Rel R xs[i]? ys[i]? := by
  induction h generalizing i with
  | nil => exact .none
  | cons hline _ ih =>
    cases i with
    | zero => exact .some hline
    | succ i => exact ih i

namespace Document

variable {a b : Document} {line : Nat}

/-- A line is the same in both documents except for its comment. -/
def Keeps (a b : Document) (line : Nat) : Prop :=
  Option.Rel SourceLine.Kept a.lines[line]? b.lines[line]?

/-- The documents differ in comments and in lines of here documents only. -/
structure Veiled (a b : Document) : Prop where
  tabWidth_eq : a.tabWidth = b.tabWidth
  lines : List.Forall₂ (fun x y => x.Kept y ∨ x.Masked y) a.lines b.lines

/-- No line that is blank or begins with a comment has a bracket in code. -/
def BracketsInCode (doc : Document) : Prop :=
  ∀ line x, doc.lines[line]? = some x → doc.isCodeLine line = false →
    bracketSites line 0 x.text x.row = []

theorem body_ne_nil_of_firstColumn {text : Text} (h : (Text.firstColumn text).isSome = true) :
    Text.body text ≠ [] := by
  intro hnil
  simp [Text.firstColumn, hnil] at h

namespace Keeps

theorem cases (h : a.Keeps b line) :
    a.lines[line]? = none ∧ b.lines[line]? = none ∨
      ∃ x y, a.lines[line]? = some x ∧ b.lines[line]? = some y ∧ x.Kept y := rel_cases h

theorem firstColumn_eq (h : a.Keeps b line) : a.firstColumn line = b.firstColumn line := by
  rcases h.cases with ⟨ha, hb⟩ | ⟨x, y, ha, hb, hkept⟩
  · simp [Document.firstColumn, Document.line, ha, hb]
  · rw [Document.firstColumn, Document.firstColumn, line_eq ha, line_eq hb, Text.firstColumn,
      Text.firstColumn, hkept.isEmpty_body_eq, hkept.leadingBlanks_eq]

theorem firstVirtualColumn_eq (h : a.Keeps b line) (htab : a.tabWidth = b.tabWidth) :
    a.firstVirtualColumn line = b.firstVirtualColumn line := by
  rw [Document.firstVirtualColumn, Document.firstVirtualColumn, h.firstColumn_eq]
  refine Option.map_congr fun column hcolumn => ?_
  rcases h.cases with ⟨ha, hb⟩ | ⟨x, y, ha, hb, hkept⟩
  · simp [Document.virtualColumn, Document.line, ha, hb, htab]
  · rw [Document.firstColumn, line_eq hb, Text.firstColumn] at hcolumn
    split at hcolumn
    case isTrue => simp at hcolumn
    case isFalse =>
      obtain rfl := Option.some.inj hcolumn
      rw [Document.virtualColumn, Document.virtualColumn, line_eq ha, line_eq hb, htab,
        ← hkept.leadingBlanks_eq]
      exact hkept.agreeTo_margin.virtualColumn_eq _

theorem isMatch_blockEnd (h : a.Keeps b line) : Rules.default.blockEnd.isMatch (a.line line) =
    Rules.default.blockEnd.isMatch (b.line line) := by
  rcases h.cases with ⟨ha, hb⟩ | ⟨x, y, ha, hb, hkept⟩
  · simp [Document.line, ha, hb]
  · rw [line_eq ha, line_eq hb, hkept.isMatch_blockEnd]

end Keeps

theorem isCodeLine_masked {x y : SourceLine} (hx : a.lines[line]? = some x) (h : x.Masked y) :
    a.isCodeLine line = !(Text.body x.text).isEmpty := by
  rw [isCodeLine_eq, margin, attributeAt_eq hx, line_eq hx]
  cases hblank : (Text.body x.text).isEmpty with
  | true => rfl
  | false =>
    rw [h.at_margin (List.isEmpty_eq_false_iff.mp hblank)]
    rfl

namespace Veiled

theorem lineCount_eq (h : a.Veiled b) : a.lineCount = b.lineCount := h.lines.length_eq

theorem line_cases (h : a.Veiled b) (line : Nat) :
    a.Keeps b line ∨
      ∃ x y, a.lines[line]? = some x ∧ b.lines[line]? = some y ∧ x.Masked y := by
  rcases rel_cases (rel_getElem? h.lines line) with ⟨ha, hb⟩ | ⟨x, y, ha, hb, hkept | hmasked⟩
  · refine .inl ?_
    rw [Keeps, ha, hb]
    exact .none
  · refine .inl ?_
    rw [Keeps, ha, hb]
    exact .some hkept
  · exact .inr ⟨x, y, ha, hb, hmasked⟩

theorem isSome_firstColumn_eq (h : a.Veiled b) (line : Nat) :
    (a.firstColumn line).isSome = (b.firstColumn line).isSome := by
  rcases h.line_cases line with hkeeps | ⟨x, y, ha, hb, hmasked⟩
  · rw [hkeeps.firstColumn_eq]
  · rw [firstColumn, firstColumn, line_eq ha, line_eq hb, Text.firstColumn, Text.firstColumn,
      hmasked.blank_eq]
    split <;> rfl

theorem isCodeLine_eq (h : a.Veiled b) (line : Nat) : a.isCodeLine line = b.isCodeLine line := by
  rcases h.line_cases line with hkeeps | ⟨x, y, ha, hb, hmasked⟩
  · rw [Document.isCodeLine_eq, Document.isCodeLine_eq]
    rcases hkeeps.cases with ⟨ha, hb⟩ | ⟨x, y, ha, hb, hkept⟩
    · simp [Document.line, ha, hb, Text.body]
    · rw [margin, margin, attributeAt_eq ha, attributeAt_eq hb, line_eq ha, line_eq hb,
        hkept.isEmpty_body_eq, hkept.agreeTo_margin.at_eq, hkept.leadingBlanks_eq]
  · rw [isCodeLine_masked ha hmasked, isCodeLine_masked hb hmasked.symm, hmasked.blank_eq]

theorem previousNonBlankLine?_eq (h : a.Veiled b) (line : Nat) :
    a.previousNonBlankLine? line = b.previousNonBlankLine? line := by
  rw [previousNonBlankLine?, previousNonBlankLine?, h.lineCount_eq]
  exact greatestBelow?_congr fun m _ => h.isSome_firstColumn_eq m

theorem attributeAt_last_eq (h : a.Veiled b) (hne : (a.firstColumn line).isSome = true) :
    a.attributeAt line (a.lineLength line - 1) = b.attributeAt line (b.lineLength line - 1) := by
  rcases h.line_cases line with hkeeps | ⟨x, y, ha, hb, hmasked⟩
  · rcases hkeeps.cases with ⟨ha, hb⟩ | ⟨x, y, ha, hb, hkept⟩
    · simp [attributeAt, ha, hb, Row.at]
    · rw [attributeAt_eq ha, attributeAt_eq hb, lineLength, lineLength, line_eq ha, line_eq hb,
        hkept.at_last_eq]
  · have hne' := hne
    rw [h.isSome_firstColumn_eq] at hne'
    rw [attributeAt_eq ha, attributeAt_eq hb, lineLength, lineLength, line_eq ha, line_eq hb]
    rw [hmasked.at_last (body_ne_nil_of_firstColumn (line_eq ha ▸ hne)),
      hmasked.symm.at_last (body_ne_nil_of_firstColumn (line_eq hb ▸ hne'))]

theorem isVerbatim_eq (h : a.Veiled b) (rules : Rules) (line : Nat) :
    a.isVerbatim rules line = b.isVerbatim rules line := by
  rw [isVerbatim, isVerbatim, ← h.previousNonBlankLine?_eq]
  cases habove : a.previousNonBlankLine? line with
  | none => rfl
  | some above =>
    have hne := (greatestBelow?_eq_some habove).2
    simp only [Option.any_some, h.attributeAt_last_eq hne]

-- ---------------------------------------------------------------------------
-- Brackets
-- ---------------------------------------------------------------------------

theorem bracketSitesBefore_eq (h : a.Veiled b) (point : Position) :
    a.bracketSitesBefore point = b.bracketSitesBefore point := by
  have hall (line : Nat) {xs ys : List SourceLine}
      (h : List.Forall₂ (fun x y => x.Kept y ∨ x.Masked y) xs ys) :
      allBracketSites line xs = allBracketSites line ys := by
    induction h generalizing line with
    | nil => rfl
    | cons hline _ ih =>
      rw [allBracketSites, allBracketSites, ih]
      rcases hline with hkept | hmasked
      · rw [hkept.bracketSites_eq]
      · rw [hmasked.bracketSites_eq_nil, hmasked.symm.bracketSites_eq_nil]
  rw [bracketSitesBefore, bracketSitesBefore, bracketSitesBefore_eq_filter,
    bracketSitesBefore_eq_filter, hall 0 h.lines]

theorem lastAnchor?_eq (h : a.Veiled b) (point : Position) :
    a.lastAnchor? point = b.lastAnchor? point := by
  rw [lastAnchor?, lastAnchor?, h.bracketSitesBefore_eq]

end Veiled

theorem mem_allBracketSites {first : Nat} {lines : List SourceLine} {site : BracketSite}
    (h : site ∈ allBracketSites first lines) :
    ∃ i x, lines[i]? = some x ∧ site ∈ bracketSites (first + i) 0 x.text x.row := by
  induction lines generalizing first with
  | nil => simp [allBracketSites] at h
  | cons x rest ih =>
    rcases List.mem_append.mp h with h | h
    · exact ⟨0, x, rfl, h⟩
    · obtain ⟨i, y, hy, hsite⟩ := ih h
      refine ⟨i + 1, y, hy, ?_⟩
      rwa [Nat.add_assoc, Nat.add_comm 1] at hsite

theorem exists_site_of_lastAnchor? {doc : Document} {point : Position} {anchor : Anchor}
    (h : doc.lastAnchor? point = some anchor) :
    ∃ x site, doc.lines[anchor.position.line]? = some x ∧
      site ∈ bracketSites anchor.position.line 0 x.text x.row ∧
        site.position = anchor.position := by
  obtain ⟨site, hsite, hposition⟩ := mem_of_unclosed? (anchor?_of_lastAnchor? h)
  have hmem := List.mem_reverse.mp hsite
  rw [bracketSitesBefore, bracketSitesBefore_eq_filter] at hmem
  obtain ⟨i, x, hx, hsite⟩ := mem_allBracketSites (List.mem_filter.mp hmem).1
  rw [Nat.zero_add] at hsite
  obtain rfl : anchor.position.line = i := hposition ▸ line_of_mem_bracketSites hsite
  exact ⟨x, site, hx, hsite, hposition⟩

theorem lastAnchor?_lineStart_congr {doc : Document} {m n : Nat} (hmn : m ≤ n)
    (h : ∀ line x, m ≤ line → line < n → doc.lines[line]? = some x →
      bracketSites line 0 x.text x.row = []) :
    doc.lastAnchor? ⟨m, 0⟩ = doc.lastAnchor? ⟨n, 0⟩ := by
  have hsites : doc.bracketSitesBefore ⟨m, 0⟩ = doc.bracketSitesBefore ⟨n, 0⟩ := by
    rw [bracketSitesBefore, bracketSitesBefore, bracketSitesBefore_eq_filter,
      bracketSitesBefore_eq_filter]
    refine List.filter_congr fun site hsite => ?_
    obtain ⟨i, x, hx, hsite⟩ := mem_allBracketSites hsite
    rw [Nat.zero_add] at hsite
    have hline := line_of_mem_bracketSites hsite
    rw [Bool.eq_iff_iff, Position.isBefore_iff, Position.isBefore_iff]
    by_cases hbetween : m ≤ i ∧ i < n
    · rw [h i x hbetween.1 hbetween.2 hx] at hsite
      simp at hsite
    · dsimp only
      omega
  rw [lastAnchor?, lastAnchor?, hsites]

namespace Veiled

theorem agreeTo_of_lastAnchor? (h : a.Veiled b) {point : Position} {anchor : Anchor}
    (hanchor : a.lastAnchor? point = some anchor) :
    ∃ x y, a.lines[anchor.position.line]? = some x ∧ b.lines[anchor.position.line]? = some y ∧
      SourceLine.AgreeTo (anchor.position.column + 1) x y := by
  obtain ⟨x, site, hx, hmem, hposition⟩ := exists_site_of_lastAnchor? hanchor
  obtain ⟨hcode, hlt⟩ := isCode_of_mem_bracketSites hmem
  rw [hposition] at hcode hlt
  rcases h.line_cases anchor.position.line with hkeeps | ⟨x', y, hx', -, hmasked⟩
  · rcases hkeeps.cases with ⟨hnone, -⟩ | ⟨x', y, hx', hy, hkept⟩
    · simp [hx] at hnone
    · obtain rfl := Option.some.inj (hx.symm.trans hx')
      exact ⟨x, y, hx, hy, hkept.agreeTo_of_isCode hcode hlt⟩
  · obtain rfl := Option.some.inj (hx.symm.trans hx')
    rw [hmasked.bracketSites_eq_nil] at hmem
    simp at hmem

-- ---------------------------------------------------------------------------
-- The text of a statement
-- ---------------------------------------------------------------------------

theorem attributeAt_end_eq (h : a.Veiled b) (line : Nat) :
    a.attributeAt line (a.lineLength line) = b.attributeAt line (b.lineLength line) := by
  rcases h.line_cases line with hkeeps | ⟨x, y, ha, hb, hmasked⟩
  · rcases hkeeps.cases with ⟨ha, hb⟩ | ⟨x, y, ha, hb, hkept⟩
    · simp [attributeAt, ha, hb, Row.at]
    · rw [attributeAt_eq ha, attributeAt_eq hb, lineLength, lineLength, line_eq ha, line_eq hb,
        hkept.at_end_eq]
  · rw [attributeAt_eq ha, attributeAt_eq hb, lineLength, lineLength, line_eq ha, line_eq hb,
      hmasked.at_end, hmasked.symm.at_end]

end Veiled

def lineMarks (doc : Document) (line : Nat) : Marks :=
  marksFrom (doc.attributeAt line) 0 (Statement.joined (doc.line line))

def textMarks (doc : Document) (lines line : Nat) : Marks :=
  marksFrom (Statement.kindFrom doc lines line) 0 (Statement.textFrom doc lines line)

theorem lineMarks_eq {doc : Document} {x : SourceLine} (h : doc.lines[line]? = some x) :
    doc.lineMarks line = x.marks := by
  rw [lineMarks, line_eq h, SourceLine.marks]
  exact marksFrom_congr fun i _ => attributeAt_eq h _

theorem lineMarks_eq_nil {doc : Document} (h : doc.lines[line]? = none) :
    doc.lineMarks line = [] := by
  simp [lineMarks, Document.line, h, Statement.joined, Text.endsInBackslash, marksFrom]

theorem textMarks_zero (doc : Document) (line : Nat) :
    doc.textMarks 0 line = doc.lineMarks line := by
  rw [textMarks, Statement.textFrom_zero]
  rfl

theorem textMarks_succ (doc : Document) (lines line : Nat) :
    doc.textMarks (lines + 1) line = doc.lineMarks line ++
      (' ', doc.attributeAt line (doc.lineLength line)) :: doc.textMarks lines (line + 1) :=
  Statement.marksFrom_succ doc lines line

theorem Keeps.veiled_lineMarks (h : a.Keeps b line) {s t : Marks}
    (hs : Text.Detached (plainText s)) (hst : Reindent.Veiled s t) :
    Reindent.Veiled (a.lineMarks line ++ s) (b.lineMarks line ++ t) := by
  rcases h.cases with ⟨ha, hb⟩ | ⟨x, y, ha, hb, hkept⟩
  · rwa [lineMarks_eq_nil ha, lineMarks_eq_nil hb]
  · rw [lineMarks_eq ha, lineMarks_eq hb]
    exact hkept.veiled hs hst

namespace Veiled

theorem space_lineMarks (h : a.Veiled b) (line : Nat) {s t : Marks}
    (hs : Text.Detached (plainText s)) (hst : Reindent.Veiled s t) (kind : Attribute) :
    Reindent.Veiled ((' ', kind) :: (a.lineMarks line ++ s))
      ((' ', kind) :: (b.lineMarks line ++ t)) := by
  rcases h.line_cases line with hkeeps | ⟨x, y, ha, hb, hmasked⟩
  · exact .same ' ' kind (hkeeps.veiled_lineMarks hs hst)
  · rw [lineMarks_eq ha, lineMarks_eq hb]
    exact .veil hmasked.veil hs hst

theorem space_textMarks (h : a.Veiled b) (lines line : Nat) (kind : Attribute) :
    Reindent.Veiled ((' ', kind) :: a.textMarks lines line)
      ((' ', kind) :: b.textMarks lines line) := by
  induction lines generalizing line kind with
  | zero =>
    have hline := h.space_lineMarks line (s := []) rfl .nil kind
    rwa [List.append_nil, List.append_nil, ← textMarks_zero, ← textMarks_zero] at hline
  | succ lines ih =>
    rw [textMarks_succ, textMarks_succ, h.attributeAt_end_eq]
    exact h.space_lineMarks line (by rfl) (ih _ _) kind

theorem textMarks (h : a.Veiled b) (lines : Nat) (hline : a.Keeps b line) :
    Reindent.Veiled (a.textMarks lines line) (b.textMarks lines line) := by
  cases lines with
  | zero =>
    have hline := hline.veiled_lineMarks (s := []) rfl .nil
    rwa [List.append_nil, List.append_nil, ← textMarks_zero, ← textMarks_zero] at hline
  | succ lines =>
    rw [textMarks_succ, textMarks_succ, h.attributeAt_end_eq]
    exact hline.veiled_lineMarks (by rfl) (h.space_textMarks lines _ _)

variable {stmt : Statement}

theorem content (h : a.Veiled b) (hs : stmt.Ordered) (hstart : a.Keeps b stmt.start) :
    Reindent.Veiled
      (marksFrom (Statement.kindFrom a (stmt.stop - stmt.start) stmt.start) 0 (stmt.content a))
      (marksFrom (Statement.kindFrom b (stmt.stop - stmt.start) stmt.start) 0
        (stmt.content b)) := by
  rw [Statement.content_eq_textFrom hs, Statement.content_eq_textFrom hs]
  exact h.textMarks _ hstart

theorem endsWith_eq (h : a.Veiled b) (hs : stmt.Ordered) (hstart : a.Keeps b stmt.start)
    {pattern : Pattern} (hpattern : pattern.Discreet) :
    stmt.endsWith a pattern = stmt.endsWith b pattern := by
  rw [Statement.endsWith_eq, Statement.endsWith_eq]
  exact hpattern.reachesEnd_eq (Pair.start (h.content hs hstart)).abreast

end Veiled

-- ---------------------------------------------------------------------------
-- A line of a here document by itself
-- ---------------------------------------------------------------------------

section
variable {x y : SourceLine}

theorem content_singleLine (hx : a.lines[line]? = some x)
    (hbackslash : Text.endsInBackslash x.text = false) :
    (Statement.singleLine line).content a = x.text := by
  simp [Statement.content, Statement.lineNumbers, Statement.singleLine, line_eq hx,
    Statement.joined_of_not_endsInBackslash hbackslash]

theorem endsWith_masked (hx : a.lines[line]? = some x) (h : x.Masked y) {pattern : Pattern}
    (hpattern : pattern.Discreet) : (Statement.singleLine line).endsWith a pattern = false := by
  have hkinds : Statement.kindFrom a (line - line) line = a.attributeAt line := by
    rw [Nat.sub_self]
    rfl
  have hmarks : (Cursor.start x.text).marks (a.attributeAt line) = x.marks ++ [] := by
    rw [List.append_nil, h.marks_eq]
    exact marksFrom_congr fun i _ => attributeAt_eq hx _
  have hhushed := h.veil.hushed (s := []) rfl hmarks rfl
  have hend : ((Cursor.start x.text).advance x.marks.length).after = [] := by
    rw [Cursor.after_advance, h.marks_eq, ← length_plainText, plainText_marksFrom]
    exact List.drop_length
  rw [Statement.endsWith_eq, content_singleLine hx h.tame_left.backslash, Statement.singleLine,
    hkinds, hpattern.reachesEnd_hushed rfl hhushed,
    Pattern.reachesEnd_of_nil (Pattern.consumes_of_leads hpattern.leads) hend]

theorem opensBlock_masked (hx : a.lines[line]? = some x) (h : x.Masked y) :
    a.opensBlock .default (.singleLine line) = false := by
  rw [opensBlock, content_singleLine hx h.tame_left.backslash, h.idle_left.opener,
    endsWith_masked hx h Pattern.discreet_blockOpenerTail]
  rfl

theorem closesBlock_masked (hx : a.lines[line]? = some x) (h : x.Masked y) :
    a.closesBlock .default (.singleLine line) = false := by
  rw [closesBlock, content_singleLine hx h.tame_left.backslash, h.idle_left.closer]

theorem joins_masked (hx : a.lines[line]? = some x) (h : x.Masked y) (below : Nat) :
    a.joins .default line below = (a.lastAnchor? ⟨line + 1, 0⟩).isSome := by
  rw [joins, continues, endsWith_masked hx h Pattern.discreet_continuation, endsInBackslash,
    line_eq hx, h.tame_left.backslash, Bool.and_false, Bool.false_or, Bool.or_false]

end

-- ---------------------------------------------------------------------------
-- Statements and blocks
-- ---------------------------------------------------------------------------

namespace Veiled

variable {stmt : Statement}

theorem joins_eq (h : a.Veiled b) (line below : Nat) :
    a.joins .default line below = b.joins .default line below := by
  rcases h.line_cases line with hkeeps | ⟨x, y, ha, hb, hmasked⟩
  · have hbackslash : a.endsInBackslash line = b.endsInBackslash line := by
      rcases hkeeps.cases with ⟨ha, hb⟩ | ⟨x, y, ha, hb, hkept⟩
      · simp [Document.endsInBackslash, Document.line, ha, hb]
      · rw [Document.endsInBackslash, Document.endsInBackslash, line_eq ha, line_eq hb,
          hkept.endsInBackslash_eq]
    rw [joins, joins, hbackslash, continues, continues, h.lastAnchor?_eq,
      h.endsWith_eq (Statement.ordered_singleLine line) hkeeps Pattern.discreet_continuation]
  · rw [joins_masked ha hmasked, joins_masked hb hmasked.symm, h.lastAnchor?_eq]

theorem statementAbove?_eq (h : a.Veiled b) (line : Nat) :
    a.statementAbove? .default line = b.statementAbove? .default line := by
  have hstart (stop : Nat) : a.statementStart .default stop = b.statementStart .default stop := by
    rw [statementStart, statementStart, h.lineCount_eq]
    exact extendUp_congr (fun m _ => h.isCodeLine_eq m) (fun m _ => h.joins_eq m) stop
  have habove : a.codeLineAbove? line = b.codeLineAbove? line :=
    greatestBelow?_congr fun m _ => h.isCodeLine_eq m
  rw [Document.statementAbove?_eq, Document.statementAbove?_eq, habove]
  simp only [hstart]

end Veiled

theorem isCodeLine_of_lastAnchor? {doc : Document} (hbrackets : doc.BracketsInCode)
    {point : Position} {anchor : Anchor} (h : doc.lastAnchor? point = some anchor) :
    doc.isCodeLine anchor.position.line = true := by
  obtain ⟨x, site, hx, hmem, -⟩ := exists_site_of_lastAnchor? h
  by_contra hnot
  rw [hbrackets _ x hx (by simpa using hnot)] at hmem
  simp at hmem

theorem joins_of_lastAnchor? {doc : Document} (hbrackets : doc.BracketsInCode)
    (hcode : doc.isCodeLine line = true) (h : (doc.lastAnchor? ⟨line, 0⟩).isSome = true) :
    ∃ above, doc.Neighbours above line ∧ doc.joins .default above line = true := by
  obtain ⟨anchor, hanchor⟩ := Option.isSome_iff_exists.mp h
  have hlt := line_lt_of_lastAnchor? hanchor
  have hopener := isCodeLine_of_lastAnchor? hbrackets hanchor
  obtain ⟨above, hfound, -⟩ := exists_codeLineAbove? hopener hlt
  have hn := neighbours_of_codeLineAbove? hcode hfound
  refine ⟨above, hn, ?_⟩
  have hsame : doc.lastAnchor? ⟨above + 1, 0⟩ = doc.lastAnchor? ⟨line, 0⟩ :=
    lastAnchor?_lineStart_congr hn.lt fun l x hge hlt hx =>
      hbrackets l x hx (hn.between l hge hlt)
  rw [joins, continues, hsame, h]
  simp

theorem IsStatement.exists_neighbours {doc : Document} {rules : Rules} {stmt : Statement}
    (h : doc.IsStatement rules stmt) (hcode : doc.isCodeLine line = true)
    (hlt : line < stmt.stop) : ∃ next, doc.Neighbours line next ∧ next ≤ stmt.stop := by
  have hbelow : ∃ m, line < m ∧ doc.isCodeLine m = true := ⟨stmt.stop, hlt, h.code_stop⟩
  obtain ⟨hfirst, hnext⟩ := Nat.find_spec hbelow
  refine ⟨Nat.find hbelow, ⟨hfirst, hcode, hnext, fun m hm hfind => ?_⟩,
    Nat.find_min' hbelow ⟨hlt, h.code_stop⟩⟩
  have hmin := Nat.find_min hbelow hfind
  simpa [hm] using hmin

/-- A statement that begins with a line of a here document has no other line: only
a bracket could join the next one to it, and that bracket would join it to the
line above. -/
theorem IsStatement.singleLine_of_masked {stmt : Statement} (hbrackets : a.BracketsInCode)
    (hstmt : a.IsStatement .default stmt) {x y : SourceLine}
    (hx : a.lines[stmt.start]? = some x) (h : x.Masked y) : stmt = .singleLine stmt.start := by
  obtain ⟨start, stop⟩ := stmt
  have hordered : start ≤ stop := hstmt.ordered
  dsimp only at hx ⊢
  by_contra hne
  have hlt : start < stop := by
    refine Nat.lt_of_le_of_ne hordered ?_
    rintro rfl
    exact hne rfl
  obtain ⟨next, hnext, hle⟩ := hstmt.exists_neighbours hstmt.code_start hlt
  have hopen := hstmt.joined start next hnext (Nat.le_refl start) hle
  have hself : a.lastAnchor? ⟨start, 0⟩ = a.lastAnchor? ⟨start + 1, 0⟩ := by
    refine lastAnchor?_lineStart_congr (Nat.le_succ start) fun line l hge hlt hl => ?_
    obtain rfl : line = start := by omega
    obtain rfl := Option.some.inj (hx.symm.trans hl)
    exact h.bracketSites_eq_nil line
  rw [joins_masked hx h, ← hself] at hopen
  obtain ⟨above, hn, hjoins⟩ := joins_of_lastAnchor? hbrackets hstmt.code_start hopen
  have hseparated : a.joins .default above start = false := hstmt.separated above hn
  simp [hjoins] at hseparated

theorem opensBlock_of_mem_openBlocks {doc : Document} {rules : Rules} {stmt : Statement}
    (h : stmt ∈ doc.openBlocks rules line) :
    doc.opensBlock rules stmt = true ∧ doc.IsStatement rules stmt := by
  induction line using Nat.strong_induction_on with
  | h line ih =>
    cases habove : doc.statementAbove? rules line with
    | none =>
      rw [openBlocks_of_none habove] at h
      simp at h
    | some above =>
      obtain ⟨hordered, hlt⟩ := statementAbove?_bounds habove
      have hle : above.start ≤ above.stop := hordered
      have hrest := ih above.start (by omega)
      rw [openBlocks_of_some habove, blockStep] at h
      split at h
      case h_1 hopens _ =>
        rcases List.mem_cons.mp h with rfl | h
        · exact ⟨hopens, isStatement_of_statementAbove? habove⟩
        · exact hrest h
      case h_2 => exact hrest (List.mem_of_mem_tail h)
      case h_3 => exact hrest h

namespace Veiled

variable {stmt : Statement}

theorem opensBlock_eq (h : a.Veiled b) (hbrackets : a.BracketsInCode)
    (hstmt : a.IsStatement .default stmt) :
    a.opensBlock .default stmt = b.opensBlock .default stmt := by
  rcases h.line_cases stmt.start with hkeeps | ⟨x, y, ha, hb, hmasked⟩
  · have hordered : stmt.Ordered := hstmt.ordered
    rw [opensBlock, opensBlock, (h.content hordered hkeeps).isMatch_blockStart,
      h.endsWith_eq hordered hkeeps Pattern.discreet_blockOpenerTail]
  · rw [hstmt.singleLine_of_masked hbrackets ha hmasked, opensBlock_masked ha hmasked,
      opensBlock_masked hb hmasked.symm]

theorem closesBlock_eq (h : a.Veiled b) (hbrackets : a.BracketsInCode)
    (hstmt : a.IsStatement .default stmt) :
    a.closesBlock .default stmt = b.closesBlock .default stmt := by
  rcases h.line_cases stmt.start with hkeeps | ⟨x, y, ha, hb, hmasked⟩
  · exact (h.content hstmt.ordered hkeeps).isMatch_blockEnd
  · rw [hstmt.singleLine_of_masked hbrackets ha hmasked, closesBlock_masked ha hmasked,
      closesBlock_masked hb hmasked.symm]

theorem openBlocks_eq (h : a.Veiled b) (hbrackets : a.BracketsInCode) (line : Nat) :
    a.openBlocks .default line = b.openBlocks .default line := by
  induction line using Nat.strong_induction_on with
  | h line ih =>
    cases habove : a.statementAbove? .default line with
    | none =>
      rw [openBlocks_of_none habove, openBlocks_of_none (h.statementAbove?_eq line ▸ habove)]
    | some above =>
      obtain ⟨hordered, hlt⟩ := statementAbove?_bounds habove
      have hle : above.start ≤ above.stop := hordered
      have hstmt := isStatement_of_statementAbove? habove
      have habove' : b.statementAbove? .default line = some above :=
        h.statementAbove?_eq line ▸ habove
      rw [openBlocks_of_some habove, openBlocks_of_some habove', ih above.start (by omega),
        blockStep, blockStep, h.opensBlock_eq hbrackets hstmt, h.closesBlock_eq hbrackets hstmt]

theorem blockStart?_eq (h : a.Veiled b) (hbrackets : a.BracketsInCode) (line : Nat) :
    a.blockStart? .default line = b.blockStart? .default line := by
  rw [blockStart?_eq_head?, blockStart?_eq_head?, h.openBlocks_eq hbrackets]

theorem indent_eq (h : a.Veiled b) (hstart : a.Keeps b stmt.start) :
    stmt.indent a = stmt.indent b := by
  rw [Statement.indent, Statement.indent, hstart.firstVirtualColumn_eq h.tabWidth_eq]

theorem keeps_of_blockStart? (h : a.Veiled b) (hbrackets : a.BracketsInCode)
    (hstmt : a.blockStart? .default line = some stmt) : a.Keeps b stmt.start := by
  rw [blockStart?_eq_head?] at hstmt
  obtain ⟨hopens, hstmt⟩ := opensBlock_of_mem_openBlocks (List.mem_of_mem_head? hstmt)
  rcases h.line_cases stmt.start with hkeeps | ⟨x, y, ha, -, hmasked⟩
  · exact hkeeps
  · rw [hstmt.singleLine_of_masked hbrackets ha hmasked, opensBlock_masked ha hmasked] at hopens
    exact absurd hopens Bool.false_ne_true

end Veiled

-- ---------------------------------------------------------------------------
-- Open brackets at the end of a statement
-- ---------------------------------------------------------------------------

theorem endsLoose_textFrom_succ (doc : Document) (lines line : Nat) :
    endsLoose (Statement.textFrom doc (lines + 1) line) =
      (endsLoose (Statement.joined (doc.line line)) &&
          Text.isAllWhiteSpace (Statement.textFrom doc lines (line + 1)) ||
        endsLoose (Statement.textFrom doc lines (line + 1))) := by
  have hspace : Unicode.isWhiteSpace ' ' = true := by decide +kernel
  rw [Statement.textFrom_succ, endsLoose_append]
  simp [endsLoose, Text.isAllWhiteSpace, hspace]

theorem Keeps.endsLoose_eq (h : a.Keeps b line) :
    endsLoose (Statement.joined (a.line line)) = endsLoose (Statement.joined (b.line line)) := by
  rcases h.cases with ⟨ha, hb⟩ | ⟨x, y, ha, hb, hkept⟩
  · rw [Document.line, Document.line, ha, hb]
  · rw [line_eq ha, line_eq hb, hkept.endsLoose_eq]

theorem exists_bracket_of_closed {doc : Document} {m n : Nat} (hmn : m ≤ n)
    (hopen : (doc.lastAnchor? ⟨m, 0⟩).isSome = true) (hclosed : doc.lastAnchor? ⟨n, 0⟩ = none) :
    ∃ k x, m ≤ k ∧ k < n ∧ doc.lines[k]? = some x ∧ bracketSites k 0 x.text x.row ≠ [] := by
  by_contra hnone
  push Not at hnone
  rw [lastAnchor?_lineStart_congr hmn hnone, hclosed] at hopen
  exact Bool.false_ne_true hopen

theorem visible_of_isBracketChar {c : Char} (h : isBracketChar c = true) :
    Unicode.isWhiteSpace c = false ∧ c ≠ '\\' := by
  have hall : ['(', ')', '{', '}', '[', ']'].all
      (fun d => !Unicode.isWhiteSpace d && d != '\\') = true := by decide +kernel
  simpa using List.all_eq_true.mp hall c (isBracketChar_iff.mp h)

/-- Where no bracket is open any more, something visible follows on each line of a
here document in the statement: only a bracket joins code to such a line. -/
theorem IsStatement.visible_below_masked {stmt : Statement} (hbrackets : a.BracketsInCode)
    (hstmt : a.IsStatement .default stmt) {below : Nat}
    (hlast : a.codeLineAbove? below = some stmt.stop) (hclosed : a.lastAnchor? ⟨below, 0⟩ = none)
    (hge : stmt.start ≤ line) (hlt : line < stmt.stop) (hcode : a.isCodeLine line = true)
    {x y : SourceLine} (hx : a.lines[line]? = some x) (h : x.Masked y) :
    Text.isAllWhiteSpace (Statement.textFrom a (stmt.stop - (line + 1)) (line + 1)) = false := by
  have hbelow : stmt.stop < below := (greatestBelow?_eq_some hlast).1
  obtain ⟨next, hnext, hle⟩ := hstmt.exists_neighbours hcode hlt
  have hopen := hstmt.joined line next hnext hge hle
  rw [joins_masked hx h] at hopen
  obtain ⟨k, z, hk, hkbelow, hz, hsites⟩ := exists_bracket_of_closed (by omega) hopen hclosed
  -- The line with the bracket is code, so it is in the statement.
  have hstop : k ≤ stmt.stop := by
    have hcode : a.isCodeLine k = true := by
      by_contra hnot
      exact hsites (hbrackets k z hz (by simpa using hnot))
    obtain ⟨above, habove, hkabove⟩ := exists_codeLineAbove? hcode hkbelow
    exact Option.some.inj (habove.symm.trans hlast) ▸ hkabove
  obtain ⟨c, hc, hbracket⟩ : ∃ c ∈ z.text, isBracketChar c = true := by
    by_contra hnone
    push Not at hnone
    exact hsites (bracketSites_eq_nil (fun c hc => by simpa using hnone c hc) k 0 z.row)
  obtain ⟨hvisible, hbackslash⟩ := visible_of_isBracketChar hbracket
  rw [← line_eq hz] at hc
  have hmem : c ∈ Statement.textFrom a (stmt.stop - (line + 1)) (line + 1) :=
    Statement.mem_textFrom hk (by omega) (Statement.mem_joined hc hbackslash)
  rw [Text.isAllWhiteSpace, List.all_eq_false]
  exact ⟨c, hmem, by simp [hvisible]⟩

namespace Veiled

variable {stmt : Statement}

theorem isAllWhiteSpace_textFrom_eq (h : a.Veiled b) (lines line : Nat) :
    Text.isAllWhiteSpace (Statement.textFrom a lines line) =
      Text.isAllWhiteSpace (Statement.textFrom b lines line) := by
  have hspace := (h.space_textMarks lines line .normal).isAllWhiteSpace_eq
  have hplain (doc : Document) : plainText ((' ', .normal) :: doc.textMarks lines line) =
      ' ' :: Statement.textFrom doc lines line := congrArg (' ' :: ·) (plainText_marksFrom _ _ _)
  have hwhite : Unicode.isWhiteSpace ' ' = true := by decide +kernel
  simpa [hplain, Text.isAllWhiteSpace, hwhite] using hspace

theorem endsLoose_textFrom_eq (h : a.Veiled b) {stop : Nat} (hstop : a.Keeps b stop) {lines : Nat}
    (hlines : line + lines = stop)
    (hvisible : ∀ l, line ≤ l → l < stop → a.Keeps b l ∨
      Text.isAllWhiteSpace (Statement.textFrom a (stop - (l + 1)) (l + 1)) = false ∨
        endsLoose (Statement.joined (a.line l)) = false ∧
          endsLoose (Statement.joined (b.line l)) = false) :
    endsLoose (Statement.textFrom a lines line) = endsLoose (Statement.textFrom b lines line) := by
  induction lines generalizing line with
  | zero =>
    obtain rfl : line = stop := hlines
    rw [Statement.textFrom_zero, Statement.textFrom_zero, hstop.endsLoose_eq]
  | succ lines ih =>
    have hrest : stop - (line + 1) = lines := by omega
    rw [endsLoose_textFrom_succ, endsLoose_textFrom_succ, ← h.isAllWhiteSpace_textFrom_eq,
      ih (by omega) fun l hl hlt => hvisible l (by omega) hlt]
    rcases hvisible line (Nat.le_refl line) (by omega) with hkeeps | hwhite | ⟨ha, hb⟩
    · rw [hkeeps.endsLoose_eq]
    · rw [hrest] at hwhite
      simp [hwhite]
    · rw [ha, hb]

theorem isMatch_looseOpener_eq (h : a.Veiled b) (hbrackets : a.BracketsInCode)
    (hstmt : a.IsStatement .default stmt) (hstop : a.Keeps b stmt.stop)
    (hlast : a.codeLineAbove? line = some stmt.stop) (hclosed : a.lastAnchor? ⟨line, 0⟩ = none) :
    Rules.default.looseOpener.isMatch (stmt.content a) =
      Rules.default.looseOpener.isMatch (stmt.content b) := by
  have hordered : stmt.start ≤ stmt.stop := hstmt.ordered
  rw [Reindent.isMatch_looseOpener_eq, Reindent.isMatch_looseOpener_eq,
    Statement.content_eq_textFrom hordered, Statement.content_eq_textFrom hordered]
  refine h.endsLoose_textFrom_eq hstop (by omega) fun l hge hlt => ?_
  rcases h.line_cases l with hkeeps | ⟨x, y, hx, hy, hmasked⟩
  · exact .inl hkeeps
  · refine .inr ?_
    by_cases hwhite : Text.isAllWhiteSpace x.text = true
    · have hwhite' : Text.isAllWhiteSpace y.text = true := hmasked.white_eq ▸ hwhite
      rw [line_eq hx, line_eq hy]
      exact .inr ⟨hmasked.endsLoose_of_white hwhite, hmasked.symm.endsLoose_of_white hwhite'⟩
    · have hcode : a.isCodeLine l = true := by
        have hbody := Text.body_ne_nil (Bool.eq_false_iff.mpr hwhite)
        rw [isCodeLine_masked hx hmasked, List.isEmpty_eq_false_iff.mpr hbody]
        rfl
      exact .inl (hstmt.visible_below_masked hbrackets hlast hclosed hge hlt hcode hx hmasked)

-- ---------------------------------------------------------------------------
-- The decision
-- ---------------------------------------------------------------------------

variable {anchor : Anchor} {above : Statement} {indentWidth : Nat} {trigger : Trigger}

theorem acceptsTrigger_eq (hline : a.Keeps b line) (trigger : Trigger) :
    a.acceptsTrigger .default line trigger = b.acceptsTrigger .default line trigger := by
  cases trigger with
  | manual | newline => rfl
  | char c =>
    rw [acceptsTrigger, acceptsTrigger]
    rcases hline.cases with ⟨ha, hb⟩ | ⟨x, y, ha, hb, hkept⟩
    · simp [Document.line, ha, hb]
    · rw [line_eq ha, line_eq hb]
      rcases hkept with ⟨htext, -⟩ | ⟨front, t, u, row, hcomment, -⟩
      · rw [htext]
      · -- What has a `#` in it is no closer alone.
        have hnot {x y : SourceLine} {t u : Text} (h : SourceLine.Commented front t u row x y) :
            (Rules.default.blockEndMatch x.text == some true) = false := by
          rw [beq_eq_false_iff_ne]
          refine Rules.blockEndMatch_ne_of_hash ?_
          rw [h.text_left]
          simp
        rw [hnot hcomment, hnot hcomment.symm]

theorem isLastCodeColumn_eq {x y : SourceLine} {position : Position}
    (ha : a.lines[position.line]? = some x) (hb : b.lines[position.line]? = some y)
    (h : SourceLine.AgreeTo (position.column + 1) x y) :
    a.isLastCodeColumn position.line position.column =
      b.isLastCodeColumn position.line position.column := by
  obtain ⟨hnext, hagree⟩ := h.nextNonBlankColumn_eq
  have hcomment : (a.nextNonBlankColumn position.line (position.column + 1)).any
        (a.isComment position.line) =
      (b.nextNonBlankColumn position.line (position.column + 1)).any
        (b.isComment position.line) := by
    rw [nextNonBlankColumn, nextNonBlankColumn, line_eq ha, line_eq hb, ← hnext]
    cases hfound : Text.nextNonBlankColumn x.text (position.column + 1) with
    | none => rfl
    | some next =>
      rw [Option.any_some, Option.any_some, isComment, isComment, attributeAt_eq ha,
        attributeAt_eq hb, (hagree next hfound).at_eq]
  rw [isLastCodeColumn, isLastCodeColumn, hcomment, lastColumn, lastColumn, line_eq ha, line_eq hb]
  rcases h with ⟨htext, -⟩ | ⟨front, t, u, row, hcommented, hle⟩
  · rw [htext]
  · -- Both lines end in their comment.
    obtain ⟨last, hlast, hfront⟩ := Text.lastColumn_comment front t
    obtain ⟨last', hlast', hfront'⟩ := Text.lastColumn_comment front u
    rw [hcommented.text_left, hcommented.text_right, hlast, hlast']
    dsimp only
    rw [if_pos (by omega), if_pos (by omega)]

theorem elementColumn_eq {x y : SourceLine} {position : Position}
    (ha : a.lines[position.line]? = some x) (hb : b.lines[position.line]? = some y)
    (h : SourceLine.AgreeTo (position.column + 1) x y) :
    a.elementColumn position = b.elementColumn position ∧
      SourceLine.AgreeTo (a.elementColumn position) x y := by
  obtain ⟨hnext, hagree⟩ := h.nextNonBlankColumn_eq
  rw [elementColumn, elementColumn, nextNonBlankColumn, nextNonBlankColumn, line_eq ha, line_eq hb,
    ← hnext]
  cases hfound : Text.nextNonBlankColumn x.text (position.column + 1) with
  | none => exact ⟨rfl, h⟩
  | some next =>
    have hcomment : a.isComment position.line next = b.isComment position.line next := by
      rw [isComment, isComment, attributeAt_eq ha, attributeAt_eq hb, (hagree next hfound).at_eq]
    dsimp only
    rw [hcomment]
    refine ⟨rfl, ?_⟩
    split
    · exact h
    · exact hagree next hfound

theorem indentInBrackets_eq (h : a.Veiled b) {point : Position}
    (hanchor : a.lastAnchor? point = some anchor) (hs : above.Ordered)
    (hstart : a.Keeps b above.start) (indentWidth : Nat) :
    a.indentInBrackets .default anchor above indentWidth =
      b.indentInBrackets .default anchor above indentWidth := by
  obtain ⟨x, y, ha, hb, hagree⟩ := h.agreeTo_of_lastAnchor? hanchor
  have hkeeps : a.Keeps b anchor.position.line := by
    rw [Keeps, ha, hb]
    exact .some hagree.kept
  have hsteps : a.stepsPast .default anchor above = b.stepsPast .default anchor above := by
    rw [stepsPast, stepsPast, h.endsWith_eq hs hstart Pattern.discreet_trailingComma]
  have hhangs : a.hangs anchor = b.hangs anchor := by
    rw [hangs, hangs, isLastCodeColumn_eq ha hb hagree, h.lastAnchor?_eq]
  have hvirtual {column : Nat} (hcolumn : SourceLine.AgreeTo column x y) :
      a.virtualColumn anchor.position.line column =
        b.virtualColumn anchor.position.line column := by
    rw [virtualColumn, virtualColumn, line_eq ha, line_eq hb, h.tabWidth_eq]
    exact hcolumn.virtualColumn_eq _
  obtain ⟨helement, hreach⟩ := elementColumn_eq ha hb hagree
  rw [indentInBrackets, indentInBrackets, hsteps, hhangs,
    hkeeps.firstVirtualColumn_eq h.tabWidth_eq, h.indent_eq hstart]
  cases b.stepsPast .default anchor above with
  | true =>
    simp only [if_true]
    rw [← helement, hvirtual hreach]
  | false =>
    simp only [Bool.false_eq_true, if_false, hvirtual (hagree.mono (Nat.le_succ _))]

theorem indentContinuation_eq (h : a.Veiled b) (hline : a.Keeps b line)
    (hstart : a.Keeps b above.start) (hstop : a.Keeps b above.stop) (indentWidth : Nat)
    (trigger : Trigger) :
    a.indentContinuation above line indentWidth trigger =
      b.indentContinuation above line indentWidth trigger := by
  have hfirst {m : Nat} (hm : a.Keeps b m) : a.firstVirtualColumn m = b.firstVirtualColumn m :=
    hm.firstVirtualColumn_eq h.tabWidth_eq
  rw [indentContinuation, indentContinuation, startsRightOf, startsRightOf, hfirst hline,
    hfirst hstop, h.indent_eq hstart]

theorem indentByBlock_eq (h : a.Veiled b) (hbrackets : a.BracketsInCode)
    (hline : a.Keeps b line) (habove : a.IsStatement .default above)
    (hstart : a.Keeps b above.start) (hstop : a.Keeps b above.stop)
    (hlast : a.codeLineAbove? line = some above.stop) (hclosed : a.lastAnchor? ⟨line, 0⟩ = none)
    (indentWidth : Nat) :
    a.indentByBlock .default above line indentWidth =
      b.indentByBlock .default above line indentWidth := by
  rw [indentByBlock, indentByBlock, hline.isMatch_blockEnd, h.opensBlock_eq hbrackets habove,
    h.isMatch_looseOpener_eq hbrackets habove hstop hlast hclosed, h.indent_eq hstart,
    ← h.blockStart?_eq hbrackets]
  cases hopener : a.blockStart? .default line with
  | none => rfl
  | some opener => simp only [h.indent_eq (h.keeps_of_blockStart? hbrackets hopener)]

/-- A line that is kept is placed alike if the line of code above it, from which it
could be measured, is kept too. -/
theorem directiveFor_eq (h : a.Veiled b) (hbrackets : a.BracketsInCode) (hline : a.Keeps b line)
    (habove : ∀ l, a.codeLineAbove? line = some l → a.Keeps b l)
    (indentWidth : Nat) (trigger : Trigger) :
    a.directiveFor .default line indentWidth trigger =
      b.directiveFor .default line indentWidth trigger := by
  rw [directiveFor, directiveFor, acceptsTrigger_eq hline, ← h.statementAbove?_eq,
    h.isVerbatim_eq, ← h.lastAnchor?_eq]
  cases hfound : a.statementAbove? .default line with
  | none => rfl
  | some above =>
    have hstmt := isStatement_of_statementAbove? hfound
    have hordered : above.Ordered := hstmt.ordered
    have hlast := codeLineAbove?_of_statementAbove? hfound
    have hstop : a.Keeps b above.stop := habove _ hlast
    have hstart : a.Keeps b above.start := by
      rcases h.line_cases above.start with hkeeps | ⟨x, y, ha, -, hmasked⟩
      · exact hkeeps
      · have hsingle := hstmt.singleLine_of_masked hbrackets ha hmasked
        rw [hsingle] at hstop
        exact hstop
    dsimp only
    rw [h.joins_eq, h.indentContinuation_eq hline hstart hstop]
    cases hanchor : a.lastAnchor? ⟨line, 0⟩ with
    | none => simp only [h.indentByBlock_eq hbrackets hline hstmt hstart hstop hlast hanchor]
    | some anchor => simp only [h.indentInBrackets_eq hanchor hordered hstart]

theorem indent_line_eq (h : a.Veiled b) (hbrackets : a.BracketsInCode) (hline : a.Keeps b line)
    (habove : ∀ l, a.codeLineAbove? line = some l → a.Keeps b l)
    (indentWidth : Nat) (trigger : Trigger) :
    a.indent .default line indentWidth trigger = b.indent .default line indentWidth trigger := by
  rw [indent, indent, tryIndent, tryIndent, h.lineCount_eq,
    h.directiveFor_eq hbrackets hline habove]

end Veiled

end Document

end Reindent
