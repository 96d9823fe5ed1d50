import Reindent.Proofs.Stability
import Reindent.Proofs.StretchedMatches

/-!
# Indenting keeps the structure

Two documents whose lines differ in their leading blanks only have the same
lines of code, the same statements and the same blocks, and brackets stay
open on the same lines, moved by as much as their line moved. With the
default rules this holds of a document before and after a pass. The text of
a statement over several lines does change, but it is only stretched.
-/

namespace Reindent

/-- The lines differ in their leading blanks only. -/
def Document.Shifted (a b : Document) : Prop := List.Forall₂ SourceLine.Shifted a.lines b.lines

def Document.margin (doc : Document) (line : Nat) : Nat :=
  (Text.leadingBlanks (doc.line line)).length

theorem Row.at_drop (row : Row) (n column : Nat) :
    Row.at (row.drop n) column = Row.at row (n + column) := by
  simp [Row.at, List.getElem?_drop]

theorem Text.endsInBackslash_body (text : Text) :
    endsInBackslash (body text) = endsInBackslash text := by
  conv_rhs => rw [← leadingBlanks_append_body text]
  rw [endsInBackslash, endsInBackslash, List.getLast?_append]
  cases hb : (body text).getLast? with
  | some c => rfl
  | none =>
    rw [Option.none_or]
    cases hl : (leadingBlanks text).getLast? with
    | none => rfl
    | some c =>
      have hc := allBlank_leadingBlanks text c (List.mem_of_getLast? hl)
      rcases isBlank_iff.mp hc with rfl | rfl <;> decide

theorem Document.isCodeLine_eq (doc : Document) (line : Nat) :
    doc.isCodeLine line = (!(Text.body (doc.line line)).isEmpty &&
      !(doc.attributeAt line (doc.margin line)).isComment) := by
  rw [isCodeLine, firstColumn, Text.firstColumn]
  split
  case isTrue h => simp [h]
  case isFalse h =>
    simp only [Bool.not_eq_true] at h
    simp [h, isComment, margin]

namespace Document.Shifted

variable {a b : Document}

theorem lineCount (h : a.Shifted b) : a.lineCount = b.lineCount := h.length_eq

theorem line_cases (h : a.Shifted b) (i : Nat) :
    a.lines[i]? = none ∧ b.lines[i]? = none ∨
      ∃ l l', a.lines[i]? = some l ∧ b.lines[i]? = some l' ∧ l.Shifted l' := by
  by_cases hi : i < a.lines.length
  · have hi' : i < b.lines.length := h.length_eq ▸ hi
    exact .inr ⟨_, _, List.getElem?_eq_getElem hi, List.getElem?_eq_getElem hi', h.get hi hi'⟩
  · have hi' : ¬ i < b.lines.length := h.length_eq ▸ hi
    exact .inl ⟨List.getElem?_eq_none (by omega), List.getElem?_eq_none (by omega)⟩

theorem body_line (h : a.Shifted b) (i : Nat) : Text.body (a.line i) = Text.body (b.line i) := by
  rcases h.line_cases i with ⟨ha, hb⟩ | ⟨l, l', ha, hb, hl⟩
  · simp [Document.line, ha, hb]
  · simpa [Document.line, ha, hb] using hl.body_eq

theorem attributeAt (h : a.Shifted b) (i column : Nat) :
    a.attributeAt i (a.margin i + column) = b.attributeAt i (b.margin i + column) := by
  rcases h.line_cases i with ⟨ha, hb⟩ | ⟨l, l', ha, hb, hl⟩
  · simp [Document.attributeAt, ha, hb, Row.at]
  · have hrow := congrArg (Row.at · column) hl.row_eq
    simpa only [Row.at_drop, Document.attributeAt, Document.margin, Document.line, ha, hb,
      Option.map_some, Option.getD_some] using hrow

theorem isCodeLine (h : a.Shifted b) (i : Nat) : a.isCodeLine i = b.isCodeLine i := by
  rw [isCodeLine_eq, isCodeLine_eq, h.body_line, ← Nat.add_zero (a.margin i),
    ← Nat.add_zero (b.margin i), h.attributeAt]

theorem previousCodeLine? (h : a.Shifted b) (i : Nat) :
    a.previousCodeLine? i = b.previousCodeLine? i := by
  rw [Document.previousCodeLine?, Document.previousCodeLine?, h.lineCount]
  exact greatestBelow?_congr fun m _ => h.isCodeLine m

theorem endsInBackslash (h : a.Shifted b) (i : Nat) :
    a.endsInBackslash i = b.endsInBackslash i := by
  rw [Document.endsInBackslash, Document.endsInBackslash, ← Text.endsInBackslash_body,
    h.body_line, Text.endsInBackslash_body]

end Document.Shifted

-- ---------------------------------------------------------------------------
-- Open brackets
-- ---------------------------------------------------------------------------

/-- The same place of a line's body, behind margins given by line number. -/
def Position.Moved (m n : Nat → Nat) (p q : Position) : Prop :=
  p.line = q.line ∧ p.column + n p.line = q.column + m p.line

theorem Position.isBefore_iff {p q : Position} :
    p.isBefore q = true ↔ p.line < q.line ∨ p.line = q.line ∧ p.column < q.column := by
  rw [isBefore, compare, beq_iff_eq, Ordering.then_eq_lt, Nat.compare_eq_lt, Nat.compare_eq_eq,
    Nat.compare_eq_lt]

section
variable {m n : Nat → Nat} {p q p' q' : Position}

theorem Position.Moved.isBefore (h : Moved m n p q) (h' : Moved m n p' q') :
    p.isBefore p' = q.isBefore q' := by
  obtain ⟨hline, hcolumn⟩ := h
  obtain ⟨hline', hcolumn'⟩ := h'
  rw [Bool.eq_iff_iff, isBefore_iff, isBefore_iff, ← hline, ← hline']
  by_cases hsame : p.line = p'.line
  · rw [hsame] at hcolumn
    omega
  · omega

def BracketSite.Moved (m n : Nat → Nat) (s t : BracketSite) : Prop :=
  s.char = t.char ∧ Position.Moved m n s.position t.position

def Anchor.Moved (m n : Nat → Nat) (x y : Anchor) : Prop :=
  x.bracket = y.bracket ∧ Position.Moved m n x.position y.position

theorem bracketSites_eq_nil {text : Text} (h : ∀ c ∈ text, isBracketChar c = false)
    (line column : Nat) (row : Row) : bracketSites line column text row = [] := by
  induction text generalizing column row with
  | nil => rfl
  | cons c rest ih =>
    have hrest := ih fun d hd => h d (List.mem_cons_of_mem c hd)
    simp [bracketSites, h c List.mem_cons_self, hrest]

theorem bracketSites_blanks {blanks : Text} (h : AllBlank blanks) (line column : Nat) (text : Text)
    (row : Row) :
    bracketSites line column (blanks ++ text) row =
      bracketSites line (column + blanks.length) text (row.drop blanks.length) := by
  induction blanks generalizing column row with
  | nil => simp
  | cons c rest ih =>
    have hsize : c.utf8Size = 1 ∧ isBracketChar c = false := by
      rcases Text.isBlank_iff.mp (h c List.mem_cons_self) with rfl | rfl <;> decide
    rw [List.cons_append, bracketSites, ih fun d hd => h d (List.mem_cons_of_mem c hd)]
    simp [hsize, Nat.add_assoc, Nat.add_comm 1]

theorem bracketSites_moved (line offset : Nat) (text : Text) (row : Row) :
    List.Forall₂ (BracketSite.Moved m n) (bracketSites line (m line + offset) text row)
      (bracketSites line (n line + offset) text row) := by
  induction text generalizing offset row with
  | nil => exact .nil
  | cons c rest ih =>
    have hrest := ih (offset + c.utf8Size) (row.drop c.utf8Size)
    simp only [← Nat.add_assoc] at hrest
    simp only [bracketSites]
    split
    · exact .cons ⟨rfl, rfl, by dsimp only; omega⟩ hrest
    · exact hrest

theorem SourceLine.Shifted.bracketSites {l l' : SourceLine} (h : l.Shifted l') {line : Nat}
    (hm : m line = (Text.leadingBlanks l.text).length)
    (hn : n line = (Text.leadingBlanks l'.text).length) :
    List.Forall₂ (BracketSite.Moved m n) (bracketSites line 0 l.text l.row)
      (bracketSites line 0 l'.text l'.row) := by
  rw [← Text.leadingBlanks_append_body l.text, ← Text.leadingBlanks_append_body l'.text,
    bracketSites_blanks (Text.allBlank_leadingBlanks _),
    bracketSites_blanks (Text.allBlank_leadingBlanks _), h.body_eq, h.row_eq, Nat.zero_add,
    Nat.zero_add, ← hm, ← hn]
  exact bracketSites_moved line 0 _ _

theorem bracketSitesBefore_moved (stop : Nat) {line : Nat} {xs ys : List SourceLine}
    (h : List.Forall₂ SourceLine.Shifted xs ys)
    (hm : ∀ i l, xs[i]? = some l → m (line + i) = (Text.leadingBlanks l.text).length)
    (hn : ∀ i l, ys[i]? = some l → n (line + i) = (Text.leadingBlanks l.text).length) :
    List.Forall₂ (BracketSite.Moved m n) (bracketSitesBefore ⟨stop, 0⟩ line xs)
      (bracketSitesBefore ⟨stop, 0⟩ line ys) := by
  induction h generalizing line with
  | nil => exact .nil
  | cons hl _ ih =>
    have hrest := @ih (line + 1)
      (fun i l hi => by rw [Nat.add_assoc, Nat.add_comm 1]; exact hm (i + 1) l hi)
      (fun i l hi => by rw [Nat.add_assoc, Nat.add_comm 1]; exact hn (i + 1) l hi)
    simp only [bracketSitesBefore]
    split
    · exact List.rel_append (hl.bracketSites (hm 0 _ rfl) (hn 0 _ rfl)) hrest
    · split
      · simp
      · exact .nil

end

section
variable {R : Position → Position → Prop}

theorem rel_unclosed? (bracket : Bracket) (closed : Nat) {xs ys : List BracketSite}
    (h : List.Forall₂ (fun s t => s.char = t.char ∧ R s.position t.position) xs ys) :
    Option.Rel R (unclosed? bracket closed xs) (unclosed? bracket closed ys) := by
  induction h generalizing closed with
  | nil => exact .none
  | cons hsite _ ih =>
    obtain ⟨hchar, hposition⟩ := hsite
    simp only [unclosed?, hchar]
    split
    · exact ih _
    · split
      · cases closed with
        | zero => exact .some hposition
        | succ closed => exact ih _
      · exact ih _

theorem forall₂_anchors {xs ys : List BracketSite}
    (h : List.Forall₂ (fun s t => s.char = t.char ∧ R s.position t.position) xs ys)
    (brackets : List Bracket) :
    List.Forall₂ (fun x y : Anchor => x.bracket = y.bracket ∧ R x.position y.position)
      (brackets.filterMap fun bracket => (unclosed? bracket 0 xs).map (Anchor.mk · bracket))
      (brackets.filterMap fun bracket => (unclosed? bracket 0 ys).map (Anchor.mk · bracket)) := by
  induction brackets with
  | nil => exact .nil
  | cons bracket rest ih =>
    rcases rel_cases (rel_unclosed? bracket 0 h) with ⟨hx, hy⟩ | ⟨p, q, hx, hy, hpq⟩
    · simpa [hx, hy] using ih
    · simpa [hx, hy] using ⟨hpq, ih⟩

/-- Where the brackets before two points correspond and stand in the same order,
so do the nearest open ones. -/
theorem Document.rel_lastAnchor? {a b : Document} {p q : Position}
    (hbefore : ∀ {p q p' q'}, R p q → R p' q' → p.isBefore p' = q.isBefore q')
    (hsites : List.Forall₂ (fun s t => s.char = t.char ∧ R s.position t.position)
      (a.bracketSitesBefore p) (b.bracketSitesBefore q)) :
    Option.Rel (fun x y : Anchor => x.bracket = y.bracket ∧ R x.position y.position)
      (a.lastAnchor? p) (b.lastAnchor? q) := by
  have hanchors := forall₂_anchors (List.rel_reverse hsites) Bracket.all
  simp only [Document.lastAnchor?]
  revert hanchors
  generalize Bracket.all.filterMap _ = xs
  generalize Bracket.all.filterMap _ = ys
  rintro (_ | ⟨hfirst, hrest⟩)
  · exact .none
  · refine .some (List.rel_foldl
      (P := fun x y : Anchor => x.bracket = y.bracket ∧ R x.position y.position)
      (fun x y hxy x' y' hxy' => ?_) hfirst hrest)
    rw [hbefore hxy'.2 hxy.2]
    split
    · exact hxy
    · exact hxy'

end

theorem Document.Shifted.lastAnchor? {a b : Document} (h : a.Shifted b) (line : Nat) :
    Option.Rel (Anchor.Moved a.margin b.margin) (a.lastAnchor? ⟨line, 0⟩)
      (b.lastAnchor? ⟨line, 0⟩) := by
  have margin_eq (doc : Document) (i : Nat) (l : SourceLine) (hi : doc.lines[i]? = some l) :
      doc.margin (0 + i) = (Text.leadingBlanks l.text).length := by
    simp [margin, Document.line, hi]
  exact Document.rel_lastAnchor? (fun hp hq => hp.isBefore hq)
    (bracketSitesBefore_moved line h (margin_eq a) (margin_eq b))

-- ---------------------------------------------------------------------------
-- The text of a statement
-- ---------------------------------------------------------------------------

namespace Statement

theorem joined_eq (line : Text) :
    joined line = Text.leadingBlanks line ++ joined (Text.body line) := by
  rw [joined, joined, Text.endsInBackslash_body]
  split
  case isTrue h =>
    have hbody : Text.body line ≠ [] := by
      intro hnil
      rw [← Text.endsInBackslash_body, hnil] at h
      exact absurd h (by decide)
    rw [← List.append_assoc, ← List.dropLast_append_of_ne_nil hbody,
      Text.leadingBlanks_append_body]
  case isFalse => exact (Text.leadingBlanks_append_body line).symm

theorem byteLength_joined (line : Text) :
    Text.byteLength (joined line) = Text.byteLength line := by
  rw [joined]
  split
  case isTrue h =>
    obtain ⟨front, rfl⟩ := List.getLast?_eq_some_iff.mp (beq_iff_eq.mp h)
    rw [List.dropLast_concat, Text.byteLength_append, Text.byteLength_append]
    rfl
  case isFalse => rfl

/-- The joined lines from a line on with `lines` more below it. -/
def textFrom (doc : Document) (lines line : Nat) : Text :=
  List.intercalate [' '] ((List.range' line (lines + 1)).map fun l => joined (doc.line l))

theorem textFrom_zero (doc : Document) (line : Nat) :
    textFrom doc 0 line = joined (doc.line line) := by
  simp [textFrom]

theorem textFrom_succ (doc : Document) (lines line : Nat) :
    textFrom doc (lines + 1) line =
      joined (doc.line line) ++ ' ' :: textFrom doc lines (line + 1) := by
  simp [textFrom, List.range'_succ]

theorem content_eq_textFrom {stmt : Statement} (h : stmt.Ordered) (doc : Document) :
    stmt.content doc = textFrom doc (stmt.stop - stmt.start) stmt.start := by
  have hle : stmt.start ≤ stmt.stop := h
  have hlines : stmt.stop + 1 - stmt.start = stmt.stop - stmt.start + 1 := by omega
  rw [content, lineNumbers, hlines, textFrom]

def kindFrom (doc : Document) (lines line offset : Nat) : Attribute :=
  let position := walk doc lines line offset
  doc.attributeAt position.line position.column

theorem marksFrom_succ (doc : Document) (lines line : Nat) :
    marksFrom (kindFrom doc (lines + 1) line) 0 (textFrom doc (lines + 1) line) =
      marksFrom (doc.attributeAt line) 0 (joined (doc.line line)) ++
        (' ', doc.attributeAt line (doc.lineLength line)) ::
          marksFrom (kindFrom doc lines (line + 1)) 0 (textFrom doc lines (line + 1)) := by
  have hlength : Text.byteLength (joined (doc.line line)) = doc.lineLength line :=
    byteLength_joined _
  have hsize : ' '.utf8Size = 1 := rfl
  rw [textFrom_succ, marksFrom_append, marksFrom, hlength, hsize]
  congr 1
  · refine marksFrom_congr fun i hi => ?_
    rw [kindFrom, walk, if_neg (by omega)]
  · congr 1
    · rw [kindFrom, walk, if_neg (by omega), Nat.zero_add]
    · refine marksFrom_congr fun i _ => ?_
      rw [kindFrom, walk, if_pos (by omega), kindFrom]
      congr 3 <;> omega

end Statement

namespace Document.Shifted

open Statement

variable {a b : Document}

theorem lineLength_eq (doc : Document) (line : Nat) :
    doc.lineLength line = doc.margin line + Text.byteLength (Text.body (doc.line line)) := by
  conv_lhs => rw [lineLength, ← Text.leadingBlanks_append_body (doc.line line)]
  rw [Text.byteLength_append, (Text.allBlank_leadingBlanks _).byteLength, margin]

theorem stretch_line (h : a.Shifted b) (line : Nat) {s t : Marks} (hst : Stretch false s t) :
    Stretch true (marksFrom (a.attributeAt line) 0 (joined (a.line line)) ++ s)
      (marksFrom (b.attributeAt line) 0 (joined (b.line line)) ++ t) := by
  have hbody : marksFrom (a.attributeAt line) (a.margin line) (joined (Text.body (a.line line))) =
      marksFrom (b.attributeAt line) (b.margin line) (joined (Text.body (b.line line))) := by
    rw [h.body_line]
    exact marksFrom_congr fun i _ => h.attributeAt line i
  have hblank (doc : Document) := Text.allBlank_leadingBlanks (doc.line line)
  rw [joined_eq (a.line line), joined_eq (b.line line), marksFrom_append, marksFrom_append,
    (hblank a).byteLength, (hblank b).byteLength, Nat.zero_add,
    Nat.zero_add, ← margin, ← margin, hbody, List.append_assoc, List.append_assoc]
  exact ((hst.append_left _ true).blanks_right ((hblank b).marksFrom _ 0)).blanks_left
    ((hblank a).marksFrom _ 0)

theorem stretch_textFrom (h : a.Shifted b) (lines line : Nat) :
    Stretch true (marksFrom (kindFrom a lines line) 0 (textFrom a lines line))
      (marksFrom (kindFrom b lines line) 0 (textFrom b lines line)) := by
  induction lines generalizing line with
  | zero =>
    have hline := h.stretch_line line (s := []) (t := []) .nil
    rw [List.append_nil, List.append_nil] at hline
    rwa [textFrom_zero, textFrom_zero]
  | succ lines ih =>
    have hspace : a.attributeAt line (a.lineLength line) =
        b.attributeAt line (b.lineLength line) := by
      rw [lineLength_eq, lineLength_eq, h.body_line, h.attributeAt]
    rw [marksFrom_succ, marksFrom_succ, hspace]
    exact h.stretch_line line (.same ' ' _ (ih (line + 1)))

theorem stretch_content (h : a.Shifted b) (stmt : Statement) :
    Stretch true (marksFrom (kindFrom a (stmt.stop - stmt.start) stmt.start) 0 (stmt.content a))
      (marksFrom (kindFrom b (stmt.stop - stmt.start) stmt.start) 0 (stmt.content b)) := by
  by_cases hs : stmt.start ≤ stmt.stop
  · rw [content_eq_textFrom hs, content_eq_textFrom hs]
    exact h.stretch_textFrom _ _
  · have hnone : stmt.stop + 1 - stmt.start = 0 := by omega
    have hcontent (doc : Document) : stmt.content doc = [] := by
      simp [content, lineNumbers, hnone]
    rw [hcontent, hcontent]
    exact .nil

end Document.Shifted

theorem Statement.endsWith_eq (stmt : Statement) (doc : Document) (pattern : Pattern) :
    stmt.endsWith doc pattern = pattern.reachesEnd
      (kindFrom doc (stmt.stop - stmt.start) stmt.start) (Cursor.start (stmt.content doc)) := by
  have hfinish : (Cursor.start (stmt.content doc)).finish = Text.byteLength (stmt.content doc) :=
    Nat.zero_add _
  rw [Pattern.reachesEnd, hfinish]
  rfl

-- ---------------------------------------------------------------------------
-- Statements and blocks
-- ---------------------------------------------------------------------------

namespace Document.Shifted

variable {a b : Document}

theorem endsWith (h : a.Shifted b) (stmt : Statement) {pattern : Pattern}
    (hsteady : ∀ α β, pattern.Steady α β) : stmt.endsWith a pattern = stmt.endsWith b pattern := by
  rw [Statement.endsWith_eq, Statement.endsWith_eq]
  exact (hsteady _ _).reachesEnd_eq (.start (h.stretch_content stmt))

theorem opensBlock (h : a.Shifted b) (stmt : Statement) :
    a.opensBlock .default stmt = b.opensBlock .default stmt := by
  rw [Document.opensBlock, Document.opensBlock, Rules.isMatch_blockStart (h.stretch_content stmt),
    h.endsWith stmt fun _ _ => Pattern.steady_blockOpenerTail]

theorem closesBlock (h : a.Shifted b) (stmt : Statement) :
    a.closesBlock .default stmt = b.closesBlock .default stmt :=
  Rules.isMatch_blockEnd (h.stretch_content stmt)

theorem joins (h : a.Shifted b) (line below : Nat) :
    a.joins .default line below = b.joins .default line below := by
  have hopen : (a.lastAnchor? ⟨line + 1, 0⟩).isSome = (b.lastAnchor? ⟨line + 1, 0⟩).isSome := by
    rcases rel_cases (h.lastAnchor? (line + 1)) with ⟨ha, hb⟩ | ⟨x, y, ha, hb, -⟩
    · rw [ha, hb]
    · rw [ha, hb]
      rfl
  rw [Document.joins, Document.joins, h.endsInBackslash, continues, continues, hopen,
    h.endsWith _ fun _ _ => Pattern.steady_continuation]

theorem previousStatement? (h : a.Shifted b) (line : Nat) :
    a.previousStatement? .default line = b.previousStatement? .default line := by
  have hstart (stop : Nat) : a.statementStart .default stop = b.statementStart .default stop := by
    rw [statementStart, statementStart, h.lineCount]
    exact extendUp_congr (fun m _ => h.isCodeLine m) (fun m _ => h.joins m) stop
  rw [Document.previousStatement?, Document.previousStatement?, h.previousCodeLine?]
  simp only [hstart]

theorem blockStart? (h : a.Shifted b) (line : Nat) :
    a.blockStart? .default line = b.blockStart? .default line := by
  rw [Document.blockStart?, Document.blockStart?, h.lineCount]
  refine blockStartFrom?_congr ?_ (fun stmt _ _ => h.opensBlock stmt)
    (fun stmt _ _ => h.closesBlock stmt) _ _
  intro m _
  cases m with
  | zero => rfl
  | succ m => exact h.previousStatement? m

end Document.Shifted

/-- What an analysis finds alike in two documents from a line upwards. The
nearest open bracket may stand in another column, as far from the old one as
its line moved. -/
structure SameStructure (rules : Rules) (a b : Document) (line : Nat) : Prop where
  previousStatement : b.previousStatement? rules line = a.previousStatement? rules line
  blockStart : b.blockStart? rules line = a.blockStart? rules line
  opensBlock : ∀ stmt : Statement, b.opensBlock rules stmt = a.opensBlock rules stmt
  closesBlock : ∀ stmt : Statement, b.closesBlock rules stmt = a.closesBlock rules stmt
  anchor : Option.Rel (fun x y => y.position.line = x.position.line ∧ y.bracket = x.bracket ∧
    (y.position.column : Int) - x.position.column =
      (b.margin x.position.line : Int) - a.margin x.position.line)
    (a.lastAnchor? ⟨line, 0⟩) (b.lastAnchor? ⟨line, 0⟩)

theorem Document.Shifted.sameStructure {a b : Document} (h : a.Shifted b) (line : Nat) :
    SameStructure .default a b line where
  previousStatement := (h.previousStatement? line).symm
  blockStart := (h.blockStart? line).symm
  opensBlock := fun stmt => (h.opensBlock stmt).symm
  closesBlock := fun stmt => (h.closesBlock stmt).symm
  anchor := by
    rcases rel_cases (h.lastAnchor? line) with ⟨ha, hb⟩ | ⟨x, y, ha, hb, hbracket, hline, hcolumn⟩
    · rw [ha, hb]
      exact .none
    · rw [ha, hb]
      exact .some ⟨hline.symm, hbracket.symm, by omega⟩

/-- With the default rules, a pass over any lines with any settings keeps the
statements, the blocks and the open brackets that an analysis finds from any
line upwards. -/
theorem indentLines_keeps_structure (rules : Rules) (hrules : Config.default.compile = .ok rules)
    (settings : Settings) (texts : List Text) (hbegin : NoIndentedBegin texts)
    (tabWidth first last line : Nat) :
    let before := Document.ofLines texts tabWidth
    let after := (Indenter.indentLines ⟨rules, settings⟩ before first last).1
    SameStructure rules before after line := by
  intro before after
  obtain rfl := Rules.eq_default hrules
  have hkeeps : Rules.default.KeepsEmbedded :=
    Rules.keepsEmbedded_of_mem (by decide) (by decide)
  have hshifted : before.Shifted after :=
    (Indenter.shifted_indentLines ⟨.default, settings⟩ hbegin hkeeps tabWidth first last).imp
      fun _ _ h => h.1
  exact hshifted.sameStructure line

/-- An argument list inside a condition: its bracket moves with its line. -/
theorem indentLines_keeps_structure_bracket :
    let before := Document.ofLines
      ["if a".toList, "f(1,".toList, "2".toList, ")".toList, "end".toList] 8
    let after := (Indenter.indentLines ⟨.default, .default⟩ before 0 4).1
    before.lastAnchor? ⟨3, 0⟩ = some ⟨⟨1, 1⟩, .paren⟩ ∧
      after.lastAnchor? ⟨3, 0⟩ = some ⟨⟨1, 3⟩, .paren⟩ ∧
      SameStructure .default before after 3 :=
  ⟨by decide, by decide +kernel, indentLines_keeps_structure .default Config.compile_default
    .default _ (by decide) 8 0 4 3⟩

end Reindent
