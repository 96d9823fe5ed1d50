import Mathlib.Tactic.Common
import Reindent.Decision
import Reindent.Proofs.DefaultRules

/-!
# Answers rest on the lines above

Two documents agree above line `n` when their first `n` lines have the same
texts and rows. Every scanner that the decision about a line uses gives the
same answer in both, as long as it starts above `n`: the searches go upwards
only, and a search for open brackets may start at the very beginning of line
`n` because it looks strictly before that point. States of the lexer and all
that lies below play no part.
-/

namespace Reindent

/-- What an analysis can see of the first `n` lines. -/
def Document.visible (doc : Document) (n : Nat) : List (Text × Row) :=
  (doc.lines.take n).map fun l => (l.text, l.row)

structure AgreeAbove (n : Nat) (a b : Document) : Prop where
  tabWidth : a.tabWidth = b.tabWidth
  visible : a.visible n = b.visible n

variable {n : Nat} {a b : Document} {rules : Rules}

namespace AgreeAbove

theorem refl (n : Nat) (a : Document) : AgreeAbove n a a := ⟨rfl, rfl⟩

theorem symm (h : AgreeAbove n a b) : AgreeAbove n b a := ⟨h.tabWidth.symm, h.visible.symm⟩

theorem trans {c : Document} (h : AgreeAbove n a b) (h' : AgreeAbove n b c) : AgreeAbove n a c :=
  ⟨h.tabWidth.trans h'.tabWidth, h.visible.trans h'.visible⟩

theorem mono {m : Nat} (h : AgreeAbove n a b) (hm : m ≤ n) : AgreeAbove m a b := by
  refine ⟨h.tabWidth, ?_⟩
  have hv := congrArg (List.take m) h.visible
  simpa only [Document.visible, ← List.map_take, List.take_take, Nat.min_eq_left hm] using hv

theorem min_lineCount (h : AgreeAbove n a b) : min n a.lineCount = min n b.lineCount := by
  have hv := congrArg List.length h.visible
  simpa [Document.visible, Document.lineCount] using hv

-- ---------------------------------------------------------------------------
-- Single lines
-- ---------------------------------------------------------------------------

theorem getElem? (h : AgreeAbove n a b) {i : Nat} (hi : i < n) :
    a.lines[i]?.map (fun l => (l.text, l.row)) = b.lines[i]?.map fun l => (l.text, l.row) := by
  have hv := congrArg (fun l => l[i]?) h.visible
  simpa [Document.visible, List.getElem?_take_of_lt hi] using hv

theorem line (h : AgreeAbove n a b) {i : Nat} (hi : i < n) : a.line i = b.line i := by
  have hl := congrArg (Option.map Prod.fst) (h.getElem? hi)
  simp only [Option.map_map, Function.comp_def] at hl
  rw [Document.line, Document.line, hl]

theorem attributeAt (h : AgreeAbove n a b) {i : Nat} (hi : i < n) (column : Nat) :
    a.attributeAt i column = b.attributeAt i column := by
  have hr := congrArg (Option.map Prod.snd) (h.getElem? hi)
  simp only [Option.map_map, Function.comp_def] at hr
  rw [Document.attributeAt, Document.attributeAt, hr]

theorem isCode (h : AgreeAbove n a b) {i : Nat} (hi : i < n) (column : Nat) :
    a.isCode i column = b.isCode i column := by
  rw [Document.isCode, Document.isCode, h.attributeAt hi]

theorem isComment (h : AgreeAbove n a b) {i : Nat} (hi : i < n) (column : Nat) :
    a.isComment i column = b.isComment i column := by
  rw [Document.isComment, Document.isComment, h.attributeAt hi]

theorem lineLength (h : AgreeAbove n a b) {i : Nat} (hi : i < n) :
    a.lineLength i = b.lineLength i := by
  rw [Document.lineLength, Document.lineLength, h.line hi]

theorem firstColumn (h : AgreeAbove n a b) {i : Nat} (hi : i < n) :
    a.firstColumn i = b.firstColumn i := by
  rw [Document.firstColumn, Document.firstColumn, h.line hi]

theorem nextNonBlankColumn (h : AgreeAbove n a b) {i : Nat} (hi : i < n) (column : Nat) :
    a.nextNonBlankColumn i column = b.nextNonBlankColumn i column := by
  rw [Document.nextNonBlankColumn, Document.nextNonBlankColumn, h.line hi]

theorem virtualColumn (h : AgreeAbove n a b) {i : Nat} (hi : i < n) (column : Nat) :
    a.virtualColumn i column = b.virtualColumn i column := by
  rw [Document.virtualColumn, Document.virtualColumn, h.line hi, h.tabWidth]

theorem firstVirtualColumn (h : AgreeAbove n a b) {i : Nat} (hi : i < n) :
    a.firstVirtualColumn i = b.firstVirtualColumn i := by
  have hc : a.virtualColumn i = b.virtualColumn i := funext (h.virtualColumn hi)
  rw [Document.firstVirtualColumn, Document.firstVirtualColumn, h.firstColumn hi, hc]

theorem isCodeLine (h : AgreeAbove n a b) {i : Nat} (hi : i < n) :
    a.isCodeLine i = b.isCodeLine i := by
  have hc : a.isComment i = b.isComment i := funext (h.isComment hi)
  rw [Document.isCodeLine, Document.isCodeLine, h.firstColumn hi, hc]

theorem isLastCodeColumn (h : AgreeAbove n a b) {i : Nat} (hi : i < n) (column : Nat) :
    a.isLastCodeColumn i column = b.isLastCodeColumn i column := by
  have hc : a.isComment i = b.isComment i := funext (h.isComment hi)
  simp only [Document.isLastCodeColumn, Document.lastColumn, h.line hi,
    h.nextNonBlankColumn hi, hc]

end AgreeAbove

theorem greatestBelow?_congr {p q : Nat → Bool} {bound : Nat} (h : ∀ m < bound, p m = q m) :
    greatestBelow? p bound = greatestBelow? q bound := by
  induction bound with
  | zero => rfl
  | succ m ih =>
    rw [greatestBelow?, greatestBelow?, h m (Nat.lt_succ_self m),
      ih fun k hk => h k (Nat.lt_succ_of_lt hk)]

namespace AgreeAbove

theorem min_lineCount_of_le (h : AgreeAbove n a b) {m : Nat} (hm : m ≤ n) :
    min m a.lineCount = min m b.lineCount :=
  (h.mono hm).min_lineCount

theorem previousNonBlankLine? (h : AgreeAbove n a b) {i : Nat} (hi : i < n) :
    a.previousNonBlankLine? i = b.previousNonBlankLine? i := by
  rw [Document.previousNonBlankLine?, Document.previousNonBlankLine?, h.min_lineCount_of_le hi]
  apply greatestBelow?_congr
  intro m hm
  rw [h.firstColumn (by omega)]

theorem previousCodeLine? (h : AgreeAbove n a b) {i : Nat} (hi : i < n) :
    a.previousCodeLine? i = b.previousCodeLine? i := by
  rw [Document.previousCodeLine?, Document.previousCodeLine?, h.min_lineCount_of_le hi]
  apply greatestBelow?_congr
  intro m hm
  exact h.isCodeLine (by omega)

end AgreeAbove

-- ---------------------------------------------------------------------------
-- Open brackets
-- ---------------------------------------------------------------------------

def Position.Before (p point : Position) : Prop :=
  p.line < point.line ∨ p.line = point.line ∧ p.column < point.column

theorem line_of_mem_bracketSites {line column : Nat} {text : Text} {row : Row} {site : BracketSite}
    (h : site ∈ bracketSites line column text row) : site.position.line = line := by
  induction text generalizing column row with
  | nil => simp [bracketSites] at h
  | cons c rest ih =>
    simp only [bracketSites] at h
    split at h
    · rcases List.mem_cons.mp h with rfl | h
      · rfl
      · exact ih h
    · exact ih h

theorem before_of_mem_bracketSitesBefore {point : Position} {line : Nat} {lines : List SourceLine}
    {site : BracketSite} (h : site ∈ bracketSitesBefore point line lines) :
    site.position.Before point := by
  induction lines generalizing line with
  | nil => simp [bracketSitesBefore] at h
  | cons l rest ih =>
    simp only [bracketSitesBefore] at h
    split at h
    case isTrue hlt =>
      rcases List.mem_append.mp h with h | h
      · exact .inl (line_of_mem_bracketSites h ▸ hlt)
      · exact ih h
    case isFalse =>
      split at h
      case isTrue heq =>
        obtain ⟨hmem, hcol⟩ := List.mem_filter.mp h
        exact .inr ⟨(line_of_mem_bracketSites hmem).trans heq, of_decide_eq_true hcol⟩
      case isFalse => simp at h

theorem mem_of_unclosed? {bracket : Bracket} {closed : Nat} {sites : List BracketSite}
    {p : Position} (h : unclosed? bracket closed sites = some p) :
    ∃ site ∈ sites, site.position = p := by
  induction sites generalizing closed with
  | nil => simp [unclosed?] at h
  | cons site rest ih =>
    have later {closed : Nat} (h : unclosed? bracket closed rest = some p) :
        ∃ s ∈ site :: rest, s.position = p := by
      obtain ⟨s, hs, hp⟩ := ih h
      exact ⟨s, List.mem_cons_of_mem _ hs, hp⟩
    simp only [unclosed?] at h
    split at h
    · exact later h
    · split at h
      · cases closed with
        | zero => exact ⟨site, List.mem_cons_self, by simpa using h⟩
        | succ closed => exact later h
      · exact later h

theorem mem_of_foldl_choose {α : Type} (p : α → α → Bool) (first : α) (rest : List α) :
    rest.foldl (fun x y => if p x y then x else y) first ∈ first :: rest := by
  induction rest generalizing first with
  | nil => simp
  | cons y rest ih =>
    rw [List.foldl_cons]
    rcases List.mem_cons.mp (ih (if p first y then first else y)) with h | h
    · rw [h]
      split <;> simp
    · exact List.mem_cons_of_mem _ (List.mem_cons_of_mem _ h)

theorem Document.anchor?_of_lastAnchor? {doc : Document} {point : Position} {anchor : Anchor}
    (h : doc.lastAnchor? point = some anchor) :
    doc.anchor? anchor.bracket point = some anchor.position := by
  simp only [Document.lastAnchor?] at h
  split at h
  case h_1 => simp at h
  case h_2 first rest heq =>
    have hmem := mem_of_foldl_choose (fun x y : Anchor => y.position.isBefore x.position) first rest
    rw [Option.some.inj h, ← heq] at hmem
    obtain ⟨bracket, -, hb⟩ := List.mem_filterMap.mp hmem
    obtain ⟨p, hp, rfl⟩ := Option.map_eq_some_iff.mp hb
    exact hp

theorem Document.before_of_lastAnchor? {doc : Document} {point : Position} {anchor : Anchor}
    (h : doc.lastAnchor? point = some anchor) : anchor.position.Before point := by
  obtain ⟨site, hs, hp⟩ := mem_of_unclosed? (anchor?_of_lastAnchor? h)
  rw [← hp]
  exact before_of_mem_bracketSitesBefore (List.mem_reverse.mp hs)

theorem Document.line_lt_of_lastAnchor? {doc : Document} {line : Nat} {anchor : Anchor}
    (h : doc.lastAnchor? ⟨line, 0⟩ = some anchor) : anchor.position.line < line := by
  rcases before_of_lastAnchor? h with h | ⟨-, h⟩
  · exact h
  · exact absurd h (Nat.not_lt_zero _)

def Position.Within (n : Nat) (point : Position) : Prop :=
  point.line < n ∨ point.line = n ∧ point.column = 0

theorem bracketSitesBefore_congr {point : Position} {n line : Nat} {xs ys : List SourceLine}
    (h : (xs.take n).map (fun l => (l.text, l.row)) = (ys.take n).map fun l => (l.text, l.row))
    (hp : point.Within (line + n)) :
    bracketSitesBefore point line xs = bracketSitesBefore point line ys := by
  induction n generalizing line xs ys with
  | zero =>
    -- No line is shared, but none counts either.
    have none_of (zs : List SourceLine) : bracketSitesBefore point line zs = [] := by
      cases zs with
      | nil => rfl
      | cons l rest =>
        have hlt : ¬ line < point.line := by rcases hp with hp | hp <;> omega
        rw [bracketSitesBefore, if_neg hlt]
        split
        · have hzero : point.column = 0 := by rcases hp with hp | hp <;> omega
          simp [hzero]
        · rfl
    rw [none_of, none_of]
  | succ n ih =>
    cases xs with
    | nil =>
      cases ys with
      | nil => rfl
      | cons _ _ => simp at h
    | cons x xs =>
      cases ys with
      | nil => simp at h
      | cons y ys =>
        simp only [List.take_succ_cons, List.map_cons, List.cons.injEq, Prod.mk.injEq] at h
        obtain ⟨⟨htext, hrow⟩, h⟩ := h
        have hp' : point.Within (line + 1 + n) := by
          rwa [Nat.add_assoc, Nat.add_comm 1 n]
        simp only [bracketSitesBefore, htext, hrow, ih h hp']

namespace AgreeAbove

theorem bracketSitesBefore (h : AgreeAbove n a b) {point : Position} (hp : point.Within n) :
    a.bracketSitesBefore point = b.bracketSitesBefore point :=
  bracketSitesBefore_congr h.visible (by rwa [Nat.zero_add])

theorem lastAnchor? (h : AgreeAbove n a b) {point : Position} (hp : point.Within n) :
    a.lastAnchor? point = b.lastAnchor? point := by
  rw [Document.lastAnchor?, Document.lastAnchor?, h.bracketSitesBefore hp]

theorem lastAnchor?_lineStart (h : AgreeAbove n a b) {line : Nat} (hl : line ≤ n) :
    a.lastAnchor? ⟨line, 0⟩ = b.lastAnchor? ⟨line, 0⟩ :=
  h.lastAnchor? ((Nat.lt_or_eq_of_le hl).imp id fun he => ⟨he, rfl⟩)

end AgreeAbove

-- ---------------------------------------------------------------------------
-- Statements
-- ---------------------------------------------------------------------------

def Statement.Ordered (stmt : Statement) : Prop := stmt.start ≤ stmt.stop

theorem Statement.le_stop_of_mem_lineNumbers {stmt : Statement} {line : Nat}
    (h : line ∈ stmt.lineNumbers) : line ≤ stmt.stop := by
  obtain ⟨i, hi, rfl⟩ := List.mem_range'.mp h
  omega

theorem Statement.line_walk_le (doc : Document) (lines line offset : Nat) :
    (walk doc lines line offset).line ≤ line + lines := by
  induction lines generalizing line offset with
  | zero => simp [walk]
  | succ lines ih =>
    simp only [walk]
    split
    · exact Nat.le_trans (ih _ _) (by omega)
    · exact Nat.le_add_right _ _

theorem Statement.line_positionAt_le {stmt : Statement} (hs : stmt.Ordered) (doc : Document)
    (offset : Nat) : (stmt.positionAt doc offset).line ≤ stmt.stop := by
  have h := line_walk_le doc (stmt.stop - stmt.start) stmt.start offset
  have := hs
  simp only [Ordered, positionAt] at *
  omega

theorem Statement.ordered_singleLine (line : Nat) : (singleLine line).Ordered := Nat.le_refl line

theorem Document.extendUp_le (doc : Document) (rules : Rules) {start bound : Nat}
    (h : bound ≤ start) : doc.extendUp rules start bound ≤ start := by
  induction bound generalizing start with
  | zero => exact Nat.le_refl _
  | succ m ih =>
    simp only [extendUp]
    split
    · split
      · exact Nat.le_trans (ih (Nat.le_refl m)) (by omega)
      · exact Nat.le_refl _
    · exact ih (by omega)

theorem Document.statementStart_le (doc : Document) (rules : Rules) (line : Nat) :
    doc.statementStart rules line ≤ line :=
  doc.extendUp_le rules (Nat.min_le_left _ _)

theorem Document.previousStatement?_bounds {doc : Document} {line : Nat} {stmt : Statement}
    (h : doc.previousStatement? rules line = some stmt) : stmt.Ordered ∧ stmt.stop ≤ line := by
  obtain ⟨stop, hstop, rfl⟩ := Option.map_eq_some_iff.mp h
  obtain ⟨hlt, -⟩ := greatestBelow?_eq_some hstop
  refine ⟨doc.statementStart_le rules stop, ?_⟩
  show stop ≤ line
  omega

theorem Document.statementAbove?_bounds {doc : Document} {line : Nat} {stmt : Statement}
    (h : doc.statementAbove? rules line = some stmt) : stmt.Ordered ∧ stmt.stop < line := by
  cases line with
  | zero => simp [statementAbove?] at h
  | succ line =>
    obtain ⟨hs, hl⟩ := previousStatement?_bounds h
    exact ⟨hs, Nat.lt_succ_of_le hl⟩

theorem Document.blockStartFrom?_bounds {doc : Document} {steps closed line : Nat}
    {stmt : Statement} (h : doc.blockStartFrom? rules steps closed line = some stmt) :
    stmt.Ordered ∧ stmt.stop < line := by
  induction steps generalizing closed line with
  | zero => simp [blockStartFrom?] at h
  | succ steps ih =>
    simp only [blockStartFrom?] at h
    split at h
    case h_1 => simp at h
    case h_2 found hfound =>
      obtain ⟨hs, hl⟩ := statementAbove?_bounds hfound
      have later {closed : Nat}
          (h : doc.blockStartFrom? rules steps closed found.start = some stmt) :
          stmt.Ordered ∧ stmt.stop < line := by
        obtain ⟨ho, hlt⟩ := ih h
        have : found.start ≤ found.stop := hs
        exact ⟨ho, by omega⟩
      split at h
      · split at h
        · obtain rfl := Option.some.inj h
          exact ⟨hs, hl⟩
        · exact later h
      · exact later h

theorem Document.extendUp_congr {bound : Nat}
    (hcode : ∀ m < bound, a.isCodeLine m = b.isCodeLine m)
    (hjoins : ∀ m < bound, ∀ below, a.joins rules m below = b.joins rules m below) (start : Nat) :
    a.extendUp rules start bound = b.extendUp rules start bound := by
  induction bound generalizing start with
  | zero => rfl
  | succ m ih =>
    have hrest := ih (fun k hk => hcode k (by omega)) (fun k hk => hjoins k (by omega))
    rw [extendUp, extendUp, hcode m (Nat.lt_succ_self m), hjoins m (Nat.lt_succ_self m), hrest,
      hrest]

theorem Document.blockStartFrom?_congr {line : Nat}
    (habove : ∀ m ≤ line, a.statementAbove? rules m = b.statementAbove? rules m)
    (hopens : ∀ stmt : Statement, stmt.Ordered → stmt.stop < line →
      a.opensBlock rules stmt = b.opensBlock rules stmt)
    (hcloses : ∀ stmt : Statement, stmt.Ordered → stmt.stop < line →
      a.closesBlock rules stmt = b.closesBlock rules stmt) (steps closed : Nat) :
    a.blockStartFrom? rules steps closed line = b.blockStartFrom? rules steps closed line := by
  induction steps generalizing closed line with
  | zero => rfl
  | succ steps ih =>
    rw [blockStartFrom?, blockStartFrom?, habove line (Nat.le_refl line)]
    cases hfound : b.statementAbove? rules line with
    | none => rfl
    | some above =>
      -- The search goes on above the statement, where all the premises hold too.
      obtain ⟨hs, hlt⟩ := statementAbove?_bounds hfound
      have hle : above.start ≤ above.stop := hs
      have hrest := @ih above.start (fun m hm => habove m (by omega))
        (fun stmt ho hn => hopens stmt ho (by omega)) (fun stmt ho hn => hcloses stmt ho (by omega))
      simp only [hcloses above hs hlt, hopens above hs hlt, hrest]

namespace AgreeAbove

variable {stmt : Statement}

theorem content (h : AgreeAbove n a b) (hn : stmt.stop < n) : stmt.content a = stmt.content b := by
  rw [Statement.content, Statement.content]
  congr 1
  apply List.map_congr_left
  intro line hl
  have := Statement.le_stop_of_mem_lineNumbers hl
  rw [h.line (by omega)]

theorem walk (h : AgreeAbove n a b) {lines line : Nat} (hl : line + lines ≤ n) (offset : Nat) :
    Statement.walk a lines line offset = Statement.walk b lines line offset := by
  induction lines generalizing line offset with
  | zero => rfl
  | succ lines ih =>
    have hrest := fun offset => @ih (line + 1) (by omega) offset
    rw [Statement.walk, Statement.walk, h.lineLength (by omega)]
    simp only [hrest]

theorem positionAt (h : AgreeAbove n a b) (hs : stmt.Ordered) (hn : stmt.stop < n)
    (offset : Nat) : stmt.positionAt a offset = stmt.positionAt b offset := by
  have : stmt.start ≤ stmt.stop := hs
  exact h.walk (by omega) offset

theorem isCodeAt (h : AgreeAbove n a b) (hs : stmt.Ordered) (hn : stmt.stop < n)
    (offset : Nat) : stmt.isCodeAt a offset = stmt.isCodeAt b offset := by
  have hl := Statement.line_positionAt_le hs b offset
  rw [Statement.isCodeAt, Statement.isCodeAt, h.positionAt hs hn]
  exact h.isCode (by omega) _

theorem isCommentAt (h : AgreeAbove n a b) (hs : stmt.Ordered) (hn : stmt.stop < n)
    (offset : Nat) : stmt.isCommentAt a offset = stmt.isCommentAt b offset := by
  have hl := Statement.line_positionAt_le hs b offset
  rw [Statement.isCommentAt, Statement.isCommentAt, h.positionAt hs hn]
  exact h.isComment (by omega) _

theorem endsWith (h : AgreeAbove n a b) (hs : stmt.Ordered) (hn : stmt.stop < n)
    (pattern : Pattern) : stmt.endsWith a pattern = stmt.endsWith b pattern := by
  simp only [Statement.endsWith, h.content hn, h.isCodeAt hs hn, h.isCommentAt hs hn]

theorem indent (h : AgreeAbove n a b) (hs : stmt.Ordered) (hn : stmt.stop < n) :
    stmt.indent a = stmt.indent b := by
  have : stmt.start ≤ stmt.stop := hs
  rw [Statement.indent, Statement.indent, h.firstVirtualColumn (by omega)]

theorem joins (h : AgreeAbove n a b) {line : Nat} (hl : line < n) (below : Nat) :
    a.joins rules line below = b.joins rules line below := by
  have hc : a.continues rules line = b.continues rules line := by
    rw [Document.continues, Document.continues, h.lastAnchor?_lineStart hl,
      h.endsWith (Statement.ordered_singleLine line) hl]
  rw [Document.joins, Document.joins, hc, Document.endsInBackslash, Document.endsInBackslash,
    h.line hl]

theorem extendUp (h : AgreeAbove n a b) {bound : Nat} (hb : bound ≤ n) (start : Nat) :
    a.extendUp rules start bound = b.extendUp rules start bound :=
  Document.extendUp_congr (fun _ hm => h.isCodeLine (by omega)) (fun _ hm => h.joins (by omega))
    start

theorem previousStatement? (h : AgreeAbove n a b) {line : Nat} (hl : line < n) :
    a.previousStatement? rules line = b.previousStatement? rules line := by
  rw [Document.previousStatement?, Document.previousStatement?, h.previousCodeLine? hl]
  apply Option.map_congr
  intro stop hstop
  obtain ⟨hlt, -⟩ := greatestBelow?_eq_some hstop
  rw [Document.statementStart, Document.statementStart,
    h.min_lineCount_of_le (m := stop) (by omega), h.extendUp (by omega)]

theorem statementAbove? (h : AgreeAbove n a b) {line : Nat} (hl : line ≤ n) :
    a.statementAbove? rules line = b.statementAbove? rules line := by
  cases line with
  | zero => rfl
  | succ line => exact h.previousStatement? hl

-- ---------------------------------------------------------------------------
-- Blocks
-- ---------------------------------------------------------------------------

theorem opensBlock (h : AgreeAbove n a b) (hs : stmt.Ordered) (hn : stmt.stop < n) :
    a.opensBlock rules stmt = b.opensBlock rules stmt := by
  rw [Document.opensBlock, Document.opensBlock, h.content hn, h.endsWith hs hn]

theorem closesBlock (h : AgreeAbove n a b) (hn : stmt.stop < n) :
    a.closesBlock rules stmt = b.closesBlock rules stmt := by
  rw [Document.closesBlock, Document.closesBlock, h.content hn]

theorem blockStartFrom? (h : AgreeAbove n a b) {line : Nat} (hl : line ≤ n) (steps closed : Nat) :
    a.blockStartFrom? rules steps closed line = b.blockStartFrom? rules steps closed line :=
  Document.blockStartFrom?_congr (fun _ hm => h.statementAbove? (by omega))
    (fun _ hs hn => h.opensBlock hs (by omega)) (fun _ _ hn => h.closesBlock (by omega))
    steps closed

theorem blockStart? (h : AgreeAbove n a b) {line : Nat} (hl : line ≤ n) :
    a.blockStart? rules line = b.blockStart? rules line := by
  have hcount := h.min_lineCount
  have hsteps : min line (a.lineCount + 1) = min line (b.lineCount + 1) := by omega
  rw [Document.blockStart?, Document.blockStart?, hsteps, h.blockStartFrom? hl]

-- ---------------------------------------------------------------------------
-- The decision
-- ---------------------------------------------------------------------------

variable {above : Statement} {line indentWidth : Nat} {trigger : Trigger}

theorem hangs (h : AgreeAbove n a b) {anchor : Anchor} (hp : anchor.position.line < n) :
    a.hangs anchor = b.hangs anchor := by
  rw [Document.hangs, Document.hangs, h.isLastCodeColumn hp, h.lastAnchor? (.inl hp)]

theorem elementColumn (h : AgreeAbove n a b) {position : Position} (hp : position.line < n) :
    a.elementColumn position = b.elementColumn position := by
  simp only [Document.elementColumn, h.nextNonBlankColumn hp, h.isComment hp]

theorem indentInBrackets (h : AgreeAbove n a b) {anchor : Anchor}
    (hp : anchor.position.line < n) (hs : above.Ordered) (hn : above.stop < n) :
    a.indentInBrackets rules anchor above indentWidth =
      b.indentInBrackets rules anchor above indentWidth := by
  have hsteps : a.stepsPast rules anchor above = b.stepsPast rules anchor above := by
    rw [Document.stepsPast, Document.stepsPast, h.endsWith hs hn]
  rw [Document.indentInBrackets, Document.indentInBrackets, hsteps, h.hangs hp,
    h.elementColumn hp, h.firstVirtualColumn hp, h.indent hs hn]
  simp only [h.virtualColumn hp]

theorem indentContinuation (h : AgreeAbove n a b) (hs : above.Ordered) (hn : above.stop < n)
    (hr : a.startsRightOf line above.stop = b.startsRightOf line above.stop) :
    a.indentContinuation above line indentWidth trigger =
      b.indentContinuation above line indentWidth trigger := by
  simp only [Document.indentContinuation, hr, h.firstVirtualColumn hn, h.indent hs hn]

theorem indentByBlock (h : AgreeAbove n a b) (hl : line ≤ n) (hs : above.Ordered)
    (hn : above.stop < n)
    (hm : rules.blockEnd.isMatch (a.line line) = rules.blockEnd.isMatch (b.line line)) :
    a.indentByBlock rules above line indentWidth =
      b.indentByBlock rules above line indentWidth := by
  simp only [Document.indentByBlock, hm, h.opensBlock hs hn, h.content hn, h.indent hs hn,
    h.blockStart? hl]
  split
  · cases hb : b.blockStart? rules line with
    | none => rfl
    | some start =>
      obtain ⟨ho, hlt⟩ := Document.blockStartFrom?_bounds hb
      simp only [h.indent ho (by omega)]
  · rfl

/-- The answer for a line rests on the lines above it and on four questions
about the line itself. -/
theorem directiveFor (h : AgreeAbove line a b)
    (ht : a.acceptsTrigger rules line trigger = b.acceptsTrigger rules line trigger)
    (hv : a.isVerbatim rules line = b.isVerbatim rules line)
    (hr : ∀ other < line, a.startsRightOf line other = b.startsRightOf line other)
    (hm : rules.blockEnd.isMatch (a.line line) = rules.blockEnd.isMatch (b.line line)) :
    a.directiveFor rules line indentWidth trigger =
      b.directiveFor rules line indentWidth trigger := by
  simp only [Document.directiveFor, ht, hv, h.statementAbove? (Nat.le_refl line),
    h.lastAnchor?_lineStart (Nat.le_refl line)]
  split
  · rfl
  · cases habove : b.statementAbove? rules line with
    | none => rfl
    | some above =>
      obtain ⟨hs, hlt⟩ := Document.statementAbove?_bounds habove
      simp only [h.joins hlt, h.indentContinuation hs hlt (hr _ hlt),
        h.indentByBlock (Nat.le_refl line) hs hlt hm]
      cases hanchor : b.lastAnchor? ⟨line, 0⟩ with
      | none => rfl
      | some anchor =>
        simp only [h.indentInBrackets (Document.line_lt_of_lastAnchor? hanchor) hs hlt]

theorem isVerbatim (h : AgreeAbove n a b) (hl : line < n) :
    a.isVerbatim rules line = b.isVerbatim rules line := by
  rw [Document.isVerbatim, Document.isVerbatim, h.previousNonBlankLine? hl]
  cases hprev : b.previousNonBlankLine? line with
  | none => rfl
  | some prev =>
    obtain ⟨hlt, -⟩ := greatestBelow?_eq_some hprev
    have hn : prev < n := by omega
    simp only [Option.any_some, h.lineLength hn, h.attributeAt hn]

theorem startsRightOf (h : AgreeAbove n a b) (hl : line < n) {other : Nat} (ho : other < n) :
    a.startsRightOf line other = b.startsRightOf line other := by
  rw [Document.startsRightOf, Document.startsRightOf, h.firstVirtualColumn hl,
    h.firstVirtualColumn ho]

theorem directiveFor_of_lt (h : AgreeAbove n a b) (hl : line < n) :
    a.directiveFor rules line indentWidth trigger =
      b.directiveFor rules line indentWidth trigger := by
  apply (h.mono (Nat.le_of_lt hl)).directiveFor
  · cases trigger with
    | manual | newline => rfl
    | char c => rw [Document.acceptsTrigger, Document.acceptsTrigger, h.line hl]
  · exact h.isVerbatim hl
  · intro other ho
    exact h.startsRightOf hl (by omega)
  · rw [h.line hl]

theorem of_getElem? (htab : a.tabWidth = b.tabWidth)
    (h : ∀ i < n, a.lines[i]?.map (fun l => (l.text, l.row)) =
      b.lines[i]?.map fun l => (l.text, l.row)) : AgreeAbove n a b := by
  refine ⟨htab, ?_⟩
  rw [Document.visible, Document.visible]
  apply List.ext_getElem?
  intro i
  by_cases hi : i < n
  · simpa [List.getElem?_take_of_lt hi] using h i hi
  · have hge : n ≤ i := Nat.le_of_not_lt hi
    simp [List.getElem?_take_eq_none hge]

end AgreeAbove

/-- The answer for a line of two documents is the same if their texts and rows
agree up to that line, whatever lies below it in either and however many lines
there are. -/
theorem tryIndent_ignores_below (a b : Document) (rules : Rules) (line indentWidth : Nat)
    (trigger : Trigger) (htab : a.tabWidth = b.tabWidth) (ha : line < a.lineCount)
    (hb : line < b.lineCount)
    (hlines : ∀ i ≤ line, a.lines[i]?.map (fun l => (l.text, l.row)) =
      b.lines[i]?.map fun l => (l.text, l.row)) :
    a.tryIndent rules line indentWidth trigger = b.tryIndent rules line indentWidth trigger := by
  have hagree : AgreeAbove (line + 1) a b :=
    .of_getElem? htab fun i hi => hlines i (Nat.le_of_lt_succ hi)
  rw [Document.tryIndent, Document.tryIndent, if_pos ha, if_pos hb,
    hagree.directiveFor_of_lt (Nat.lt_succ_self line)]

/-- An open bracket, with the line in question last in one document and above an
overridden row and a closing bracket in the other. -/
theorem tryIndent_ignores_below_bracket :
    let a := Document.ofLines ["x = f(1,".toList, "2".toList] 8
    let b := (Document.ofLines ["x = f(1,".toList, "2".toList, ")".toList, "end".toList] 8).setRow
      3 [.hereDocument]
    a.tryIndent .default 1 2 .manual = .ok (.alignTo 0 6) ∧
      b.tryIndent .default 1 2 .manual = .ok (.alignTo 0 6) := by
  intro a b
  have hanswer : a.tryIndent .default 1 2 .manual = .ok (.alignTo 0 6) := by decide +kernel
  refine ⟨hanswer, ?_⟩
  rw [← hanswer]
  exact tryIndent_ignores_below b a .default 1 2 .manual rfl (by decide) (by decide) (by decide)

end Reindent
