import Reindent.Proofs.Configuration
import Reindent.Proofs.HangingBrackets
import Reindent.Proofs.Overflow
import Reindent.Proofs.RowShapes

/-!
# Indents and the size of a word

An indent is a column of the document, or lies one or two levels to the right
of one. A decision comes to it only if it is a word, and is exact then. Below
the last two words it cannot be taken for one of the answers that are no
indent. A configuration asks only that the width is not zero, so neither is
sure for all that it accepts.
-/

namespace Reindent

-- ---------------------------------------------------------------------------
-- Directives in words
-- ---------------------------------------------------------------------------

namespace Directive

def Below (bound : Nat) : Directive → Prop
  | .setIndent column => column < bound
  | .alignTo base column => base < bound ∧ column < bound
  | _ => True

variable {directive : Directive}

theorem Below.mono {a b : Nat} (h : directive.Below a) (hle : a ≤ b) : directive.Below b := by
  cases directive with
  | setIndent column => exact Nat.lt_of_lt_of_le h hle
  | alignTo base column => exact ⟨Nat.lt_of_lt_of_le h.1 hle, Nat.lt_of_lt_of_le h.2 hle⟩
  | verbatim | noOpinion => trivial

theorem word?_of_below (h : directive.Below wordSize) : directive.word? = some directive := by
  cases directive with
  | setIndent column => rw [word?, Reindent.word?_of_lt h, Option.map_some]
  | alignTo base column =>
    rw [word?, Reindent.word?_of_lt h.1, Reindent.word?_of_lt h.2]
    rfl
  | verbatim | noOpinion => rfl

theorem below_of_word? {answer : Directive} (h : directive.word? = some answer) :
    directive.Below wordSize := by
  cases directive with
  | setIndent column =>
    obtain ⟨found, hfound, -⟩ := Option.map_eq_some_iff.mp h
    exact (word?_eq_some_iff.mp hfound).2
  | alignTo base column =>
    simp only [word?, bind, Option.bind_eq_some_iff, word?_eq_some_iff] at h
    obtain ⟨_, ⟨-, hbase⟩, _, ⟨-, hcolumn⟩, -⟩ := h
    exact ⟨hbase, hcolumn⟩
  | verbatim | noOpinion => trivial

theorem word?_of_not_below (h : ¬ directive.Below wordSize) : directive.word? = none :=
  Option.eq_none_iff_forall_not_mem.mpr fun _ hfound => h (below_of_word? hfound)

theorem signedWord_of_lt {n : Nat} (h : n < wordSize - 2) :
    signedWord n ≠ -1 ∧ signedWord n ≠ -2 := by
  simp only [signedWord, Int.bmod_def, wordSize] at h ⊢
  omega

theorem encode_iff (h : directive.Below (wordSize - 2)) :
    (directive.encode.1 = -1 ↔ directive = .verbatim) ∧
      (directive.encode.1 = -2 ↔ directive = .noOpinion) := by
  cases directive with
  | setIndent column => simp [encode, signedWord_of_lt h]
  | alignTo base column => simp [encode, signedWord_of_lt h.1]
  | verbatim | noOpinion => simp [encode]

end Directive

-- ---------------------------------------------------------------------------
-- Columns of a document
-- ---------------------------------------------------------------------------

namespace Document

/-- Every line of the document ends before the bound. -/
def ColumnsBelow (doc : Document) (bound : Nat) : Prop :=
  ∀ line column, column ≤ doc.lineLength line → doc.virtualColumn line column < bound

section
variable {doc : Document} {line column bound : Nat}

theorem firstColumn_le (h : doc.firstColumn line = some column) :
    column ≤ doc.lineLength line := by
  unfold firstColumn Text.firstColumn at h
  split at h
  case isTrue => simp at h
  case isFalse =>
    obtain rfl := Option.some.inj h
    exact Text.length_leadingBlanks_le _

theorem column_lt_of_lastAnchor? {point : Position} {anchor : Anchor}
    (h : doc.lastAnchor? point = some anchor) :
    anchor.position.column < doc.lineLength anchor.position.line := by
  obtain ⟨x, site, hx, hsite, hposition⟩ := exists_site_of_lastAnchor? h
  rw [lineLength, line_eq hx, ← hposition]
  exact (isCode_of_mem_bracketSites hsite).2

theorem elementColumn_le {position : Position}
    (h : position.column < doc.lineLength position.line) :
    doc.elementColumn position ≤ doc.lineLength position.line := by
  unfold elementColumn
  cases hnext : doc.nextNonBlankColumn position.line (position.column + 1) with
  | none => exact h
  | some next =>
    dsimp only
    split
    case isTrue => exact h
    case isFalse =>
      obtain ⟨-, ⟨b, hb, -⟩, -⟩ := Text.nextNonBlankColumn_eq_some hnext
      obtain ⟨hlt, -⟩ := List.getElem?_eq_some_iff.mp hb
      rw [Text.length_bytes] at hlt
      exact Nat.le_of_lt hlt

theorem alignedColumn_le {point : Position} {anchor : Anchor}
    (h : doc.lastAnchor? point = some anchor) (steps : Bool) :
    (if steps then doc.elementColumn anchor.position else anchor.position.column) ≤
      doc.lineLength anchor.position.line := by
  have hlt := column_lt_of_lastAnchor? h
  cases steps with
  | true => exact elementColumn_le hlt
  | false => exact Nat.le_of_lt hlt

theorem ColumnsBelow.mono {bound' : Nat} (h : doc.ColumnsBelow bound) (hle : bound ≤ bound') :
    doc.ColumnsBelow bound' :=
  fun line column hcolumn => Nat.lt_of_lt_of_le (h line column hcolumn) hle

theorem ColumnsBelow.pos (h : doc.ColumnsBelow bound) : 0 < bound :=
  Nat.zero_lt_of_lt (h 0 0 (Nat.zero_le _))

/-- Only the lines that the document has need a look. -/
theorem columnsBelow_iff : doc.ColumnsBelow bound ↔
    0 < bound ∧ ∀ line < doc.lineCount, ∀ column < doc.lineLength line + 1,
      doc.virtualColumn line column < bound := by
  constructor
  · intro h
    exact ⟨h.pos, fun line _ column hcolumn => h line column (Nat.le_of_lt_succ hcolumn)⟩
  · rintro ⟨hpos, h⟩ line column hcolumn
    rcases Nat.lt_or_ge line doc.lineCount with hlt | hge
    · exact h line hlt column (Nat.lt_succ_of_le hcolumn)
    · have hline : doc.line line = [] := by
        rw [Document.line, List.getElem?_eq_none hge]
        rfl
      rw [lineLength, hline] at hcolumn
      obtain rfl := Nat.le_zero.mp hcolumn
      rw [virtualColumn, hline]
      exact hpos

instance : Decidable (doc.ColumnsBelow bound) := decidable_of_iff _ columnsBelow_iff.symm

theorem ColumnsBelow.firstVirtualColumn_lt (h : doc.ColumnsBelow bound) {default : Nat}
    (hdefault : default < bound) (line : Nat) :
    (doc.firstVirtualColumn line).getD default < bound := by
  cases hfirst : doc.firstColumn line with
  | none => simpa [firstVirtualColumn, hfirst] using hdefault
  | some column => simpa [firstVirtualColumn, hfirst] using h line column (firstColumn_le hfirst)

theorem ColumnsBelow.indent_lt (h : doc.ColumnsBelow bound) (stmt : Statement) :
    stmt.indent doc < bound :=
  h.firstVirtualColumn_lt h.pos stmt.start

end

-- ---------------------------------------------------------------------------
-- Exact answers
-- ---------------------------------------------------------------------------

section
variable {doc : Document} {bound : Nat} (h : doc.ColumnsBelow bound)
  (rules : Rules) (above : Statement) (line indentWidth : Nat) (trigger : Trigger)
include h

theorem below_indentInBrackets {point : Position} {anchor : Anchor}
    (hanchor : doc.lastAnchor? point = some anchor) :
    (doc.indentInBrackets rules anchor above indentWidth).Below (bound + 2 * indentWidth) := by
  unfold indentInBrackets
  dsimp only
  split
  case isTrue =>
    have hbase := h.firstVirtualColumn_lt h.pos anchor.position.line
    have hstep : (if doc.stepsPast rules anchor above then indentWidth else 0) ≤
        2 * indentWidth := by
      split <;> omega
    exact Nat.add_lt_add_of_lt_of_le hbase hstep
  case isFalse =>
    have hcolumn := alignedColumn_le hanchor (doc.stepsPast rules anchor above)
    exact ⟨Nat.lt_add_right _ (h.indent_lt above), Nat.lt_add_right _ (h _ _ hcolumn)⟩

theorem below_indentContinuation :
    (doc.indentContinuation above line indentWidth trigger).Below (bound + 2 * indentWidth) := by
  have hbase := h.indent_lt above
  unfold indentContinuation
  split
  case isTrue => exact Nat.lt_add_right _ (h.firstVirtualColumn_lt hbase above.stop)
  case isFalse =>
    split
    case isTrue => trivial
    case isFalse =>
      rw [Nat.mul_comm indentWidth]
      exact Nat.add_lt_add_right hbase _

theorem below_indentByBlock :
    (doc.indentByBlock rules above line indentWidth).Below (bound + 2 * indentWidth) := by
  have hbase := h.indent_lt above
  unfold indentByBlock
  split
  case isTrue =>
    cases doc.blockStart? rules line with
    | none => trivial
    | some start => exact Nat.lt_add_right _ (h.indent_lt start)
  case isFalse =>
    split
    case isTrue => exact Nat.add_lt_add_of_lt_of_le hbase (by omega)
    case isFalse => exact Nat.lt_add_right _ hbase

theorem below_indent :
    (doc.indent rules line indentWidth trigger).Below (bound + 2 * indentWidth) := by
  unfold indent tryIndent
  by_cases hline : line < doc.lineCount
  case neg =>
    rw [if_neg hline]
    trivial
  rw [if_pos hline]
  dsimp only
  unfold directiveFor
  split
  case isTrue => trivial
  case isFalse =>
    cases doc.statementAbove? rules line with
    | none => trivial
    | some above =>
      dsimp only
      split
      case isTrue => trivial
      case isFalse =>
        cases hanchor : doc.lastAnchor? ⟨line, 0⟩ with
        | some anchor => exact below_indentInBrackets h rules above indentWidth hanchor
        | none =>
          dsimp only
          split
          case isTrue => exact below_indentContinuation h above line indentWidth trigger
          case isFalse => exact below_indentByBlock h rules above line indentWidth

end

section
variable {doc : Document} (h : doc.ColumnsBelow wordSize)
  (rules : Rules) (line indentWidth : Nat) (trigger : Trigger)
include h

theorem isSome_isPlaced? (above : Statement) :
    (doc.isPlaced? above line trigger).isSome = true := by
  have hfirst (line : Nat) :
      doc.firstVirtualColumn? line = some (doc.firstVirtualColumn line) := by
    have hlt := h.firstVirtualColumn_lt h.pos line
    rw [firstVirtualColumn?_eq]
    cases hfound : doc.firstVirtualColumn line with
    | none => rfl
    | some column =>
      rw [hfound, Option.getD_some] at hlt
      simp [word?_of_lt hlt]
  unfold isPlaced?
  split
  case isTrue =>
    rw [hfirst, hfirst]
    rfl
  case isFalse => rfl

/-- Where all columns are words, an answer is refused only for its own columns. -/
theorem indent?_eq_word? : doc.indent? rules line indentWidth trigger =
    (doc.indent rules line indentWidth trigger).word? := by
  rw [indent?_eq, indent, tryIndent]
  by_cases hline : line < doc.lineCount
  case neg =>
    rw [if_neg hline, if_neg hline]
    rfl
  rw [if_pos hline, if_pos hline]
  dsimp only
  unfold directiveFor? directiveFor
  split
  case isTrue => rfl
  case isFalse =>
    cases doc.statementAbove? rules line with
    | none => rfl
    | some above =>
      dsimp only
      split
      case isTrue => rfl
      case isFalse =>
        have hbase := h.indent_lt above
        rw [Statement.indent?_eq, word?_of_lt hbase]
        cases doc.lastAnchor? ⟨line, 0⟩ with
        | some anchor => exact doc.indentInBrackets?_eq rules anchor above indentWidth
        | none =>
          simp only [bind, Option.bind_some]
          split
          case isTrue =>
            exact indentContinuation?_eq hbase fun _ => isSome_isPlaced? h line trigger above
          case isFalse => exact indentByBlock?_eq hbase

end

end Document

/-- In a document whose columns are far from the end of the words, a decision gives the exact
answer if that is made of words, and none otherwise. Below the last two words the answer is
not encoded like one that is no indent, and every width below `3 * 2 ^ 61` stays there. -/
theorem indents_exact_if_they_fit (rules : Rules) (doc : Document) (line indentWidth : Nat)
    (trigger : Trigger) (hcolumns : doc.ColumnsBelow (2 ^ 62)) :
    let answer := doc.indent rules line indentWidth trigger
    (answer.Below wordSize → doc.indent? rules line indentWidth trigger = some answer) ∧
      (¬ answer.Below wordSize → doc.indent? rules line indentWidth trigger = none) ∧
      (answer.Below (wordSize - 2) → (answer.encode.1 = -1 ↔ answer = .verbatim) ∧
        (answer.encode.1 = -2 ↔ answer = .noOpinion)) ∧
      (indentWidth < 3 * 2 ^ 61 → answer.Below (wordSize - 2)) := by
  intro answer
  have hwords : doc.ColumnsBelow wordSize := hcolumns.mono (by decide)
  rw [Document.indent?_eq_word? hwords]
  refine ⟨Directive.word?_of_below, Directive.word?_of_not_below, Directive.encode_iff,
    fun hwidth => ?_⟩
  refine (Document.below_indent hcolumns rules line indentWidth trigger).mono ?_
  simp only [wordSize]
  omega

/-- The body of a nested definition, with the default width and with the greatest one for
which the theorem promises an exact answer. -/
theorem indents_exact_if_they_fit_body :
    let doc := Document.ofLines (["  def f", "x"].map String.toList) 8
    doc.ColumnsBelow (2 ^ 62) ∧ doc.indent? .default 1 2 .newline = some (.setIndent 4) ∧
      doc.indent? .default 1 (3 * 2 ^ 61 - 1) .newline =
        some (.setIndent (2 + (3 * 2 ^ 61 - 1))) := by
  intro doc
  have hcolumns : doc.ColumnsBelow (2 ^ 62) := by decide +kernel
  have hexact (width : Nat) (hwidth : width < 3 * 2 ^ 61) :
      doc.indent? .default 1 width .newline = some (doc.indent .default 1 width .newline) := by
    obtain ⟨hsome, -, -, hfits⟩ := indents_exact_if_they_fit .default doc 1 width .newline hcolumns
    exact hsome ((hfits hwidth).mono (by decide))
  refine ⟨hcolumns, (hexact 2 (by decide)).trans ?_, (hexact (3 * 2 ^ 61 - 1) (by decide)).trans ?_⟩
  · decide +kernel
  · decide +kernel

/-- A configuration with the greatest width is accepted. The body of a definition at the
margin then gets an indent that is encoded like verbatim, and the body of a nested one gets
no answer. -/
theorem accepted_width_is_verbatim :
    let config := { Config.default with settings := ⟨8, wordSize - 1, true⟩ }
    let width := config.settings.indentWidth
    let flat := Document.ofLines (["def f", "x"].map String.toList) 8
    let nested := Document.ofLines (["  def f", "x"].map String.toList) 8
    config.compile = .ok .default ∧ flat.ColumnsBelow (2 ^ 62) ∧ nested.ColumnsBelow (2 ^ 62) ∧
      flat.indent? .default 1 width .newline = some (.setIndent width) ∧
      (Directive.setIndent width).encode = (-1, none) ∧
      nested.indent .default 1 width .newline = .setIndent (2 + width) ∧
      nested.indent? .default 1 width .newline = none := by
  intro config width flat nested
  have hcompiles := Config.compile_eq_ok_iff.mp Config.compile_default
  refine ⟨Config.compile_eq_ok_iff.mpr { hcompiles with valid := by decide +kernel }, ?_⟩
  decide +kernel

end Reindent
