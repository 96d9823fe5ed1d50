import Mathlib.Tactic.ByContra
import Reindent.CommandLine.Run

/-!
# Runs in words are exact

Positions on a line only grow, so a column is a word if it can be computed in
words. What is computed in words is therefore the exact value where it has
one: for the decision about a line, for a pass over a document and for a run
of the command line. All that is proved of exact passes and runs holds of
those that come to their end in words.
-/

namespace Reindent

theorem wordSize_pos : 0 < wordSize := by decide

section
variable {α : Type} {m n : Nat}

theorem word?_of_lt (h : n < wordSize) : word? n = some n := if_pos h

theorem word?_of_ge (h : wordSize ≤ n) : word? n = none := if_neg (Nat.not_lt.mpr h)

theorem word?_eq_some_iff : word? n = some m ↔ n = m ∧ n < wordSize := by
  rcases Nat.lt_or_ge n wordSize with hlt | hge
  · simp [word?_of_lt hlt, hlt]
  · simp [word?_of_ge hge, Nat.not_lt.mpr hge]

/-- A check makes no difference where the rest has no result without it. -/
theorem word?_bind {f : Nat → Option α} (h : wordSize ≤ n → f n = none) :
    (word? n).bind f = f n := by
  rcases Nat.lt_or_ge n wordSize with hlt | hge
  · rw [word?_of_lt hlt, Option.bind_some]
  · rw [word?_of_ge hge, h hge, Option.bind_none]

end

-- ---------------------------------------------------------------------------
-- Columns
-- ---------------------------------------------------------------------------

namespace Text

theorem le_advance (tabWidth position : Nat) (c : Char) :
    position ≤ advance tabWidth position c := by
  unfold advance
  split <;> exact Nat.le_add_right _ _

theorem le_virtualColumnFrom (tabWidth column offset position : Nat) (text : Text) :
    position ≤ virtualColumnFrom tabWidth column offset position text := by
  induction text generalizing offset position with
  | nil => exact Nat.le_add_right _ _
  | cons c rest ih =>
    rw [virtualColumnFrom]
    split
    · exact Nat.le_trans (le_advance tabWidth position c) (ih _ _)
    · exact Nat.le_refl position

theorem virtualColumnFrom?_eq (tabWidth column offset : Nat) {position : Nat}
    (h : position < wordSize) (text : Text) :
    virtualColumnFrom? tabWidth column offset position text =
      word? (virtualColumnFrom tabWidth column offset position text) := by
  induction text generalizing offset position with
  | nil => rfl
  | cons c rest ih =>
    rw [virtualColumnFrom?, virtualColumnFrom]
    split
    case isTrue =>
      rcases Nat.lt_or_ge (advance tabWidth position c) wordSize with hlt | hge
      · rw [word?_of_lt hlt]
        exact ih _ hlt
      · -- The column is at least as large as the position that is no word.
        rw [word?_of_ge hge, word?_of_ge (Nat.le_trans hge (le_virtualColumnFrom ..))]
        rfl
    case isFalse => rw [word?_of_lt h]

end Text

namespace Document

variable {doc : Document} {line column : Nat}

theorem virtualColumn?_eq (doc : Document) (line column : Nat) :
    doc.virtualColumn? line column = word? (doc.virtualColumn line column) :=
  Text.virtualColumnFrom?_eq _ _ _ wordSize_pos _

theorem firstVirtualColumn?_eq (doc : Document) (line : Nat) :
    doc.firstVirtualColumn? line = (doc.firstVirtualColumn line).mapM word? := by
  rw [firstVirtualColumn?, firstVirtualColumn]
  cases doc.firstColumn line with
  | none => rfl
  | some column => simp [virtualColumn?_eq]

theorem firstVirtualColumn?_bind {α : Type} (doc : Document) (line : Nat) {default : Nat}
    (h : default < wordSize) (f : Nat → Option α) :
    ((doc.firstVirtualColumn? line).bind fun found => f (found.getD default)) =
      (word? ((doc.firstVirtualColumn line).getD default)).bind f := by
  rw [firstVirtualColumn?_eq]
  cases doc.firstVirtualColumn line with
  | none => simp [word?_of_lt h]
  | some column =>
    rcases Nat.lt_or_ge column wordSize with hlt | hge
    · simp [word?_of_lt hlt]
    · simp [word?_of_ge hge]

end Document

theorem Statement.indent?_eq (stmt : Statement) (doc : Document) :
    stmt.indent? doc = word? (stmt.indent doc) := by
  have hbind := doc.firstVirtualColumn?_bind stmt.start wordSize_pos some
  rw [Option.bind_fun_some] at hbind
  rw [indent?, indent, ← hbind]
  exact Option.map_eq_bind

-- ---------------------------------------------------------------------------
-- Decisions
-- ---------------------------------------------------------------------------

def Directive.word? : Directive → Option Directive
  | .setIndent column => (Reindent.word? column).map .setIndent
  | .alignTo base column => do return .alignTo (← Reindent.word? base) (← Reindent.word? column)
  | directive => some directive

theorem Directive.eq_of_word? {directive answer : Directive} (h : directive.word? = some answer) :
    directive = answer := by
  cases directive with
  | verbatim | noOpinion => exact Option.some.inj h
  | setIndent column =>
    obtain ⟨found, hfound, rfl⟩ := Option.map_eq_some_iff.mp h
    rw [(word?_eq_some_iff.mp hfound).1]
  | alignTo base column =>
    simp only [word?, bind, Option.bind_eq_some_iff, word?_eq_some_iff, pure] at h
    obtain ⟨_, ⟨rfl, -⟩, _, ⟨rfl, -⟩, h⟩ := h
    exact Option.some.inj h

namespace Document

variable {doc : Document} {rules : Rules} {line indentWidth : Nat} {trigger : Trigger}
  {anchor : Anchor} {above : Statement}

theorem indentInBrackets?_eq (doc : Document) (rules : Rules) (anchor : Anchor)
    (above : Statement) (indentWidth : Nat) :
    doc.indentInBrackets? rules anchor above indentWidth =
      (doc.indentInBrackets rules anchor above indentWidth).word? := by
  simp only [indentInBrackets?, indentInBrackets, Statement.indent?_eq, virtualColumn?_eq]
  generalize (if doc.stepsPast rules anchor above then indentWidth else 0) = step
  split
  case isTrue =>
    let place (base : Nat) : Option Directive := do return .setIndent (← word? (base + step))
    refine (firstVirtualColumn?_bind doc _ wordSize_pos place).trans
      ((word?_bind fun hge => ?_).trans Option.map_eq_bind.symm)
    simp only [place, word?_of_ge (Nat.le_trans hge (Nat.le_add_right _ step))]
    rfl
  case isFalse => rfl

theorem indentByBlock?_eq (hbase : above.indent doc < wordSize) :
    doc.indentByBlock? rules above line indentWidth =
      (doc.indentByBlock rules above line indentWidth).word? := by
  simp only [indentByBlock?, indentByBlock, Statement.indent?_eq, word?_of_lt hbase]
  split
  case isTrue =>
    cases doc.blockStart? rules line with
    | none => rfl
    | some start => exact Option.map_eq_bind.symm
  case isFalse =>
    split
    case isTrue => exact Option.map_eq_bind.symm
    case isFalse => simp [Directive.word?, word?_of_lt hbase]

theorem isPlaced?_eq_some {placed : Bool} (h : doc.isPlaced? above line trigger = some placed) :
    placed = (trigger == .manual && doc.startsRightOf line above.stop) := by
  unfold isPlaced? at h
  split at h
  case isTrue hmanual =>
    simp only [bind, Option.bind_eq_some_iff] at h
    obtain ⟨-, -, -, -, h⟩ := h
    rw [hmanual, Bool.true_and]
    exact (Option.some.inj h).symm
  case isFalse hother =>
    rw [Bool.eq_false_iff.mpr hother]
    exact (Option.some.inj h).symm

theorem indentContinuation?_eq (hbase : above.indent doc < wordSize)
    (hplaced : above.isSingleLine = true → (doc.isPlaced? above line trigger).isSome = true) :
    doc.indentContinuation? above line indentWidth trigger =
      (doc.indentContinuation above line indentWidth trigger).word? := by
  simp only [indentContinuation?, indentContinuation, Statement.indent?_eq, word?_of_lt hbase]
  cases hsingle : above.isSingleLine with
  | false =>
    exact (firstVirtualColumn?_bind doc _ hbase _).trans Option.map_eq_bind.symm
  | true =>
    obtain ⟨placed, hfound⟩ := Option.isSome_iff_exists.mp (hplaced hsingle)
    rw [hfound, isPlaced?_eq_some hfound]
    cases trigger == .manual && doc.startsRightOf line above.stop with
    | true => rfl
    | false =>
      refine (word?_bind fun hge => ?_).trans Option.map_eq_bind.symm
      rw [word?_of_ge (Nat.le_trans hge (Nat.le_add_left _ _))]
      rfl

theorem indentContinuation?_eq_some {answer : Directive}
    (h : doc.indentContinuation? above line indentWidth trigger = some answer) :
    doc.indentContinuation above line indentWidth trigger = answer := by
  have hbase : above.indent doc < wordSize := by
    by_contra hge
    simp [indentContinuation?, Statement.indent?_eq, word?_of_ge (Nat.le_of_not_lt hge)] at h
  have hplaced (hsingle : above.isSingleLine = true) :
      (doc.isPlaced? above line trigger).isSome = true := by
    by_contra hnone
    rw [Option.not_isSome_iff_eq_none] at hnone
    simp [indentContinuation?, hsingle, hnone] at h
  rw [indentContinuation?_eq hbase hplaced] at h
  exact Directive.eq_of_word? h

theorem directiveFor?_eq_some {answer : Directive}
    (h : doc.directiveFor? rules line indentWidth trigger = some answer) :
    doc.directiveFor rules line indentWidth trigger = answer := by
  unfold directiveFor? at h
  unfold directiveFor
  split at h
  case isTrue hrefused =>
    rw [if_pos hrefused]
    exact Option.some.inj h
  case isFalse haccepts =>
    rw [if_neg haccepts]
    cases habove : doc.statementAbove? rules line with
    | none =>
      rw [habove] at h
      exact Option.some.inj h
    | some above =>
      simp only [habove] at h ⊢
      split at h
      case isTrue hverbatim =>
        rw [if_pos hverbatim]
        exact Option.some.inj h
      case isFalse hplain =>
        rw [if_neg hplain]
        simp only [bind, Option.bind_eq_some_iff, Statement.indent?_eq, word?_eq_some_iff] at h
        obtain ⟨_, ⟨rfl, hbase⟩, h⟩ := h
        cases hanchor : doc.lastAnchor? ⟨line, 0⟩ with
        | some anchor =>
          simp only [hanchor, indentInBrackets?_eq] at h ⊢
          exact Directive.eq_of_word? h
        | none =>
          simp only [hanchor] at h ⊢
          split at h
          case isTrue hjoins =>
            rw [if_pos hjoins]
            exact indentContinuation?_eq_some h
          case isFalse hends =>
            rw [if_neg hends]
            rw [indentByBlock?_eq hbase] at h
            exact Directive.eq_of_word? h

theorem indent?_eq (doc : Document) (rules : Rules) (line indentWidth : Nat) (trigger : Trigger) :
    doc.indent? rules line indentWidth trigger =
      if line < doc.lineCount then doc.directiveFor? rules line indentWidth trigger
      else some .noOpinion := by
  unfold indent? tryIndent?
  split
  case isTrue => cases doc.directiveFor? rules line indentWidth trigger <;> rfl
  case isFalse => rfl

theorem indent?_eq_some {answer : Directive}
    (h : doc.indent? rules line indentWidth trigger = some answer) :
    doc.indent rules line indentWidth trigger = answer := by
  rw [indent?_eq] at h
  rw [indent, tryIndent]
  split at h
  case isTrue hlt =>
    rw [if_pos hlt]
    exact directiveFor?_eq_some h
  case isFalse hge =>
    rw [if_neg hge]
    exact Option.some.inj h

end Document

-- ---------------------------------------------------------------------------
-- Passes
-- ---------------------------------------------------------------------------

namespace Indenter

variable {indenter : Indenter} {doc : Document} {line : Nat}

theorem indentLine?_eq_some {trigger : Trigger} {result : Document × Bool}
    (h : indenter.indentLine? doc line trigger = some result) :
    indenter.indentLine doc line trigger = result := by
  obtain ⟨directive, hdirective, hresult⟩ := Option.bind_eq_some_iff.mp h
  rw [indentLine, Document.indent?_eq_some hdirective]
  exact Option.some.inj hresult

theorem typed?_eq_some {c : Char} {result : Document × Bool}
    (h : indenter.typed? doc line c = some result) : indenter.typed doc line c = result := by
  unfold typed? at h
  unfold typed
  split at h
  case isTrue htrigger =>
    rw [if_pos htrigger]
    exact indentLine?_eq_some h
  case isFalse hother =>
    rw [if_neg hother]
    exact Option.some.inj h

theorem indentStep?_eq_some {state next : Document × Nat}
    (h : indenter.indentStep? state line = some next) : indenter.indentStep state line = next := by
  unfold indentStep? at h
  unfold indentStep
  split at h
  case isTrue hwhite =>
    rw [if_pos hwhite]
    exact Option.some.inj h
  case isFalse hvisible =>
    rw [if_neg hvisible]
    obtain ⟨result, hresult, hnext⟩ := Option.bind_eq_some_iff.mp h
    rw [indentLine?_eq_some hresult]
    exact Option.some.inj hnext

theorem foldlM_indentStep?_eq_some {lines : List Nat} {state last : Document × Nat}
    (h : lines.foldlM indenter.indentStep? state = some last) :
    lines.foldl indenter.indentStep state = last := by
  induction lines generalizing state with
  | nil => exact Option.some.inj h
  | cons line rest ih =>
    rw [List.foldlM_cons] at h
    obtain ⟨next, hnext, hrest⟩ := Option.bind_eq_some_iff.mp h
    rw [List.foldl_cons, indentStep?_eq_some hnext]
    exact ih hrest

theorem indentLines?_eq_some {first last : Nat} {result : Document × Nat}
    (h : indenter.indentLines? doc first last = some result) :
    indenter.indentLines doc first last = result :=
  foldlM_indentStep?_eq_some h

end Indenter

-- ---------------------------------------------------------------------------
-- Runs
-- ---------------------------------------------------------------------------

namespace CommandLine

variable {options : Options} {files : Files} {outcome : Outcome}

theorem work?_eq_finished (h : work? options files = .finished outcome) :
    work options files = outcome := by
  unfold work? at h
  rw [work, reindent]
  cases hinput : input options files with
  | error failure =>
    rw [hinput] at h
    exact Ending.finished.inj h
  | ok found =>
    obtain ⟨path, indenter, doc⟩ := found
    simp only [hinput] at h
    cases hpass : indenter.indentAll? doc with
    | none => simp [hpass] at h
    | some result =>
      simp only [hpass] at h
      have hexact : indenter.indentAll doc = result := Indenter.indentLines?_eq_some hpass
      rw [← Ending.finished.inj h, ← hexact]
      rfl

/-- A run that comes to its end in words has the outcome of the exact run. -/
theorem execute_eq_finished (h : execute options files = .finished outcome) :
    run options files = outcome := by
  unfold execute at h
  unfold run
  split at h
  case isTrue hdump =>
    rw [if_pos hdump]
    exact Ending.finished.inj h
  case isFalse hruns =>
    rw [if_neg hruns]
    cases hlog : options.logFile with
    | none =>
      simp only [hlog] at h
      exact work?_eq_finished h
    | some path =>
      simp only [hlog] at h ⊢
      split at h
      case isTrue hcreated =>
        rw [if_pos hcreated]
        exact work?_eq_finished h
      case isFalse hrefused =>
        rw [if_neg hrefused]
        exact Ending.finished.inj h

end CommandLine

end Reindent
