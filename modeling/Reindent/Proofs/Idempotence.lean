import Reindent.Proofs.StretchedMatches
import Reindent.Proofs.Writing

/-!
# A second pass changes nothing

A line is settled when a step of a pass leaves the document as it is there.
A step settles its own line: what it writes can turn the answer into one that
leaves the line alone, but never into one that asks for other blanks. Whether
a line is settled depends on nothing below it, so the later steps of a pass
keep it settled, and after the pass all its lines are.
-/

namespace Reindent

/-- The block closers are recognised whatever blanks a line begins with. -/
def Rules.ClosersIgnoreIndent (rules : Rules) : Prop :=
  ∀ s t : Text, Text.body s = Text.body t → rules.blockEnd.isMatch s = rules.blockEnd.isMatch t

namespace Indenter

variable {indenter : Indenter} {a b doc : Document} {line : Nat}

/-- After a change of the blanks alone, the answer for a line is the one from
before, unless one of the two leaves the line as it is. -/
theorem written?_answer_eq (hrules : indenter.rules.ClosersIgnoreIndent)
    (h : AgreeAbove line a b) (hbody : Text.body (a.line line) = Text.body (b.line line)) :
    indenter.written? (indenter.answer a line) = none ∨
      indenter.written? (indenter.answer b line) = none ∨
      indenter.answer a line = indenter.answer b line := by
  have hm := hrules _ _ hbody
  simp only [answer, Document.directiveFor, Document.acceptsTrigger, Bool.not_true,
    Bool.false_eq_true, if_false, h.statementAbove? (Nat.le_refl line),
    h.lastAnchor?_lineStart (Nat.le_refl line)]
  cases habove : b.statementAbove? indenter.rules line with
  | none => exact .inl rfl
  | some above =>
    obtain ⟨hs, hlt⟩ := Document.statementAbove?_bounds habove
    by_cases hva : a.isVerbatim indenter.rules line = true
    · exact .inl (by simp [hva, written?])
    by_cases hvb : b.isVerbatim indenter.rules line = true
    · exact .inr (.inl (by simp [hvb, written?]))
    simp only [hva, hvb, h.joins hlt, h.indentByBlock (Nat.le_refl line) hs hlt hm]
    cases hanchor : b.lastAnchor? ⟨line, 0⟩ with
    | some anchor =>
      refine .inr (.inr ?_)
      simp only [h.indentInBrackets (Document.line_lt_of_lastAnchor? hanchor) hs hlt]
    | none =>
      by_cases hj : b.joins indenter.rules above.stop line = true
      case neg => exact .inr (.inr (by simp [hj]))
      -- A continuation looks at where the line starts, but only to give up.
      simp only [hj, if_true, Document.indentContinuation, h.firstVirtualColumn hlt,
        h.indent hs hlt]
      by_cases hsingle : above.isSingleLine = true
      case neg => exact .inr (.inr (by simp [hsingle]))
      by_cases hra : a.startsRightOf line above.stop = true
      · exact .inl (by simp [hsingle, hra, written?])
      by_cases hrb : b.startsRightOf line above.stop = true
      · exact .inr (.inl (by simp [hsingle, hrb, written?]))
      · exact .inr (.inr (by simp [hsingle, hra, hrb]))

theorem settled_indentStep (hrules : indenter.rules.ClosersIgnoreIndent)
    (state : Document × Nat) (line : Nat) :
    indenter.Settled (indenter.indentStep state line).1 line := by
  rcases indenter.indentStep_cases state line with ⟨hs, hstep⟩ | ⟨blanks, hr, hstep⟩
  · rwa [hstep]
  · rw [hstep]
    intro other hr'
    have hline := Document.line_setLeadingBlanks hr.inRange blanks
    have hbody : Text.body (state.1.line line) =
        Text.body ((state.1.setLeadingBlanks line blanks).1.line line) := by
      rw [hline, Text.body_blanks_body hr.allBlank]
    rcases written?_answer_eq hrules
      (state.1.agreeAbove_setLeadingBlanks line blanks) hbody with h | h | h
    · simp [hr.written] at h
    · simp [hr'.written] at h
    · -- The same answer calls for the blanks that are there already.
      have hother : blanks = other := by
        have hw := hr.written
        rw [h, hr'.written] at hw
        exact (Option.some.inj hw).symm
      apply hr'.differs
      rw [hline, Text.leadingBlanks_blanks_body hr.allBlank, hother]

theorem Settled.congr (hs : indenter.Settled a line) (h : AgreeAbove (line + 1) a b) :
    indenter.Settled b line :=
  fun blanks hr => hs blanks (hr.congr h.symm)

theorem settled_foldl_indentStep (hrules : indenter.rules.ClosersIgnoreIndent)
    (lines : List Nat) (hsorted : lines.Pairwise (· < ·)) (state : Document × Nat) :
    ∀ line ∈ lines, indenter.Settled (lines.foldl indenter.indentStep state).1 line := by
  induction lines generalizing state with
  | nil => simp
  | cons first rest ih =>
    obtain ⟨hfirst, hrest⟩ := List.pairwise_cons.mp hsorted
    intro line hl
    rcases List.mem_cons.mp hl with rfl | hl
    · -- The rest of the pass works below the line and keeps it settled.
      exact (settled_indentStep hrules state line).congr
        (agreeAbove_foldl_indentStep hfirst _)
    · exact ih hrest _ line hl

theorem foldl_indentStep_of_settled (lines : List Nat) (state : Document × Nat)
    (h : ∀ line ∈ lines, indenter.Settled state.1 line) :
    lines.foldl indenter.indentStep state = state := by
  induction lines with
  | nil => rfl
  | cons line rest ih =>
    have hstep : indenter.indentStep state line = state := by
      rcases indenter.indentStep_cases state line with ⟨-, hstep⟩ | ⟨blanks, hr, -⟩
      · exact hstep
      · exact absurd hr (h line List.mem_cons_self blanks)
    rw [List.foldl_cons, hstep]
    exact ih fun l hl => h l (List.mem_cons_of_mem _ hl)

end Indenter

theorem Rules.closersIgnoreIndent_default : Rules.default.ClosersIgnoreIndent := by
  intro s t hbody
  have plain (offset : Nat) (text : Text) :
      marksFrom (fun _ => .normal) offset text = text.map fun c => (c, .normal) := by
    induction text generalizing offset with
    | nil => rfl
    | cons c rest ih => simp [marksFrom, ih]
  rw [← Text.leadingBlanks_append_body s, ← Text.leadingBlanks_append_body t, hbody]
  refine isMatch_blockEnd (α := fun _ => .normal) (β := fun _ => .normal)
    (.blanks (Text.allBlank_leadingBlanks s) (Text.allBlank_leadingBlanks t) ?_)
  rw [plain, plain]
  exact .refl true _

end Reindent
