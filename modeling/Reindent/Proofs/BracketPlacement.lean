import Reindent.Proofs.Comments
import Reindent.Proofs.OpenBrackets

/-!
# Lines inside one bracket

A line inside an open bracket is placed by the bracket and by the statement
above the line. That statement grows as the lines inside the bracket go on, so
two lines with the same bracket see different statements. But the bracket is
open before every line on the way, so each of them continues the one above, and
the statements all begin where the statement of the bracket's own line does.
What is left of the difference is whether the line steps past the bracket.
-/

namespace Reindent

namespace Document

variable {doc : Document} {rules : Rules} {line : Nat} {anchor : Anchor}

theorem mem_openOf_of_lastAnchor? {point : Position} (h : doc.lastAnchor? point = some anchor) :
    anchor.position ∈ doc.openOf anchor.bracket point := by
  have hfound : doc.anchor? anchor.bracket point = some anchor.position :=
    anchor?_of_lastAnchor? h
  rw [anchor?_eq_head?] at hfound
  exact List.mem_of_head? hfound

theorem continues_of_lastAnchor? (rules : Rules) (h : doc.lastAnchor? ⟨line, 0⟩ = some anchor)
    {above : Nat} (hle : anchor.position.line ≤ above) (hlt : above < line) :
    doc.continues rules above = true := by
  have hopen : anchor.position ∈ doc.openOf anchor.bracket ⟨above + 1, 0⟩ := by
    refine mem_openOf_of_isBefore (mem_openOf_of_lastAnchor? h) ?_ ?_
    · exact Position.isBefore_iff.mpr (.inl (Nat.lt_succ_of_le hle))
    · rw [← Bool.not_eq_true, Position.isBefore_iff]
      dsimp only
      omega
  rw [continues, Option.isSome_iff_ne_none.mpr (lastAnchor?_ne_none hopen), Bool.true_or]

theorem statementStart_of_lastAnchor? (rules : Rules)
    (h : doc.lastAnchor? ⟨line, 0⟩ = some anchor)
    (hcode : doc.isCodeLine anchor.position.line = true) {m : Nat}
    (hm : doc.isCodeLine m = true) (hle : anchor.position.line ≤ m) (hlt : m < line) :
    doc.statementStart rules m = doc.statementStart rules anchor.position.line := by
  revert hle hlt
  -- By induction on the lines of code, from the bracket's line down.
  refine induction_codeLine (P := fun m => anchor.position.line ≤ m → m < line →
    doc.statementStart rules m = doc.statementStart rules anchor.position.line) ?_ ?_ hm
  · intro m _ hnone hle _
    rcases Nat.eq_or_lt_of_le hle with rfl | hless
    · rfl
    · obtain ⟨above, hfound, -⟩ := exists_codeLineAbove? hcode hless
      simp [hfound] at hnone
  · intro above m hn ih hle hlt
    rcases Nat.eq_or_lt_of_le hle with rfl | hless
    · rfl
    · have habove := hn.le_above hcode hless
      have hjoins : doc.joins rules above m = true := by
        have hcontinues := continues_of_lastAnchor? rules h habove (hn.lt.trans hlt)
        rw [joins, hcontinues, Bool.or_true]
      rw [hn.statementStart, if_pos hjoins]
      exact ih habove (hn.lt.trans hlt)

theorem statementAbove?_of_lastAnchor? (rules : Rules) (hbrackets : doc.BracketsInCode)
    (h : doc.lastAnchor? ⟨line, 0⟩ = some anchor) :
    ∃ stop, doc.statementAbove? rules line =
      some ⟨doc.statementStart rules anchor.position.line, stop⟩ := by
  have hcode := isCodeLine_of_lastAnchor? hbrackets h
  obtain ⟨stop, hstop, hle⟩ := exists_codeLineAbove? hcode (line_lt_of_lastAnchor? h)
  obtain ⟨hlt, hcodeStop⟩ := greatestBelow?_eq_some hstop
  refine ⟨stop, ?_⟩
  rw [statementAbove?_eq, hstop, Option.map_some,
    statementStart_of_lastAnchor? rules h hcode hcodeStop hle hlt]

/-- All that a placement takes from the statement above is where it begins and
whether the line steps past the bracket. -/
theorem indentInBrackets_congr {s₁ s₂ : Statement} (hstart : s₁.start = s₂.start)
    (hsteps : doc.stepsPast rules anchor s₁ = doc.stepsPast rules anchor s₂)
    (indentWidth : Nat) : doc.indentInBrackets rules anchor s₁ indentWidth =
      doc.indentInBrackets rules anchor s₂ indentWidth := by
  simp only [indentInBrackets, hsteps, Statement.indent, hstart]

theorem directiveFor_eq_indentInBrackets {above : Statement} {trigger : Trigger}
    (htrigger : trigger = .manual ∨ trigger = .newline)
    (habove : doc.statementAbove? rules line = some above)
    (hverbatim : doc.isVerbatim rules line = false)
    (h : doc.lastAnchor? ⟨line, 0⟩ = some anchor) (indentWidth : Nat) :
    doc.directiveFor rules line indentWidth trigger =
      doc.indentInBrackets rules anchor above indentWidth := by
  have haccepts : doc.acceptsTrigger rules line trigger = true := by
    rcases htrigger with rfl | rfl <;> rfl
  simp [directiveFor, haccepts, habove, hverbatim, h]

end Document

/-- Lines inside one open bracket are placed alike. The statements above them begin
on one line, no lower than the bracket, and where both of them or neither step past
the bracket the decisions are the same, and so are the answers for lines that the
document has. -/
theorem indent_eq_of_same_bracket (rules : Rules) (texts : List Text) (tabWidth indentWidth : Nat)
    (anchor : Anchor) (l₁ l₂ : Nat) (t₁ t₂ : Trigger)
    (h₁ : (Document.ofLines texts tabWidth).lastAnchor? ⟨l₁, 0⟩ = some anchor)
    (h₂ : (Document.ofLines texts tabWidth).lastAnchor? ⟨l₂, 0⟩ = some anchor) :
    let doc := Document.ofLines texts tabWidth
    ∃ s₁ s₂, doc.statementAbove? rules l₁ = some s₁ ∧ doc.statementAbove? rules l₂ = some s₂ ∧
      s₁.start = s₂.start ∧ s₁.start ≤ anchor.position.line ∧
      ((t₁ = .manual ∨ t₁ = .newline) → (t₂ = .manual ∨ t₂ = .newline) →
        doc.isVerbatim rules l₁ = false → doc.isVerbatim rules l₂ = false →
        doc.stepsPast rules anchor s₁ = doc.stepsPast rules anchor s₂ →
        doc.directiveFor rules l₁ indentWidth t₁ = doc.directiveFor rules l₂ indentWidth t₂ ∧
        (l₁ < doc.lineCount → l₂ < doc.lineCount →
          doc.indent rules l₁ indentWidth t₁ = doc.indent rules l₂ indentWidth t₂)) := by
  intro doc
  have hbrackets := Document.bracketsInCode_ofLines texts tabWidth
  obtain ⟨stop₁, hs₁⟩ := Document.statementAbove?_of_lastAnchor? rules hbrackets h₁
  obtain ⟨stop₂, hs₂⟩ := Document.statementAbove?_of_lastAnchor? rules hbrackets h₂
  refine ⟨_, _, hs₁, hs₂, rfl, doc.statementStart_le rules _, ?_⟩
  intro ht₁ ht₂ hv₁ hv₂ hsteps
  have hsame : doc.directiveFor rules l₁ indentWidth t₁ =
      doc.directiveFor rules l₂ indentWidth t₂ := by
    rw [Document.directiveFor_eq_indentInBrackets ht₁ hs₁ hv₁ h₁,
      Document.directiveFor_eq_indentInBrackets ht₂ hs₂ hv₂ h₂]
    exact Document.indentInBrackets_congr (by rfl) hsteps indentWidth
  refine ⟨hsame, fun hl₁ hl₂ => ?_⟩
  simp [Document.indent, Document.tryIndent, hl₁, hl₂, hsame]

/-- The second and the last element of a call, with a comment, a nested bracket of
two lines and a blank line between them. -/
theorem indent_eq_of_same_bracket_call :
    let doc := Document.ofLines
      (["x = f(a,", "b, # (", "[1,", "2],", "", "c)"].map String.toList) 8
    doc.statementAbove? .default 1 = some ⟨0, 0⟩ ∧ doc.statementAbove? .default 5 = some ⟨0, 3⟩ ∧
      doc.indent .default 1 2 .newline = doc.indent .default 5 2 .manual ∧
      doc.indent .default 5 2 .manual = .alignTo 0 6 := by
  intro doc
  have habove₁ : doc.statementAbove? .default 1 = some ⟨0, 0⟩ := by decide +kernel
  have habove₂ : doc.statementAbove? .default 5 = some ⟨0, 3⟩ := by decide +kernel
  obtain ⟨s₁, s₂, hs₁, hs₂, -, -, hsame⟩ := indent_eq_of_same_bracket .default
    (["x = f(a,", "b, # (", "[1,", "2],", "", "c)"].map String.toList) 8 2 ⟨⟨0, 5⟩, .paren⟩ 1 5
    .newline .manual (by decide +kernel) (by decide +kernel)
  obtain rfl := Option.some.inj (habove₁.symm.trans hs₁)
  obtain rfl := Option.some.inj (habove₂.symm.trans hs₂)
  refine ⟨habove₁, habove₂, ?_, by decide +kernel⟩
  exact (hsame (.inr rfl) (.inl rfl) (by decide +kernel) (by decide +kernel)
    (by decide +kernel)).2 (by decide) (by decide)

end Reindent
