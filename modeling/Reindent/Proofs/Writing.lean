import Reindent.Proofs.Blanks
import Reindent.Proofs.Locality

/-!
# What writing an indent changes

A document changes in one way only: the leading blanks of one line are
replaced and the lines from there on are lexed again as far as needed. Here
it is said once what that does to a document, and what one step of a pass
over several lines can do, so that facts about whole passes need not look
into the decision again.
-/

namespace Reindent

namespace Document

variable {doc : Document} {line : Nat} {blanks : Text}

theorem line_eq {l : SourceLine} (h : doc.lines[line]? = some l) : doc.line line = l.text := by
  rw [Document.line, h]
  rfl

@[simp] theorem length_texts (doc : Document) : doc.texts.length = doc.lineCount := by
  simp [texts, lineCount]

@[simp] theorem texts_ofLines (lines : List Text) (tabWidth : Nat) :
    (ofLines lines tabWidth).texts = lines :=
  SourceLine.map_text_lexAll .start lines

@[simp] theorem lineCount_ofLines (lines : List Text) (tabWidth : Nat) :
    (ofLines lines tabWidth).lineCount = lines.length := by
  rw [← length_texts, texts_ofLines]

theorem getElem?_texts (doc : Document) (line : Nat) :
    doc.texts[line]? = doc.lines[line]?.map (·.text) := by
  simp [texts]

theorem setLeadingBlanks_unchanged (h : Text.leadingBlanks (doc.line line) = blanks) :
    doc.setLeadingBlanks line blanks = (doc, false) := by
  rw [setLeadingBlanks]
  split
  case h_1 => rfl
  case h_2 old hold => rw [if_pos (line_eq hold ▸ h)]

theorem setLeadingBlanks_changed (hlt : line < doc.lineCount)
    (h : Text.leadingBlanks (doc.line line) ≠ blanks) :
    (doc.setLeadingBlanks line blanks).2 = true := by
  obtain ⟨old, hold⟩ : ∃ old, doc.lines[line]? = some old :=
    ⟨_, List.getElem?_eq_getElem hlt⟩
  rw [line_eq hold] at h
  simp only [setLeadingBlanks, hold, if_neg h]

@[simp] theorem tabWidth_setLeadingBlanks (doc : Document) (line : Nat) (blanks : Text) :
    (doc.setLeadingBlanks line blanks).1.tabWidth = doc.tabWidth := by
  rw [setLeadingBlanks]
  split
  · rfl
  · split <;> rfl

theorem texts_setLeadingBlanks (doc : Document) (line : Nat) (blanks : Text) :
    (doc.setLeadingBlanks line blanks).1.texts =
      doc.texts.set line (blanks ++ Text.body (doc.line line)) := by
  cases hold : doc.lines[line]? with
  | none =>
    have hle : doc.texts.length ≤ line := by
      simpa [lineCount] using List.getElem?_eq_none_iff.mp hold
    rw [List.set_eq_of_length_le hle]
    simp only [setLeadingBlanks, hold]
  | some old =>
    have hlt : line < doc.lines.length := (List.getElem?_eq_some_iff.mp hold).1
    have htext : doc.texts[line]? = some old.text := by rw [getElem?_texts, hold, Option.map_some]
    rw [line_eq hold]
    by_cases heq : Text.leadingBlanks old.text = blanks
    · rw [setLeadingBlanks_unchanged (line_eq hold ▸ heq), ← heq,
        Text.leadingBlanks_append_body]
      obtain ⟨hlt, hget⟩ := List.getElem?_eq_some_iff.mp htext
      rw [← hget, List.set_getElem_self]
    · simp only [setLeadingBlanks, hold, if_neg heq, texts, List.map_append, List.map_cons,
        SourceLine.map_text_relex]
      rw [List.set_eq_take_append_cons_drop, if_pos (by simpa using hlt), List.map_take,
        List.map_drop]

@[simp] theorem lineCount_setLeadingBlanks (doc : Document) (line : Nat) (blanks : Text) :
    (doc.setLeadingBlanks line blanks).1.lineCount = doc.lineCount := by
  rw [← length_texts, texts_setLeadingBlanks, List.length_set, length_texts]

theorem line_setLeadingBlanks (h : line < doc.lineCount) (blanks : Text) :
    (doc.setLeadingBlanks line blanks).1.line line = blanks ++ Text.body (doc.line line) := by
  have ht := congrArg (fun l => l[line]?) (texts_setLeadingBlanks doc line blanks)
  have hlt : line < doc.texts.length := by simpa using h
  simp only [List.getElem?_set_self hlt] at ht
  rw [getElem?_texts] at ht
  rw [Document.line, ht]
  rfl

theorem take_setLeadingBlanks (doc : Document) (line : Nat) (blanks : Text) :
    (doc.setLeadingBlanks line blanks).1.lines.take line = doc.lines.take line := by
  rw [setLeadingBlanks]
  split
  case h_1 => rfl
  case h_2 old hold =>
    split
    · rfl
    · have hlt : line < doc.lines.length := (List.getElem?_eq_some_iff.mp hold).1
      rw [List.take_append_of_le_length (by simp; omega), List.take_take, Nat.min_self]

theorem agreeAbove_setLeadingBlanks (doc : Document) (line : Nat) (blanks : Text) :
    AgreeAbove line doc (doc.setLeadingBlanks line blanks).1 := by
  refine ⟨(tabWidth_setLeadingBlanks doc line blanks).symm, ?_⟩
  rw [visible, visible, take_setLeadingBlanks]

end Document

theorem Settings.allBlank_blanks (settings : Settings) (length align : Nat) :
    AllBlank (settings.blanks length align) := by
  intro c hc
  rw [Text.isBlank_iff]
  simp only [Settings.blanks] at hc
  split at hc
  · exact .inl (List.mem_replicate.mp hc).2
  · rcases List.mem_append.mp hc with hc | hc
    · exact .inr (List.mem_replicate.mp hc).2
    · exact .inl (List.mem_replicate.mp hc).2

-- ---------------------------------------------------------------------------
-- One step of a pass
-- ---------------------------------------------------------------------------

namespace Indenter

variable (indenter : Indenter)

/-- The blanks that a directive calls for, if it asks for any change. -/
def written? : Directive → Option Text
  | .verbatim | .noOpinion => none
  | .setIndent column => some (indenter.settings.blanks column 0)
  | .alignTo base column => some (indenter.settings.blanks base column)

theorem allBlank_of_written? {directive : Directive} {blanks : Text}
    (h : indenter.written? directive = some blanks) : AllBlank blanks := by
  cases directive with
  | verbatim | noOpinion => simp [written?] at h
  | setIndent column | alignTo base column =>
    obtain rfl := Option.some.inj h
    exact Settings.allBlank_blanks _ _ _

theorem apply_of_written?_none {directive : Directive} (h : indenter.written? directive = none)
    (doc : Document) (line : Nat) : indenter.apply doc line directive = (doc, false) := by
  cases directive with
  | verbatim | noOpinion => rfl
  | setIndent | alignTo => simp [written?] at h

theorem apply_of_written?_some {directive : Directive} {blanks : Text}
    (h : indenter.written? directive = some blanks) (doc : Document) (line : Nat) :
    indenter.apply doc line directive = doc.setLeadingBlanks line blanks := by
  cases directive with
  | verbatim | noOpinion => simp [written?] at h
  | setIndent | alignTo =>
    obtain rfl := Option.some.inj h
    rfl

def answer (doc : Document) (line : Nat) : Directive :=
  doc.directiveFor indenter.rules line indenter.settings.indentWidth .manual

theorem indentLine_eq {doc : Document} {line : Nat} (h : line < doc.lineCount) :
    indenter.indentLine doc line .manual = indenter.apply doc line (indenter.answer doc line) := by
  rw [indentLine, Document.indent, Document.tryIndent, if_pos h]
  rfl

/-- The pass gives a line other leading blanks. -/
structure Rewrites (doc : Document) (line : Nat) (blanks : Text) : Prop where
  inRange : line < doc.lineCount
  notWhite : Text.isAllWhiteSpace (doc.line line) = false
  written : indenter.written? (indenter.answer doc line) = some blanks
  differs : Text.leadingBlanks (doc.line line) ≠ blanks

/-- A pass has nothing more to do for a line. -/
def Settled (doc : Document) (line : Nat) : Prop := ∀ blanks, ¬ indenter.Rewrites doc line blanks

variable {indenter}

theorem Rewrites.allBlank {doc : Document} {line : Nat} {blanks : Text}
    (h : indenter.Rewrites doc line blanks) : AllBlank blanks :=
  indenter.allBlank_of_written? h.written

theorem Rewrites.congr {a b : Document} {line : Nat} {blanks : Text}
    (hr : indenter.Rewrites a line blanks) (h : AgreeAbove (line + 1) a b) :
    indenter.Rewrites b line blanks := by
  have hline := h.line (Nat.lt_succ_self line)
  have hcount := h.min_lineCount
  have hrange := hr.inRange
  refine ⟨by omega, hline ▸ hr.notWhite, ?_, hline ▸ hr.differs⟩
  rw [answer, ← h.directiveFor_of_lt (Nat.lt_succ_self line)]
  exact hr.written

theorem Rewrites.isVerbatim_eq_false {doc : Document} {line : Nat} {blanks : Text}
    (h : indenter.Rewrites doc line blanks) : doc.isVerbatim indenter.rules line = false := by
  have hw := h.written
  rw [answer, Document.directiveFor] at hw
  split at hw
  · simp [written?] at hw
  · split at hw
    · simp [written?] at hw
    · split at hw
      · simp [written?] at hw
      · next hv => simpa using hv

theorem indentStep_eq (indenter : Indenter) {state : Document × Nat} {line : Nat}
    (hlt : line < state.1.lineCount)
    (hwhite : Text.isAllWhiteSpace (state.1.line line) = false) :
    indenter.indentStep state line =
      ((indenter.apply state.1 line (indenter.answer state.1 line)).1,
        if (indenter.apply state.1 line (indenter.answer state.1 line)).2 then state.2 + 1
        else state.2) := by
  rw [indentStep, if_neg (by simp [hwhite]), indenter.indentLine_eq hlt]

/-- All that a step of a pass can do. -/
theorem indentStep_cases (state : Document × Nat) (line : Nat) :
    indenter.Settled state.1 line ∧ indenter.indentStep state line = state ∨
      ∃ blanks, indenter.Rewrites state.1 line blanks ∧
        indenter.indentStep state line =
          ((state.1.setLeadingBlanks line blanks).1, state.2 + 1) := by
  by_cases hwhite : Text.isAllWhiteSpace (state.1.line line) = true
  · refine .inl ⟨fun blanks hr => ?_, by rw [indentStep, if_pos hwhite]⟩
    simp [hr.notWhite] at hwhite
  by_cases hlt : line < state.1.lineCount
  · have hstep := indenter.indentStep_eq hlt (by simpa using hwhite)
    cases hw : indenter.written? (indenter.answer state.1 line) with
    | none =>
      refine .inl ⟨fun blanks hr => by simp [hr.written] at hw, ?_⟩
      rw [hstep, indenter.apply_of_written?_none hw]
      rfl
    | some blanks =>
      rw [hstep, indenter.apply_of_written?_some hw]
      by_cases heq : Text.leadingBlanks (state.1.line line) = blanks
      · refine .inl ⟨fun other hr => hr.differs ?_, ?_⟩
        · rw [heq, ← Option.some.inj (hw.symm.trans hr.written)]
        · rw [Document.setLeadingBlanks_unchanged heq]
          rfl
      · refine .inr ⟨blanks, ⟨hlt, by simpa using hwhite, hw, heq⟩, ?_⟩
        rw [Document.setLeadingBlanks_changed hlt heq, if_pos rfl]
  · -- Past the end there is no opinion.
    refine .inl ⟨fun blanks hr => hlt hr.inRange, ?_⟩
    rw [indentStep, if_neg hwhite, indentLine, Document.indent, Document.tryIndent, if_neg hlt]
    rfl

/-- What holds of a document and is kept by every rewriting of one of the lines
holds after the pass. -/
theorem foldl_indentStep_induction {P : Document → Prop} {lines : List Nat}
    (keeps : ∀ doc, ∀ line ∈ lines, ∀ blanks, indenter.Rewrites doc line blanks → P doc →
      P (doc.setLeadingBlanks line blanks).1)
    (state : Document × Nat) (h : P state.1) :
    P (lines.foldl indenter.indentStep state).1 := by
  induction lines generalizing state with
  | nil => exact h
  | cons line rest ih =>
    rw [List.foldl_cons]
    apply ih fun doc l hl => keeps doc l (List.mem_cons_of_mem _ hl)
    rcases indenter.indentStep_cases state line with ⟨-, hstep⟩ | ⟨blanks, hr, hstep⟩
    · rwa [hstep]
    · rw [hstep]
      exact keeps state.1 line List.mem_cons_self blanks hr h

theorem indentAll_eq (indenter : Indenter) (doc : Document) :
    indenter.indentAll doc = (List.range doc.lineCount).foldl indenter.indentStep (doc, 0) := by
  have hrange : min (doc.lineCount - 1 + 1) doc.lineCount - 0 = doc.lineCount := by omega
  rw [indentAll, indentLines, hrange, List.range_eq_range']

theorem lineCount_foldl_indentStep (lines : List Nat) (state : Document × Nat) :
    (lines.foldl indenter.indentStep state).1.lineCount = state.1.lineCount := by
  apply foldl_indentStep_induction (P := fun doc => doc.lineCount = state.1.lineCount)
  · intro doc line _ blanks _ h
    rwa [Document.lineCount_setLeadingBlanks]
  · rfl

theorem agreeAbove_foldl_indentStep {lines : List Nat} {n : Nat} (h : ∀ line ∈ lines, n ≤ line)
    (state : Document × Nat) :
    AgreeAbove n state.1 (lines.foldl indenter.indentStep state).1 := by
  apply foldl_indentStep_induction (P := fun doc => AgreeAbove n state.1 doc)
  · intro doc line hl blanks _ hagree
    exact hagree.trans ((doc.agreeAbove_setLeadingBlanks line blanks).mono (h line hl))
  · exact .refl n state.1

end Indenter

end Reindent
