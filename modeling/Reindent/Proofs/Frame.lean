import Mathlib.Data.List.Nodup
import Mathlib.Data.List.Range
import Reindent.Proofs.DefaultRules
import Reindent.Proofs.Writing

/-!
# Indenting touches nothing but leading blanks

Whatever the rules, the settings and the directive, writing an indent replaces
the leading blanks of one line and leaves all other text alone. It tells the
truth about whether it did anything, and where it did nothing the document is
the same one, with all its rows and states. A pass is a sequence of such
writings to different lines, so the number it reports is the number of lines
that came out different.
-/

namespace Reindent

/-- The two documents have the same lines but for leading blanks. -/
structure Document.SameBodies (doc new : Document) : Prop where
  lineCount : new.lineCount = doc.lineCount
  tabWidth : new.tabWidth = doc.tabWidth
  body : ∀ i, Text.body (new.line i) = Text.body (doc.line i)

/-- What an operation on one line may do: it changes the leading blanks of that
line and reports it, or it changes nothing at all. -/
structure Document.TouchesOnly (doc : Document) (line : Nat) (result : Document × Bool) :
    Prop where
  same : doc.SameBodies result.1
  others : ∀ i, i ≠ line → result.1.line i = doc.line i
  changed_iff : result.2 = true ↔ result.1.line line ≠ doc.line line
  unchanged : result.2 = false → result.1 = doc

namespace Document

variable {doc : Document} {line : Nat} {blanks : Text}

theorem SameBodies.refl (doc : Document) : doc.SameBodies doc := ⟨rfl, rfl, fun _ => rfl⟩

theorem SameBodies.trans {a b c : Document} (h : a.SameBodies b) (h' : b.SameBodies c) :
    a.SameBodies c :=
  ⟨h'.lineCount.trans h.lineCount, h'.tabWidth.trans h.tabWidth,
    fun i => (h'.body i).trans (h.body i)⟩

theorem TouchesOnly.none (doc : Document) (line : Nat) : doc.TouchesOnly line (doc, false) where
  same := .refl doc
  others := fun _ _ => rfl
  changed_iff := by simp
  unchanged := fun _ => rfl

theorem line_eq_texts (doc : Document) (i : Nat) : doc.line i = (doc.texts[i]?).getD [] := by
  rw [getElem?_texts]
  rfl

theorem line_setLeadingBlanks_of_ne {i : Nat} (h : i ≠ line) :
    (doc.setLeadingBlanks line blanks).1.line i = doc.line i := by
  rw [line_eq_texts, line_eq_texts, texts_setLeadingBlanks, List.getElem?_set_ne h.symm]

theorem sameBodies_setLeadingBlanks (hblank : AllBlank blanks) (hlt : line < doc.lineCount) :
    doc.SameBodies (doc.setLeadingBlanks line blanks).1 where
  lineCount := lineCount_setLeadingBlanks doc line blanks
  tabWidth := tabWidth_setLeadingBlanks doc line blanks
  body := by
    intro i
    by_cases hi : i = line
    · subst hi
      rw [line_setLeadingBlanks hlt, Text.body_blanks_body hblank]
    · rw [line_setLeadingBlanks_of_ne hi]

theorem line_setLeadingBlanks_ne (hlt : line < doc.lineCount)
    (h : Text.leadingBlanks (doc.line line) ≠ blanks) :
    (doc.setLeadingBlanks line blanks).1.line line ≠ doc.line line := by
  rw [line_setLeadingBlanks hlt]
  intro hsame
  have hsplit := hsame.trans (Text.leadingBlanks_append_body (doc.line line)).symm
  exact h (List.append_cancel_right hsplit).symm

theorem touchesOnly_setLeadingBlanks (hblank : AllBlank blanks) (doc : Document) (line : Nat) :
    doc.TouchesOnly line (doc.setLeadingBlanks line blanks) := by
  by_cases hsame : Text.leadingBlanks (doc.line line) = blanks
  · rw [setLeadingBlanks_unchanged hsame]
    exact .none doc line
  by_cases hlt : line < doc.lineCount
  · have hchanged := setLeadingBlanks_changed hlt hsame
    refine ⟨sameBodies_setLeadingBlanks hblank hlt, fun i => line_setLeadingBlanks_of_ne, ?_, ?_⟩
    · exact iff_of_true hchanged (line_setLeadingBlanks_ne hlt hsame)
    · simp [hchanged]
  · -- Past the end there is no line to write to.
    have hpast : doc.lines[line]? = Option.none := List.getElem?_eq_none (Nat.le_of_not_lt hlt)
    have hnone : doc.setLeadingBlanks line blanks = (doc, false) := by
      simp only [setLeadingBlanks, hpast]
    rw [hnone]
    exact .none doc line

end Document

-- ---------------------------------------------------------------------------
-- Operations on one line
-- ---------------------------------------------------------------------------

namespace Indenter

variable (indenter : Indenter) (doc : Document) (line : Nat)

theorem touchesOnly_apply (directive : Directive) :
    doc.TouchesOnly line (indenter.apply doc line directive) := by
  cases hw : indenter.written? directive with
  | none =>
    rw [indenter.apply_of_written?_none hw]
    exact .none doc line
  | some blanks =>
    rw [indenter.apply_of_written?_some hw]
    exact Document.touchesOnly_setLeadingBlanks (indenter.allBlank_of_written? hw) doc line

theorem touchesOnly_indentLine (trigger : Trigger) :
    doc.TouchesOnly line (indenter.indentLine doc line trigger) :=
  indenter.touchesOnly_apply doc line _

theorem touchesOnly_typed (c : Char) : doc.TouchesOnly line (indenter.typed doc line c) := by
  rw [typed]
  split
  · exact indenter.touchesOnly_indentLine doc line _
  · exact .none doc line

end Indenter

-- ---------------------------------------------------------------------------
-- A pass over several lines
-- ---------------------------------------------------------------------------

def Document.changedLines (doc new : Document) (lines : List Nat) : List Nat :=
  lines.filter fun i => new.line i ≠ doc.line i

namespace Indenter

variable {indenter : Indenter} {lines : List Nat}

theorem sameBodies_foldl_indentStep (lines : List Nat) (state : Document × Nat) :
    state.1.SameBodies (lines.foldl indenter.indentStep state).1 := by
  apply foldl_indentStep_induction (P := fun doc => state.1.SameBodies doc)
  · intro doc line _ blanks hr h
    exact h.trans (Document.sameBodies_setLeadingBlanks hr.allBlank hr.inRange)
  · exact .refl state.1

theorem line_foldl_indentStep_of_notMem {i : Nat} (hi : i ∉ lines) (state : Document × Nat) :
    (lines.foldl indenter.indentStep state).1.line i = state.1.line i := by
  apply foldl_indentStep_induction (P := fun doc => doc.line i = state.1.line i)
  · intro doc line hl blanks _ h
    have hne : i ≠ line := by
      rintro rfl
      exact hi hl
    rw [Document.line_setLeadingBlanks_of_ne hne, h]
  · rfl

theorem line_foldl_indentStep_of_white {i : Nat} (state : Document × Nat)
    (hwhite : Text.isAllWhiteSpace (state.1.line i) = true) :
    (lines.foldl indenter.indentStep state).1.line i = state.1.line i := by
  apply foldl_indentStep_induction (P := fun doc => doc.line i = state.1.line i)
  · intro doc line _ blanks hr h
    have hne : i ≠ line := by
      rintro rfl
      have hvisible := hr.notWhite
      rw [h, hwhite] at hvisible
      exact Bool.false_ne_true hvisible.symm
    rw [Document.line_setLeadingBlanks_of_ne hne, h]
  · rfl

theorem count_foldl_indentStep (hnodup : lines.Nodup) (state : Document × Nat) :
    (lines.foldl indenter.indentStep state).2 =
      state.2 + (state.1.changedLines (lines.foldl indenter.indentStep state).1 lines).length := by
  induction lines generalizing state with
  | nil => rfl
  | cons line rest ih =>
    obtain ⟨hline, hrest⟩ := List.nodup_cons.mp hnodup
    rw [List.foldl_cons, ih hrest]
    -- The rest of the pass keeps what the step made of its line.
    have hkept := indenter.line_foldl_indentStep_of_notMem hline (indenter.indentStep state line)
    generalize hfinal : rest.foldl indenter.indentStep (indenter.indentStep state line) = final
      at hkept ⊢
    have hothers : (indenter.indentStep state line).1.changedLines final.1 rest =
        state.1.changedLines final.1 rest := by
      refine List.filter_congr fun i hi => ?_
      have hne : i ∉ [line] := by
        rintro hmem
        obtain rfl := List.mem_singleton.mp hmem
        exact hline hi
      rw [← line_foldl_indentStep_of_notMem hne state]
      rfl
    rw [hothers]
    rcases indenter.indentStep_cases state line with ⟨-, hstep⟩ | ⟨blanks, hr, hstep⟩
    · rw [hstep] at hkept ⊢
      simp [Document.changedLines, hkept]
    · rw [hstep] at hkept ⊢
      have hchanged := Document.line_setLeadingBlanks_ne hr.inRange hr.differs
      rw [← hkept] at hchanged
      simp only [Document.changedLines, List.filter_cons, hchanged, ne_eq, not_false_eq_true,
        decide_true, if_true, List.length_cons]
      omega

theorem foldl_indentStep_of_count_eq (state : Document × Nat)
    (h : (lines.foldl indenter.indentStep state).2 = state.2) :
    lines.foldl indenter.indentStep state = state := by
  have hmono (lines : List Nat) (state : Document × Nat) :
      state.2 ≤ (lines.foldl indenter.indentStep state).2 := by
    induction lines generalizing state with
    | nil => exact Nat.le_refl _
    | cons line rest ih =>
      refine Nat.le_trans ?_ (ih (indenter.indentStep state line))
      rcases indenter.indentStep_cases state line with ⟨-, hstep⟩ | ⟨blanks, -, hstep⟩
      · rw [hstep]
      · rw [hstep]
        exact Nat.le_succ _
  induction lines generalizing state with
  | nil => rfl
  | cons line rest ih =>
    rw [List.foldl_cons] at h ⊢
    rcases indenter.indentStep_cases state line with ⟨-, hstep⟩ | ⟨blanks, -, hstep⟩
    · rw [hstep] at h ⊢
      exact ih state h
    · have hle := hmono rest (indenter.indentStep state line)
      rw [hstep] at h hle
      dsimp only at hle
      omega

theorem length_changedLines_indentLines (doc : Document) (first last : Nat) :
    let new := (indenter.indentLines doc first last).1
    (doc.changedLines new (List.range' first (min (last + 1) doc.lineCount - first))).length =
      (doc.changedLines new (List.range doc.lineCount)).length := by
  intro new
  refine List.Perm.length_eq ((List.perm_ext_iff_of_nodup ?_ ?_).mpr fun i => ?_)
  · exact List.Nodup.filter _ (List.nodup_range' (h := Nat.one_pos))
  · exact List.Nodup.filter _ List.nodup_range
  · simp only [Document.changedLines, List.mem_filter, List.mem_range, List.mem_range'_1]
    refine and_congr_left fun hchanged => ⟨fun hi => by omega, fun _ => ?_⟩
    by_contra hout
    have hkept := indenter.line_foldl_indentStep_of_notMem (mt List.mem_range'_1.mp hout) (doc, 0)
    exact of_decide_eq_true hchanged hkept

end Indenter

/-- What a pass may do: it changes the leading blanks of lines in its range that
are not all white space, reports how many lines are different, and changes
nothing at all if none is. -/
structure Document.PassTouches (doc : Document) (first last : Nat) (result : Document × Nat) :
    Prop where
  same : doc.SameBodies result.1
  outside : ∀ i, i < first ∨ last < i → result.1.line i = doc.line i
  white : ∀ i, Text.isAllWhiteSpace (doc.line i) = true → result.1.line i = doc.line i
  count : result.2 = (doc.changedLines result.1 (List.range doc.lineCount)).length
  unchanged : result.2 = 0 → result.1 = doc

/-- Indenting edits touch nothing but leading blanks, for every document, every
line and range in it or past its end, all rules and all settings. -/
theorem indenting_touches_blanks_only (indenter : Indenter) (doc : Document) :
    (∀ line c, doc.TouchesOnly line (indenter.typed doc line c)) ∧
    (∀ line trigger, doc.TouchesOnly line (indenter.indentLine doc line trigger)) ∧
    (∀ line directive, doc.TouchesOnly line (indenter.apply doc line directive)) ∧
    (∀ first last, doc.PassTouches first last (indenter.indentLines doc first last)) := by
  refine ⟨indenter.touchesOnly_typed doc, indenter.touchesOnly_indentLine doc,
    indenter.touchesOnly_apply doc, fun first last => ?_⟩
  rw [Indenter.indentLines]
  generalize hlines : List.range' first (min (last + 1) doc.lineCount - first) = lines
  have hnodup : lines.Nodup := hlines ▸ List.nodup_range' (h := Nat.one_pos)
  refine ⟨indenter.sameBodies_foldl_indentStep lines (doc, 0), fun i hi => ?_, fun i hi => ?_,
    ?_, fun h => ?_⟩
  · have hout : i ∉ lines := by
      rw [← hlines, List.mem_range'_1]
      omega
    exact indenter.line_foldl_indentStep_of_notMem hout (doc, 0)
  · exact indenter.line_foldl_indentStep_of_white (doc, 0) hi
  · have hcount := indenter.count_foldl_indentStep hnodup (doc, 0)
    have hall := indenter.length_changedLines_indentLines doc first last
    rw [Indenter.indentLines, hlines] at hall
    rw [hcount, Nat.zero_add, hall]
  · rw [indenter.foldl_indentStep_of_count_eq (doc, 0) h]

/-- A pass that moves one of three lines and leaves a line of wide white space
alone, and a character that calls for no change. -/
theorem indenting_touches_blanks_only_block :
    let indenter : Indenter := ⟨.default, .default⟩
    let doc := Document.ofLines ["if a".toList, "b".toList, ['\u3000'], "c = d".toList] 8
    let result := indenter.indentLines doc 1 2
    result.1.texts = ["if a".toList, "  b".toList, ['\u3000'], "c = d".toList] ∧
      result.2 = (doc.changedLines result.1 (List.range 4)).length ∧
      (indenter.typed doc 3 'd').1 = doc := by
  intro indenter doc result
  obtain ⟨htyped, -, -, hpass⟩ := indenting_touches_blanks_only indenter doc
  have hquiet : (indenter.typed doc 3 'd').2 = false := by decide +kernel
  exact ⟨by decide +kernel, (hpass 1 2).count, (htyped 3 'd').unchanged hquiet⟩

end Reindent
