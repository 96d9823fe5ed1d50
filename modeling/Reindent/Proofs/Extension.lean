import Reindent.Proofs.Relexing

/-!
# Lines added below

A document that goes on below the end of another one is indented like it as
far as the shorter one reaches. A pass over both goes through the shared
lines in lockstep: the answers are the same, what is written is the same, and
lexing again comes to rest at the same line or runs off the end of the shorter
document. What the pass does below that end never reaches back.
-/

namespace Reindent

/-- The second document begins with the lines of the first, with their texts,
states and rows. -/
structure Document.Extends (short long : Document) : Prop where
  tabWidth : short.tabWidth = long.tabWidth
  lines : short.lines <+: long.lines

theorem SourceLine.relex_prefix (state : LexState) {short long : List SourceLine}
    (h : short <+: long) : relex state short <+: relex state long := by
  obtain ⟨below, rfl⟩ := h
  induction short generalizing state with
  | nil => exact List.nil_prefix
  | cons line rest ih =>
    simp only [List.cons_append, relex]
    split
    · exact List.prefix_append (line :: rest) below
    · exact List.cons_prefix_cons.mpr ⟨rfl, ih _⟩

namespace Document.Extends

variable {short long : Document} {line : Nat}

theorem agreeAbove (h : short.Extends long) : AgreeAbove short.lineCount short long := by
  obtain ⟨htab, below, hlines⟩ := h
  refine ⟨htab, ?_⟩
  simp [visible, lineCount, ← hlines]

theorem getElem? (h : short.Extends long) (hlt : line < short.lineCount) :
    long.lines[line]? = short.lines[line]? := by
  obtain ⟨-, below, hlines⟩ := h
  rw [← hlines, List.getElem?_append_left hlt]

theorem setLeadingBlanks (h : short.Extends long) (hlt : line < short.lineCount)
    (blanks : Text) :
    (short.setLeadingBlanks line blanks).1.Extends (long.setLeadingBlanks line blanks).1 := by
  refine ⟨by simp [h.tabWidth], ?_⟩
  obtain ⟨old, hold⟩ : ∃ old, short.lines[line]? = some old :=
    ⟨_, List.getElem?_eq_getElem hlt⟩
  simp only [Document.setLeadingBlanks, h.getElem? hlt, hold]
  split
  · exact h.lines
  · obtain ⟨-, below, hlines⟩ := h
    have hle : line ≤ short.lines.length := Nat.le_of_lt hlt
    have htake : long.lines.take line = short.lines.take line := by
      rw [← hlines, List.take_append_of_le_length hle]
    have hdrop : short.lines.drop (line + 1) <+: long.lines.drop (line + 1) := by
      rw [← hlines, List.drop_append_of_le_length hlt]
      exact List.prefix_append _ _
    rw [htake]
    apply (List.prefix_append_right_inj _).mpr
    exact List.cons_prefix_cons.mpr ⟨rfl, SourceLine.relex_prefix _ hdrop⟩

theorem setLeadingBlanks_below (h : short.Extends long) (hle : short.lineCount ≤ line)
    (blanks : Text) : short.Extends (long.setLeadingBlanks line blanks).1 := by
  refine ⟨by simp [h.tabWidth], ?_⟩
  have hkept : short.lines <+: long.lines.take line := List.prefix_take_iff.mpr ⟨h.lines, hle⟩
  rw [← take_setLeadingBlanks long line blanks] at hkept
  exact hkept.trans (List.take_prefix _ _)

variable {indenter : Indenter} {lines : List Nat} {s t : Document × Nat}

theorem indentStep (h : s.1.Extends t.1) (hlt : line < s.1.lineCount) :
    (indenter.indentStep s line).1.Extends (indenter.indentStep t line).1 := by
  have hagree : AgreeAbove (line + 1) s.1 t.1 := h.agreeAbove.mono hlt
  rcases indenter.indentStep_cases s line with ⟨hs, hstep⟩ | ⟨blanks, hr, hstep⟩
  · rcases indenter.indentStep_cases t line with ⟨-, hstep'⟩ | ⟨blanks, hr, -⟩
    · rwa [hstep, hstep']
    · exact absurd (hr.congr hagree.symm) (hs blanks)
  · rcases indenter.indentStep_cases t line with ⟨ht, -⟩ | ⟨blanks', hr', hstep'⟩
    · exact absurd (hr.congr hagree) (ht blanks)
    · obtain rfl : blanks = blanks' :=
        Option.some.inj ((hr.congr hagree).written.symm.trans hr'.written)
      rw [hstep, hstep']
      exact h.setLeadingBlanks hlt blanks

theorem foldl_indentStep (h : s.1.Extends t.1) (hlines : ∀ line ∈ lines, line < s.1.lineCount) :
    (lines.foldl indenter.indentStep s).1.Extends (lines.foldl indenter.indentStep t).1 := by
  induction lines generalizing s t with
  | nil => exact h
  | cons first rest ih =>
    obtain ⟨hfirst, hrest⟩ := List.forall_mem_cons.mp hlines
    have hcount : (indenter.indentStep s first).1.lineCount = s.1.lineCount :=
      Indenter.lineCount_foldl_indentStep [first] s
    exact ih (h.indentStep hfirst) (hcount ▸ hrest)

theorem foldl_indentStep_below (h : short.Extends t.1)
    (hlines : ∀ line ∈ lines, short.lineCount ≤ line) :
    short.Extends (lines.foldl indenter.indentStep t).1 := by
  apply Indenter.foldl_indentStep_induction (P := fun doc => short.Extends doc)
  · intro doc line hmem blanks _ hext
    exact hext.setLeadingBlanks_below (hlines line hmem) blanks
  · exact h

theorem indentAll (h : short.Extends long) (indenter : Indenter) :
    (indenter.indentAll short).1.Extends (indenter.indentAll long).1 := by
  obtain ⟨more, hmore⟩ := Nat.exists_eq_add_of_le h.lines.length_le
  have hrange : List.range long.lineCount =
      List.range short.lineCount ++ List.range' short.lineCount more := by
    simp only [lineCount, hmore, List.range_eq_range', ← List.range'_append_1, Nat.zero_add]
  rw [indenter.indentAll_eq, indenter.indentAll_eq, hrange, List.foldl_append]
  apply foldl_indentStep_below
  · exact h.foldl_indentStep (s := (short, 0)) (t := (long, 0)) fun line => List.mem_range.mp
  · intro line hmem
    rw [Indenter.lineCount_foldl_indentStep]
    exact (List.mem_range'_1.mp hmem).1

end Document.Extends

theorem Document.extends_ofLines (above below : List Text) (tabWidth : Nat) :
    (ofLines above tabWidth).Extends (ofLines (above ++ below) tabWidth) := by
  refine ⟨rfl, ?_⟩
  simp only [ofLines, SourceLine.lexAll_append]
  exact List.prefix_append _ _

/-- What becomes of the lines of a document does not depend on the lines below
them. Whatever is added below, indenting the whole gives the lines above it
the texts, states and rows that indenting them alone gives. -/
theorem take_lines_indentAll_append (indenter : Indenter) (above below : List Text)
    (tabWidth : Nat) :
    (indenter.indentAll (Document.ofLines (above ++ below) tabWidth)).1.lines.take above.length =
      (indenter.indentAll (Document.ofLines above tabWidth)).1.lines := by
  have hlines := ((Document.extends_ofLines above below tabWidth).indentAll indenter).lines
  have hlength : (indenter.indentAll (Document.ofLines above tabWidth)).1.lineCount =
      above.length := by
    rw [indenter.indentAll_eq, Indenter.lineCount_foldl_indentStep, Document.lineCount_ofLines]
  rw [← hlength]
  exact (List.prefix_iff_eq_take.mp hlines).symm

end Reindent
