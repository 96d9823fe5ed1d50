import Reindent.Proofs.Writing

/-!
# An indent measures what was written

The virtual column at which a line begins is where the screen position is
behind its leading blanks. For the blanks that are written for an indent this
is the column asked for, with spaces as well as with tabs, as long as the
document expands tabs as the settings say and the column is within the bound
for indents.
-/

namespace Reindent

namespace Text

variable {blanks text : Text}

theorem virtualColumnFrom_blanks (tabWidth : Nat) (h : AllBlank blanks) (hne : text ≠ [])
    (offset position : Nat) :
    virtualColumnFrom tabWidth (offset + blanks.length) offset position (blanks ++ text) =
      blanks.foldl (advance tabWidth) position := by
  induction blanks generalizing offset position with
  | nil =>
    obtain ⟨c, rest, rfl⟩ := List.exists_cons_of_ne_nil hne
    simp [virtualColumnFrom]
  | cons c rest ih =>
    have hsize : c.utf8Size = 1 := by
      rcases isBlank_iff.mp (h c List.mem_cons_self) with rfl | rfl <;> rfl
    have hrest := ih (fun d hd => h d (List.mem_cons_of_mem c hd)) (offset + 1)
      (advance tabWidth position c)
    rw [List.cons_append, virtualColumnFrom, hsize, List.length_cons, if_pos (by omega),
      List.foldl_cons, ← hrest]
    congr 1
    omega

theorem foldl_advance_spaces (tabWidth position n : Nat) :
    (List.replicate n ' ').foldl (advance tabWidth) position = position + n := by
  induction n generalizing position with
  | zero => rfl
  | succ n ih =>
    have hspace : advance tabWidth position ' ' = position + 1 := by
      have hwidth : Unicode.displayWidth ' ' = 1 := by decide
      simp [advance, hwidth]
    rw [List.replicate_succ, List.foldl_cons, hspace, ih]
    omega

theorem foldl_advance_tabs (tabWidth stops n : Nat) :
    (List.replicate n '\t').foldl (advance tabWidth) (stops * tabWidth) =
      (stops + n) * tabWidth := by
  induction n generalizing stops with
  | zero => rfl
  | succ n ih =>
    have htab : advance tabWidth (stops * tabWidth) '\t' = (stops + 1) * tabWidth := by
      simp [advance, Nat.succ_mul]
    rw [List.replicate_succ, List.foldl_cons, htab, ih, Nat.add_assoc, Nat.add_comm 1 n]

end Text

/-- The blanks of an indent lead to its column, and from there to the column of
the alignment. Both are bounded. -/
theorem Settings.foldl_advance_blanks {settings : Settings} {tabWidth : Nat}
    (h : settings.useSpaces = true ∨ tabWidth = max settings.tabWidth 1) (length align : Nat) :
    (settings.blanks length align).foldl (Text.advance tabWidth) 0 =
      min length maxIndent + min (align - min length maxIndent) maxIndent := by
  simp only [blanks]
  generalize min (align - min length maxIndent) maxIndent = spaces
  generalize min length maxIndent = indent
  split
  case isTrue =>
    rw [Text.foldl_advance_spaces, Nat.zero_add]
  case isFalse hspaces =>
    obtain rfl := h.resolve_left hspaces
    -- The tabs lead to the last tab stop before the column.
    have hdiv := Nat.div_add_mod' indent (max settings.tabWidth 1)
    have htabs := Text.foldl_advance_tabs (max settings.tabWidth 1) 0
      (indent / max settings.tabWidth 1)
    rw [Nat.zero_mul, Nat.zero_add] at htabs
    rw [List.foldl_append, htabs, Text.foldl_advance_spaces]
    omega

namespace Document

variable {doc : Document} {line : Nat}

theorem firstVirtualColumn_eq (h : Text.body (doc.line line) ≠ []) :
    doc.firstVirtualColumn line =
      some ((Text.leadingBlanks (doc.line line)).foldl (Text.advance doc.tabWidth) 0) := by
  have hmeasure := Text.virtualColumnFrom_blanks doc.tabWidth
    (Text.allBlank_leadingBlanks (doc.line line)) h 0 0
  rw [Nat.zero_add, Text.leadingBlanks_append_body] at hmeasure
  rw [firstVirtualColumn, firstColumn, Text.firstColumn, if_neg (by simpa using h),
    Option.map_some, virtualColumn, Text.virtualColumn, hmeasure]

theorem firstVirtualColumn_setLeadingBlanks {blanks : Text} (hblank : AllBlank blanks)
    (hlt : line < doc.lineCount) (hbody : Text.body (doc.line line) ≠ []) :
    (doc.setLeadingBlanks line blanks).1.firstVirtualColumn line =
      some (blanks.foldl (Text.advance doc.tabWidth) 0) := by
  have hline := line_setLeadingBlanks hlt blanks
  have hbody' : Text.body ((doc.setLeadingBlanks line blanks).1.line line) ≠ [] := by
    rwa [hline, Text.body_blanks_body hblank]
  rw [firstVirtualColumn_eq hbody', hline, Text.leadingBlanks_blanks_body hblank,
    tabWidth_setLeadingBlanks]

theorem firstVirtualColumn_apply_setIndent {indenter : Indenter} {column : Nat}
    (htab : doc.tabWidth = max indenter.settings.tabWidth 1) (hlt : line < doc.lineCount)
    (hbody : Text.body (doc.line line) ≠ []) (hcolumn : column ≤ maxIndent) :
    (indenter.apply doc line (.setIndent column)).1.firstVirtualColumn line = some column := by
  have hblank := indenter.settings.allBlank_blanks column 0
  rw [Indenter.apply, firstVirtualColumn_setLeadingBlanks hblank hlt hbody,
    Settings.foldl_advance_blanks (.inr htab), Nat.min_eq_left hcolumn]
  simp

end Document

-- ---------------------------------------------------------------------------
-- Writing a directive
-- ---------------------------------------------------------------------------

/-- A directive takes hold of a line: the line begins at `column` behind tabs and then
spaces, and writing the directive once more changes nothing. -/
structure Indenter.TakesHold (indenter : Indenter) (doc : Document) (line : Nat)
    (directive : Directive) (column : Nat) : Prop where
  measured : (indenter.apply doc line directive).1.firstVirtualColumn line = some column
  tabs_first : ∃ tabs spaces,
    Text.leadingBlanks ((indenter.apply doc line directive).1.line line) =
      List.replicate tabs '\t' ++ List.replicate spaces ' '
  again : indenter.apply (indenter.apply doc line directive).1 line directive =
    ((indenter.apply doc line directive).1, false)

theorem Settings.exists_blanks_eq (settings : Settings) (length align : Nat) :
    ∃ tabs spaces, settings.blanks length align =
      List.replicate tabs '\t' ++ List.replicate spaces ' ' := by
  simp only [blanks]
  split
  · exact ⟨0, _, rfl⟩
  · exact ⟨_, _, rfl⟩

theorem Indenter.takesHold_of_written? {indenter : Indenter} {doc : Document} {line : Nat}
    {directive : Directive} {length align : Nat}
    (htab : indenter.settings.useSpaces = true ∨
      doc.tabWidth = max indenter.settings.tabWidth 1)
    (hlt : line < doc.lineCount) (hbody : Text.body (doc.line line) ≠ [])
    (h : indenter.written? directive = some (indenter.settings.blanks length align)) :
    indenter.TakesHold doc line directive
      (min length maxIndent + min (align - min length maxIndent) maxIndent) := by
  have hblank := indenter.settings.allBlank_blanks length align
  have hwritten : Text.leadingBlanks ((indenter.apply doc line directive).1.line line) =
      indenter.settings.blanks length align := by
    rw [apply_of_written?_some indenter h, Document.line_setLeadingBlanks hlt,
      Text.leadingBlanks_blanks_body hblank]
  refine ⟨?_, ?_, ?_⟩
  · rw [apply_of_written?_some indenter h,
      Document.firstVirtualColumn_setLeadingBlanks hblank hlt hbody,
      Settings.foldl_advance_blanks htab]
  · rw [hwritten]
    exact indenter.settings.exists_blanks_eq length align
  · rw [apply_of_written?_some indenter h (indenter.apply doc line directive).1]
    exact Document.setLeadingBlanks_unchanged hwritten

/-- What is written is what is measured: an indent up to the bound for indents, and
behind it an alignment up to the same bound. -/
theorem apply_takes_hold (indenter : Indenter) (doc : Document) (line : Nat)
    (htab : indenter.settings.useSpaces = true ∨
      doc.tabWidth = max indenter.settings.tabWidth 1)
    (hlt : line < doc.lineCount) (hbody : Text.body (doc.line line) ≠ []) :
    (∀ n, indenter.TakesHold doc line (.setIndent n) (min n 256)) ∧
      ∀ b c, indenter.TakesHold doc line (.alignTo b c) (min b 256 + min (c - min b 256) 256) := by
  refine ⟨fun n => ?_, fun b c => Indenter.takesHold_of_written? htab hlt hbody rfl⟩
  have h := Indenter.takesHold_of_written? htab hlt hbody
    (show indenter.written? (.setIndent n) = some (indenter.settings.blanks n 0) from rfl)
  rwa [Nat.zero_sub, Nat.zero_min, Nat.add_zero] at h

/-- With a tab width of zero, which counts as one, and with tabs of four columns that do
not divide the indent. -/
theorem apply_takes_hold_tabs :
    let narrow : Indenter := ⟨.default, ⟨0, 2, false⟩⟩
    let wide : Indenter := ⟨.default, ⟨4, 2, false⟩⟩
    (narrow.apply (Document.ofLines ["x".toList] 0) 0 (.setIndent 300)).1.firstVirtualColumn 0 =
        some 256 ∧
      (wide.apply (Document.ofLines ["  x".toList] 4) 0 (.alignTo 6 9)).1.firstVirtualColumn 0 =
        some 9 ∧
      (wide.apply (Document.ofLines ["  x".toList] 4) 0 (.alignTo 6 9)).1.line 0 =
        "\t     x".toList := by
  intro narrow wide
  refine ⟨?_, ?_, by decide⟩
  · exact ((apply_takes_hold narrow (.ofLines ["x".toList] 0) 0 (.inr rfl) (by decide)
      (by decide)).1 300).measured
  · exact ((apply_takes_hold wide (.ofLines ["  x".toList] 4) 0 (.inr rfl) (by decide)
      (by decide)).2 6 9).measured

end Reindent
