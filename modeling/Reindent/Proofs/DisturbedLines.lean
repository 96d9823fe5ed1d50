import Mathlib.Order.Bounds.Basic
import Reindent.Proofs.Stability

/-!
# The lines that an edit disturbs

An edit lexes its own line again and then goes down until a line was begun
before in the very state in which the lexer now comes to it. The lines that it
passes get the lexer's own rows, whatever rows they had; all other lines, above
and below, are left alone with their texts, states and rows, overridden or not.

The loop meets the stored states while it replaces them, so that one cannot
speak of the states of the document in between. Here its result is cut in two
at once: lines lexed from scratch, and the untouched rest.
-/

namespace Reindent

namespace SourceLine

/-- The lexer, in `state` before the first of these lines, comes to line `i` in the
state in which that line was begun before. -/
def Meets (state : LexState) (lines : List SourceLine) (i : Nat) : Prop :=
  lines[i]?.map (·.start) = some (state.after ((lines.map (·.text)).take i))

theorem meets_zero {state : LexState} {line : SourceLine} {rest : List SourceLine} :
    Meets state (line :: rest) 0 ↔ line.start = state := by
  simp [Meets]

theorem meets_succ {state : LexState} {line : SourceLine} {rest : List SourceLine} {i : Nat} :
    Meets state (line :: rest) (i + 1) ↔ Meets (state.lexLine line.text).2 rest i := by
  simp [Meets]

theorem exists_relex_eq (state : LexState) (lines : List SourceLine) :
    ∃ n ≤ lines.length,
      relex state lines = lexAll state ((lines.map (·.text)).take n) ++ lines.drop n ∧
      (n = lines.length ∨ Meets state lines n) ∧ ∀ i < n, ¬ Meets state lines i := by
  induction lines generalizing state with
  | nil => exact ⟨0, Nat.le_refl 0, rfl, .inl rfl, by simp⟩
  | cons line rest ih =>
    rw [relex]
    split
    case isTrue hmet => exact ⟨0, Nat.zero_le _, rfl, .inr (meets_zero.mpr hmet), by simp⟩
    case isFalse hnot =>
      obtain ⟨n, hle, hlines, hstop, hbefore⟩ := ih (state.lexLine line.text).2
      refine ⟨n + 1, Nat.succ_le_succ hle, ?_, ?_, ?_⟩
      · simp [lexAll, hlines]
      · exact hstop.imp (congrArg Nat.succ) meets_succ.mpr
      · intro i hi
        cases i with
        | zero => exact fun hmet => hnot (meets_zero.mp hmet)
        | succ i => exact fun hmet => hbefore i (Nat.lt_of_succ_lt_succ hi) (meets_succ.mp hmet)

variable {above below : List SourceLine} {state : LexState} {texts : List Text} {l : Nat}

theorem row_of_lexAll (hstate : LexState.start.after (above.map (·.text)) = state)
    (hge : above.length ≤ l) (hlt : l < above.length + texts.length) :
    (above ++ (lexAll state texts ++ below))[l]?.map (·.row) =
      (highlight ((above ++ (lexAll state texts ++ below)).map (·.text)))[l]? := by
  have hmiddle (front rest : List Row) (hfront : front.length = above.length) :
      (front ++ (state.lexLines texts ++ rest))[l]? =
        (state.lexLines texts)[l - above.length]? := by
    rw [List.getElem?_append_right (hfront ▸ hge), hfront,
      List.getElem?_append_left (by rw [LexState.length_lexLines]; omega)]
  rw [← List.getElem?_map, highlight]
  simp only [List.map_append, map_text_lexAll, map_row_lexAll, LexState.lexLines_append, hstate]
  rw [hmiddle _ _ (by simp), hmiddle _ _ (by simp)]

end SourceLine

namespace Document

/-- The state in which the lexer comes to a line when it goes through all texts above
it. -/
def stateAt (doc : Document) (line : Nat) : LexState := LexState.start.after (doc.texts.take line)

/-- An edit is not felt from this line on: the line was begun before in the state in
which the lexer comes to it now, or there are no more lines. -/
def SettledAt (doc edited : Document) (line : Nat) : Prop :=
  line = doc.lineCount ∨ doc.lines[line]?.map (·.start) = some (edited.stateAt line)

instance (doc edited : Document) (line : Nat) : Decidable (doc.SettledAt edited line) :=
  inferInstanceAs (Decidable (_ ∨ _))

/-- What an edit that changes something leaves: the lines above it, then lines lexed from
the state of its own line, then the rest of the lines below, from the first one whose
stored state is met. -/
theorem exists_lines_setLeadingBlanks {doc : Document} {line : Nat} {blanks : Text}
    (h : (doc.setLeadingBlanks line blanks).2 = true) :
    ∃ old, doc.lines[line]? = some old ∧
      let text := blanks ++ Text.body old.text
      let next := (old.start.lexLine text).2
      let below := doc.lines.drop (line + 1)
      ∃ n ≤ below.length,
        (doc.setLeadingBlanks line blanks).1.lines = doc.lines.take line ++
          (SourceLine.lexAll old.start (text :: (below.map (·.text)).take n) ++ below.drop n) ∧
        (n = below.length ∨ SourceLine.Meets next below n) ∧
        ∀ i < n, ¬ SourceLine.Meets next below i := by
  cases hold : doc.lines[line]? with
  | none => simp [setLeadingBlanks, hold] at h
  | some old =>
    refine ⟨old, rfl, ?_⟩
    intro text next below
    have hne : Text.leadingBlanks old.text ≠ blanks := by
      rintro rfl
      simp [setLeadingBlanks, hold] at h
    obtain ⟨n, hle, hlines, hstop, hbefore⟩ := SourceLine.exists_relex_eq next below
    refine ⟨n, hle, ?_, hstop, hbefore⟩
    simp only [setLeadingBlanks, hold, if_neg hne, SourceLine.lexAll]
    rw [List.cons_append, ← hlines]

variable {doc : Document} {overridden : Nat → Prop} {line : Nat} {old : SourceLine}

theorem stateAt_setLeadingBlanks (hlexed : Lexed overridden 0 .start doc.lines)
    (hold : doc.lines[line]? = some old) (blanks : Text) (i : Nat) :
    (doc.setLeadingBlanks line blanks).1.stateAt (line + 1 + i) =
      (old.start.lexLine (blanks ++ Text.body old.text)).2.after
        (((doc.lines.drop (line + 1)).map (·.text)).take i) := by
  have hlt : line < doc.texts.length := by
    simpa [texts] using (List.getElem?_eq_some_iff.mp hold).1
  have htake : (doc.texts.set line (blanks ++ Text.body old.text)).take (line + 1 + i) =
      doc.texts.take line ++ (blanks ++ Text.body old.text) ::
        ((doc.lines.drop (line + 1)).map (·.text)).take i := by
    have hlength : (doc.texts.take line).length = line := List.length_take_of_le hlt.le
    rw [List.set_eq_take_append_cons_drop, if_pos hlt, List.take_append, hlength,
      List.take_of_length_le (by omega), Nat.add_assoc, Nat.add_sub_cancel_left, Nat.add_comm 1,
      List.take_succ_cons, texts, List.map_drop]
  rw [stateAt, texts_setLeadingBlanks, line_eq hold, htake, LexState.after_append,
    LexState.after_cons, (hlexed.of_getElem? hold).1]
  rfl

theorem settledAt_setLeadingBlanks_iff (hlexed : Lexed overridden 0 .start doc.lines)
    (hold : doc.lines[line]? = some old) (blanks : Text) (i : Nat) :
    doc.SettledAt (doc.setLeadingBlanks line blanks).1 (line + 1 + i) ↔
      i = (doc.lines.drop (line + 1)).length ∨
        SourceLine.Meets (old.start.lexLine (blanks ++ Text.body old.text)).2
          (doc.lines.drop (line + 1)) i := by
  have hlt : line < doc.lines.length := (List.getElem?_eq_some_iff.mp hold).1
  rw [SettledAt, stateAt_setLeadingBlanks hlexed hold, SourceLine.Meets, List.getElem?_drop,
    List.length_drop, lineCount]
  exact or_congr_left (by omega)

end Document

/-- An edit lexes again exactly the lines that it disturbs. After any history of edits
and overridden rows, let an edit change the leading blanks of a line, and let `settled`
be the first line below it that was begun before in the state in which the lexer comes to
it in the edited text, or the number of lines if there is none. The lines in between get
the rows of the edited text, and every line above or from `settled` on keeps its text,
its state and its row, overridden or not. -/
theorem edit_relexes_disturbed_lines (texts : List Text) (tabWidth : Nat) (history : List Edit)
    (line : Nat) (blanks : Text) :
    let doc := (Document.ofLines texts tabWidth).edits history
    let edited := (doc.setLeadingBlanks line blanks).1
    (doc.setLeadingBlanks line blanks).2 = true →
      ∃ settled, IsLeast {l | line < l ∧ doc.SettledAt edited l} settled ∧
        (∀ l, line ≤ l → l < settled →
          edited.lines[l]?.map (·.row) = (highlight edited.texts)[l]?) ∧
        ∀ l, l < line ∨ settled ≤ l → edited.lines[l]? = doc.lines[l]? := by
  intro doc edited hchanged
  have hlexed : Lexed _ 0 .start doc.lines :=
    Document.lexed_edits (Lexed.lexAll (fun _ => False) 0 .start texts) history
  obtain ⟨old, hold, n, hle, hlines, hstop, hbefore⟩ :=
    Document.exists_lines_setLeadingBlanks hchanged
  have hsettled := Document.settledAt_setLeadingBlanks_iff hlexed hold blanks
  have hlt : line < doc.lines.length := (List.getElem?_eq_some_iff.mp hold).1
  have habove : (doc.lines.take line).length = line := List.length_take_of_le hlt.le
  refine ⟨line + 1 + n, ⟨⟨by omega, (hsettled n).mpr hstop⟩, ?_⟩, ?_, ?_⟩
  · rintro l ⟨hbelow, hl⟩
    obtain ⟨i, rfl⟩ := Nat.exists_eq_add_of_le (Nat.succ_le_of_lt hbelow)
    by_contra hlow
    have hi : i < n := by omega
    rcases (hsettled i).mp hl with hend | hmet
    · omega
    · exact hbefore i hi hmet
  · intro l hge hl
    have hstate : LexState.start.after ((doc.lines.take line).map (·.text)) = old.start := by
      rw [(hlexed.of_getElem? hold).1, List.map_take]
    rw [Document.texts, hlines]
    refine SourceLine.row_of_lexAll hstate (by omega) ?_
    simp only [List.length_cons, List.length_take, List.length_map]
    omega
  · rintro l (hl | hl)
    · rw [hlines, List.getElem?_append_left (by omega), List.getElem?_take_of_lt hl]
    · have hmiddle : (SourceLine.lexAll old.start ((blanks ++ Text.body old.text) ::
          ((doc.lines.drop (line + 1)).map (·.text)).take n)).length = n + 1 := by
        rw [← List.length_map (·.text), SourceLine.map_text_lexAll, List.length_cons,
          List.length_take_of_le (by simpa using hle)]
      rw [hlines, List.getElem?_append_right (by omega), List.getElem?_append_right (by omega),
        List.getElem?_drop, List.getElem?_drop, habove, hmiddle]
      congr 1
      omega

/-- A space before `=begin` makes code of all lines down to the one below `=end`. Of two
overridden rows, the one on the way is lost and the one below stays. -/
theorem edit_relexes_disturbed_lines_begin :
    let doc := (Document.ofLines (["=begin", "x", "=end", "y", "z"].map String.toList) 4).edits
      [.row 1 [.comment], .row 4 [.string]]
    let edited := (doc.setLeadingBlanks 0 [' ']).1
    (doc.setLeadingBlanks 0 [' ']).2 = true ∧ doc.SettledAt edited 3 ∧
      edited.lines[1]?.map (·.row) = (highlight edited.texts)[1]? ∧
      edited.lines[4]? = doc.lines[4]? := by
  intro doc edited
  have hchanged : (doc.setLeadingBlanks 0 [' ']).2 = true := by decide +kernel
  have hsettled : doc.SettledAt edited 3 := by decide +kernel
  have hfelt : ¬ doc.SettledAt edited 1 := by decide +kernel
  obtain ⟨settled, ⟨⟨hbelow, hat⟩, hleast⟩, hrows, hframe⟩ :=
    edit_relexes_disturbed_lines _ 4 [.row 1 [.comment], .row 4 [.string]] 0 [' '] hchanged
  have hle : settled ≤ 3 := hleast ⟨by decide, hsettled⟩
  have hne : settled ≠ 1 := fun h => hfelt (h ▸ hat)
  exact ⟨hchanged, hsettled, hrows 1 (Nat.zero_le 1) (by omega), hframe 4 (.inr (by omega))⟩

end Reindent
