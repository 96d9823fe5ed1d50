import Reindent.Proofs.Writing

/-!
# Lexing again after an edit

A document keeps for each line the state in which the lexer began it. An edit
lexes from its line down and stops at the first line that begins in the
state it began in before. That is enough: the invariant `Lexed` links the
stored states and rows with the texts, every edit restores it, and so after
any history of edits the document holds what lexing its lines from scratch
would give. Rows that were overridden from outside are exempt.
-/

namespace Reindent

def filledRow (kind : Attribute) (line : Text) : Row :=
  List.replicate (Text.byteLength line) kind

def LexState.after (state : LexState) (lines : List Text) : LexState :=
  lines.foldl (fun state line => (state.lexLine line).2) state

@[simp] theorem LexState.after_nil (state : LexState) : state.after [] = state := rfl

@[simp] theorem LexState.after_cons (state : LexState) (line : Text) (rest : List Text) :
    state.after (line :: rest) = (state.lexLine line).2.after rest := rfl

theorem LexState.getElem?_lexLines (state : LexState) (lines : List Text) (i : Nat) :
    (state.lexLines lines)[i]? =
      lines[i]?.map fun line => ((state.after (lines.take i)).lexLine line).1 := by
  induction lines generalizing state i with
  | nil => simp [lexLines]
  | cons line rest ih =>
    cases i with
    | zero => simp [lexLines]
    | succ i => simpa [lexLines] using ih _ i

theorem LexState.lexLines_append (state : LexState) (above below : List Text) :
    state.lexLines (above ++ below) =
      state.lexLines above ++ (state.after above).lexLines below := by
  induction above generalizing state with
  | nil => rfl
  | cons line rest ih => simp [lexLines, ih]

@[simp] theorem LexState.length_lexLines (state : LexState) (lines : List Text) :
    (state.lexLines lines).length = lines.length := by
  induction lines generalizing state with
  | nil => rfl
  | cons line rest ih => simp [lexLines, ih]

theorem SourceLine.lexAll_append (state : LexState) (above below : List Text) :
    lexAll state (above ++ below) = lexAll state above ++ lexAll (state.after above) below := by
  induction above generalizing state with
  | nil => rfl
  | cons line rest ih => simp [lexAll, ih]

/-- The lines from number `i` on were begun in the states that the lexer goes
through from `state` on, and have its rows except where `overridden`. -/
def Lexed (overridden : Nat → Prop) : Nat → LexState → List SourceLine → Prop
  | _, _, [] => True
  | i, state, line :: rest =>
    line.start = state ∧ (¬ overridden i → line.row = (state.lexLine line.text).1) ∧
      Lexed overridden (i + 1) (state.lexLine line.text).2 rest

namespace Lexed

variable {overridden : Nat → Prop} {i : Nat} {state : LexState} {lines : List SourceLine}

theorem mono {wider : Nat → Prop} (h : Lexed overridden i state lines)
    (hw : ∀ k, overridden k → wider k) : Lexed wider i state lines := by
  induction lines generalizing i state with
  | nil => trivial
  | cons line rest ih =>
    obtain ⟨hstart, hrow, hrest⟩ := h
    exact ⟨hstart, fun hk => hrow fun ho => hk (hw i ho), ih hrest⟩

theorem append {before below : List SourceLine} :
    Lexed overridden i state (before ++ below) ↔
      Lexed overridden i state before ∧
        Lexed overridden (i + before.length) (state.after (before.map (·.text))) below := by
  induction before generalizing i state with
  | nil => simp [Lexed]
  | cons line rest ih =>
    simp only [List.cons_append, Lexed, ih, List.map_cons, LexState.after_cons, List.length_cons,
      and_assoc, Nat.add_assoc, Nat.add_comm 1]

theorem lexAll (overridden : Nat → Prop) (i : Nat) (state : LexState) (texts : List Text) :
    Lexed overridden i state (SourceLine.lexAll state texts) := by
  induction texts generalizing i state with
  | nil => trivial
  | cons text rest ih => exact ⟨rfl, fun _ => rfl, ih _ _⟩

/-- Lexing again from any state makes up for whatever state the lines were
lexed from before. -/
theorem relex (h : Lexed overridden i state lines) (newState : LexState) :
    Lexed overridden i newState (SourceLine.relex newState lines) := by
  induction lines generalizing i state newState with
  | nil => trivial
  | cons line rest ih =>
    obtain ⟨hstart, hrow, hrest⟩ := h
    rw [SourceLine.relex]
    split
    case isTrue heq =>
      -- The line was begun in this very state, so all below is right already.
      obtain rfl := hstart.symm.trans heq
      exact ⟨hstart, hrow, hrest⟩
    case isFalse => exact ⟨rfl, fun _ => rfl, ih hrest _⟩

theorem modify_row (h : Lexed overridden i state lines) (k : Nat) (row : Row) :
    Lexed (fun j => overridden j ∨ j = i + k) i state
      (lines.modify k fun l => { l with row := row }) := by
  induction lines generalizing i state k with
  | nil => simp [Lexed]
  | cons line rest ih =>
    obtain ⟨hstart, hrow, hrest⟩ := h
    cases k with
    | zero =>
      refine ⟨hstart, fun hk => absurd (.inr rfl) hk, ?_⟩
      exact hrest.mono fun j => .inl
    | succ k =>
      refine ⟨hstart, fun hk => hrow fun ho => hk (.inl ho), ?_⟩
      refine (ih hrest k).mono fun j hj => hj.imp id ?_
      omega

theorem of_getElem? (h : Lexed overridden i state lines) {k : Nat} {line : SourceLine}
    (hk : lines[k]? = some line) :
    line.start = state.after ((lines.map (·.text)).take k) ∧
      (¬ overridden (i + k) → line.row = (line.start.lexLine line.text).1) := by
  induction lines generalizing i state k with
  | nil => simp at hk
  | cons first rest ih =>
    obtain ⟨hstart, hrow, hrest⟩ := h
    cases k with
    | zero =>
      obtain rfl : first = line := by simpa using hk
      exact ⟨by simpa using hstart, fun ho => hstart ▸ hrow ho⟩
    | succ k =>
      have := ih hrest (by simpa using hk)
      rw [Nat.add_right_comm, Nat.add_assoc] at this
      simpa using this

theorem eq_lexAll (h : Lexed (fun _ => False) i state lines) :
    lines = SourceLine.lexAll state (lines.map (·.text)) := by
  induction lines generalizing i state with
  | nil => rfl
  | cons line rest ih =>
    obtain ⟨rfl, hrow, hrest⟩ := h
    rw [List.map_cons, SourceLine.lexAll, ← ih hrest, ← hrow id]

end Lexed

-- ---------------------------------------------------------------------------
-- Edits
-- ---------------------------------------------------------------------------

/-- A change of a document from outside. -/
inductive Edit where
  /-- Other leading blanks for a line, or any other text in their place. -/
  | blanks (line : Nat) (text : Text)
  /-- Another row for a line. -/
  | row (line : Nat) (row : Row)

def Edit.overridden? : Edit → Option Nat
  | .blanks _ _ => none
  | .row line _ => some line

namespace Document

def edit (doc : Document) : Edit → Document
  | .blanks line text => (doc.setLeadingBlanks line text).1
  | .row line row => doc.setRow line row

def edits (doc : Document) (history : List Edit) : Document := history.foldl edit doc

variable {doc : Document} {overridden : Nat → Prop}

theorem lexed_setLeadingBlanks (h : Lexed overridden 0 .start doc.lines) (line : Nat)
    (blanks : Text) : Lexed overridden 0 .start (doc.setLeadingBlanks line blanks).1.lines := by
  rw [setLeadingBlanks]
  split
  case h_1 => exact h
  case h_2 old hold =>
    split
    · exact h
    · obtain ⟨hlt, hget⟩ := List.getElem?_eq_some_iff.mp hold
      rw [← List.take_append_drop line doc.lines, List.drop_eq_getElem_cons hlt, hget,
        Lexed.append] at h
      obtain ⟨habove, hstart, -, hbelow⟩ := h
      rw [Lexed.append]
      exact ⟨habove, hstart, fun _ => hstart ▸ rfl, hstart ▸ hbelow.relex _⟩

theorem lexed_edit (h : Lexed overridden 0 .start doc.lines) (change : Edit) :
    Lexed (fun i => overridden i ∨ change.overridden? = some i) 0 .start
      (doc.edit change).lines := by
  cases change with
  | blanks line text => exact (lexed_setLeadingBlanks h line text).mono fun i => .inl
  | row line row =>
    refine (h.modify_row line row).mono fun i hi => hi.imp id fun he => ?_
    rw [Edit.overridden?, he, Nat.zero_add]

theorem lexed_edits (h : Lexed overridden 0 .start doc.lines) (history : List Edit) :
    Lexed (fun i => overridden i ∨ i ∈ history.filterMap Edit.overridden?) 0 .start
      (doc.edits history).lines := by
  induction history generalizing doc overridden with
  | nil => exact h.mono fun i => .inl
  | cons change rest ih =>
    refine (ih (lexed_edit h change)).mono fun i hi => ?_
    rcases hi with (hi | hi) | hi
    · exact .inl hi
    · exact .inr (List.mem_filterMap.mpr ⟨change, List.mem_cons_self, hi⟩)
    · obtain ⟨later, hl, he⟩ := List.mem_filterMap.mp hi
      exact .inr (List.mem_filterMap.mpr ⟨later, List.mem_cons_of_mem _ hl, he⟩)

theorem tabWidth_edits (doc : Document) (history : List Edit) :
    (doc.edits history).tabWidth = doc.tabWidth := by
  induction history generalizing doc with
  | nil => rfl
  | cons change rest ih =>
    rw [edits, List.foldl_cons, ← edits, ih]
    cases change with
    | blanks line text => exact tabWidth_setLeadingBlanks doc line text
    | row line row => rfl

theorem eq_ofLines_of_lexed {tabWidth : Nat} (h : Lexed (fun _ => False) 0 .start doc.lines)
    (hw : doc.tabWidth = max tabWidth 1) : doc = ofLines doc.texts tabWidth := by
  have hlines := h.eq_lexAll
  obtain ⟨lines, width, pos⟩ := doc
  obtain rfl : width = max tabWidth 1 := hw
  simp only [ofLines, Document.mk.injEq, and_true]
  exact hlines

end Document

/-- Incremental highlighting agrees with highlighting from scratch. After any
history of edits, each line was begun in the state that lexing the current
lines above it reaches, and each row that was never overridden is the one of
the whole current buffer. Without overrides nothing tells the document from
a fresh one. -/
theorem edits_keep_highlighting (lines : List Text) (tabWidth : Nat) (history : List Edit) :
    let doc := (Document.ofLines lines tabWidth).edits history
    let overridden := history.filterMap Edit.overridden?
    (∀ i line, doc.lines[i]? = some line →
      line.start = LexState.start.after (doc.texts.take i)) ∧
    (∀ i, i ∉ overridden → doc.lines[i]?.map (·.row) = (highlight doc.texts)[i]?) ∧
    (overridden = [] → doc = Document.ofLines doc.texts tabWidth) := by
  intro doc overridden
  have hlexed : Lexed (fun i => False ∨ i ∈ overridden) 0 .start doc.lines :=
    Document.lexed_edits (Lexed.lexAll _ 0 .start lines) history
  refine ⟨?_, ?_, ?_⟩
  · intro i line hi
    exact (hlexed.of_getElem? hi).1
  · intro i hfree
    rw [highlight, LexState.getElem?_lexLines, Document.getElem?_texts]
    cases hi : doc.lines[i]? with
    | none => rfl
    | some line =>
      obtain ⟨hstart, hrow⟩ := hlexed.of_getElem? hi
      have hrow := hrow (by simpa using hfree)
      rw [Option.map_some, Option.map_some, Option.map_some, hrow, hstart]
      rfl
  · intro hnone
    apply Document.eq_ofLines_of_lexed
    · exact hlexed.mono fun i hi => by simp [hnone] at hi
    · exact Document.tabWidth_edits _ history

/-- A space before `=begin` turns the documentation into code again, and a line
below is overridden. -/
theorem edits_keep_highlighting_begin :
    let history : List Edit := [.blanks 0 [' '], .row 2 [.string]]
    let doc := (Document.ofLines ["=begin".toList, "x".toList, "y".toList] 4).edits history
    doc.lines.map (·.row) = [List.replicate 7 .normal, [.normal], [.string]] ∧
      doc.lines[1]?.map (·.row) = (highlight doc.texts)[1]? :=
  ⟨by decide, (edits_keep_highlighting ["=begin".toList, "x".toList, "y".toList] 4
    [.blanks 0 [' '], .row 2 [.string]]).2.1 1 (by decide)⟩

end Reindent
