import Reindent.Proofs.Stability

/-!
# Here documents that wait for their end

Several here documents can be opened on one line, and a literal can be left open
there too. The documents then follow one after the other, each up to the first
line that closes it, and the lexer looks at nothing else: what a line would be
outside does not matter, the context is not touched, and no document is opened
or closed out of its turn. Behind the last end the interrupted context goes on.
-/

namespace Reindent

namespace HereDocument

/-- The numbers of the lines at which the documents of a queue end, as far as they do: the
first line that closes the first document, the first line behind it that closes the
second one, and so on. -/
def endsIn : List HereDocument → List Text → List Nat
  | [], _ => []
  | document :: later, lines =>
    match lines.findIdx? document.closedBy with
    | none => []
    | some i => i :: (endsIn later (lines.drop (i + 1))).map (i + 1 + ·)

variable {document : HereDocument} {later : List HereDocument} {lines : List Text}

theorem endsIn_of_none (h : lines.findIdx? document.closedBy = none) :
    endsIn (document :: later) lines = [] := by
  simp [endsIn, h]

theorem endsIn_of_some {i : Nat} (h : lines.findIdx? document.closedBy = some i) :
    endsIn (document :: later) lines =
      i :: (endsIn later (lines.drop (i + 1))).map (i + 1 + ·) := by
  simp [endsIn, h]

theorem length_endsIn_le (queue : List HereDocument) (lines : List Text) :
    (endsIn queue lines).length ≤ queue.length := by
  induction queue generalizing lines with
  | nil => exact Nat.le_refl 0
  | cons document later ih =>
    cases hi : lines.findIdx? document.closedBy with
    | none => simp [endsIn_of_none hi]
    | some i => simpa [endsIn_of_some hi] using ih (lines.drop (i + 1))

end HereDocument

namespace LexState

open HereDocument

/-- The lexer takes all these lines for here documents, keeps its context and is left with
the documents `rest`. -/
structure Embeds (state : LexState) (lines : List Text) (rest : List HereDocument) : Prop where
  rows : state.lexLines lines = lines.map (filledRow .hereDocument)
  after : state.after lines = { state with pending := rest }

variable {state : LexState} {document : HereDocument} {later : List HereDocument}
  {lines : List Text}

theorem lexLine_of_pending_cons (h : state.pending = document :: later) (line : Text) :
    state.lexLine line = (filledRow .hereDocument line,
      { state with pending := if document.closedBy line then later else document :: later }) := by
  simp only [lexLine, h, filledRow]
  split
  · rfl
  · rw [← h]

theorem take_lexLines (state : LexState) (lines : List Text) (n : Nat) :
    (state.lexLines lines).take n = state.lexLines (lines.take n) := by
  induction lines generalizing state n with
  | nil => simp [lexLines]
  | cons line rest ih => cases n <;> simp [lexLines, ih]

namespace Embeds

theorem nil (state : LexState) : state.Embeds [] state.pending := ⟨rfl, rfl⟩

theorem append {rest final : List HereDocument} {above below : List Text}
    (habove : state.Embeds above rest)
    (hbelow : { state with pending := rest }.Embeds below final) :
    state.Embeds (above ++ below) final where
  rows := by rw [lexLines_append, habove.rows, habove.after, hbelow.rows, List.map_append]
  after := by rw [after_append, habove.after, hbelow.after]

theorem closing {line : Text} (h : state.pending = document :: later)
    (hline : document.closedBy line = true) : state.Embeds [line] later := by
  constructor <;> simp [lexLines, lexLine_of_pending_cons h, hline]

theorem body (h : state.pending = document :: later)
    (hlines : ∀ line ∈ lines, document.closedBy line = false) :
    state.Embeds lines state.pending := by
  induction lines with
  | nil => exact nil state
  | cons line rest ih =>
    obtain ⟨hline, hrest⟩ := List.forall_mem_cons.mp hlines
    have hstep : state.Embeds [line] state.pending := by
      constructor <;> simp [lexLines, lexLine_of_pending_cons h, hline, ← h]
    exact hstep.append (ih hrest)

theorem take_of_findIdx? (h : state.pending = document :: later) {i : Nat}
    (hi : lines.findIdx? document.closedBy = some i) : state.Embeds (lines.take (i + 1)) later := by
  obtain ⟨hlt, hclosed, hopen⟩ := List.findIdx?_eq_some_iff_getElem.mp hi
  have hbody : ∀ line ∈ lines.take i, document.closedBy line = false := by
    intro line hmem
    obtain ⟨j, hj, rfl⟩ := List.mem_take_iff_getElem.mp hmem
    simpa using hopen j (by omega)
  rw [List.take_succ_eq_append_getElem hlt]
  exact (body h hbody).append (closing h hclosed)

theorem take_of_all_end {last : Nat}
    (hall : (endsIn state.pending lines).length = state.pending.length)
    (hlast : (endsIn state.pending lines).getLast? = some last) :
    state.Embeds (lines.take (last + 1)) [] := by
  induction hqueue : state.pending generalizing state lines last with
  | nil => simp [hqueue, endsIn] at hlast
  | cons document later ih =>
    rw [hqueue] at hall hlast
    cases hi : lines.findIdx? document.closedBy with
    | none => simp [endsIn_of_none hi] at hlast
    | some i =>
      have hfirst := take_of_findIdx? hqueue hi
      rw [endsIn_of_some hi] at hall hlast
      simp only [List.length_cons, List.length_map, Nat.add_right_cancel_iff] at hall
      rw [List.getLast?_cons, List.getLast?_map, Option.some_inj] at hlast
      subst hlast
      cases hlater : (endsIn later (lines.drop (i + 1))).getLast? with
      | none =>
        rw [List.getLast?_eq_none_iff.mp hlater, List.length_nil, eq_comm,
          List.length_eq_zero_iff] at hall
        exact hall ▸ hfirst
      | some last =>
        have hrest : { state with pending := later }.Embeds ((lines.drop (i + 1)).take (last + 1))
            [] := ih hall hlater rfl
        have hsplit : lines.take (i + 1 + last + 1) =
            lines.take (i + 1) ++ (lines.drop (i + 1)).take (last + 1) := by
          rw [Nat.add_assoc _ last, List.take_add]
        exact hsplit ▸ hfirst.append hrest

/-- If some document does not end, all lines belong to the queue, and what is left of it
begins with that document. -/
theorem of_some_open (hopen : (endsIn state.pending lines).length < state.pending.length) :
    state.Embeds lines (state.pending.drop (endsIn state.pending lines).length) := by
  induction hqueue : state.pending generalizing state lines with
  | nil => simp [hqueue] at hopen
  | cons document later ih =>
    rw [hqueue] at hopen
    cases hi : lines.findIdx? document.closedBy with
    | none =>
      have hlines := List.findIdx?_eq_none_iff.mp hi
      rw [endsIn_of_none hi, List.length_nil, List.drop_zero, ← hqueue]
      exact body hqueue hlines
    | some i =>
      rw [endsIn_of_some hi] at hopen ⊢
      simp only [List.length_cons, List.length_map, Nat.add_lt_add_iff_right] at hopen
      have hrest : { state with pending := later }.Embeds (lines.drop (i + 1)) _ := ih hopen rfl
      have happend := (take_of_findIdx? hqueue hi).append hrest
      rw [List.length_cons, List.length_map, List.drop_succ_cons]
      rwa [List.take_append_drop] at happend

end Embeds

end LexState

/-- Stacked here documents are consumed in order, and then the interrupted context goes
on. The documents of the queue end at the lines `endsIn` names. If all of them end, every
line up to the last end is here document throughout and the state behind it is the old
one with an empty queue. Otherwise every line is, and the documents not yet ended are
left in the queue. -/
theorem hereDocuments_end_in_order (state : LexState) (hpending : state.pending ≠ [])
    (lines : List Text) :
    let ends := HereDocument.endsIn state.pending lines
    (ends.length = state.pending.length → ∃ last, ends.getLast? = some last ∧
      (state.lexLines lines).take (last + 1) =
        (lines.take (last + 1)).map (filledRow .hereDocument) ∧
      state.after (lines.take (last + 1)) = { state with pending := [] }) ∧
    (ends.length ≠ state.pending.length →
      state.lexLines lines = lines.map (filledRow .hereDocument) ∧
      state.after lines = { state with pending := state.pending.drop ends.length }) := by
  intro ends
  constructor
  · intro hall
    have hne : ends ≠ [] := by
      intro hnil
      rw [hnil, List.length_nil, eq_comm, List.length_eq_zero_iff] at hall
      exact hpending hall
    have hlast := List.getLast?_eq_some_getLast hne
    obtain ⟨hrows, hafter⟩ := LexState.Embeds.take_of_all_end hall hlast
    exact ⟨_, hlast, by rw [LexState.take_lexLines, hrows], hafter⟩
  · intro hopen
    have hlt := Nat.lt_of_le_of_ne (HereDocument.length_endsIn_le _ _) hopen
    obtain ⟨hrows, hafter⟩ := LexState.Embeds.of_some_open hlt
    exact ⟨hrows, hafter⟩

/-- Two documents opened inside a string. The terminator of the second one comes too early
first, and neither `=begin` nor another opener counts. -/
theorem hereDocuments_end_in_order_string :
    let queue : List HereDocument :=
      [⟨Literal.asciiBytes "A", false⟩, ⟨Literal.asciiBytes "B", true⟩]
    let state : LexState := ⟨.quoted '"'.toUInt8 none 0, queue⟩
    let lines := ["B", "=begin", "A  ", "<<C\"", "\tB", "x\""].map String.toList
    state.pending ≠ [] ∧ HereDocument.endsIn queue lines = [2, 4] ∧
      state.after (lines.take 5) = ⟨.quoted '"'.toUInt8 none 0, []⟩ ∧
      state.after (lines.take 4) = ⟨.quoted '"'.toUInt8 none 0, queue.drop 1⟩ := by
  intro queue state lines
  have hends : HereDocument.endsIn queue lines = [2, 4] := by decide +kernel
  have hpending : state.pending ≠ [] := by decide
  refine ⟨hpending, hends, ?_, ?_⟩
  · obtain ⟨last, hlast, -, hafter⟩ := (hereDocuments_end_in_order state hpending lines).1
      (by decide +kernel)
    obtain rfl : 4 = last := by simpa [state, hends] using hlast
    exact hafter
  · exact ((hereDocuments_end_in_order state hpending (lines.take 4)).2 (by decide +kernel)).2

end Reindent
