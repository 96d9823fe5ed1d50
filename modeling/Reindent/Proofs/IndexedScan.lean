import Reindent.Proofs.CheckedLiterals

/-!
# Scanning by index

The lexer walks over a line with the bytes behind it and the bytes ahead of it in
its hands. Here is the same walk by index into the line and its row. A look at a
byte, a slice and a write have no result unless they are inside. A step in code
always has one: it goes ahead, and not behind the end of the line. So a walk ends
after as many steps as the line has bytes, and with what the lexer answers.
-/

namespace Reindent

-- ---------------------------------------------------------------------------
-- Filling a row
-- ---------------------------------------------------------------------------

namespace Row

def fill (row : Row) (start stop : Nat) (kind : Attribute) : Row :=
  row.take start ++ List.replicate (stop - start) kind ++ row.drop stop

def fill? (row : Row) (start stop : Nat) (kind : Attribute) : Option Row :=
  if start ≤ stop ∧ stop ≤ row.length then some (row.fill start stop kind) else none

variable {kind : Attribute}

theorem fill_append (front piece back : Row) (kind : Attribute) :
    (front ++ (piece ++ back)).fill front.length (front.length + piece.length) kind =
      front ++ (List.replicate piece.length kind ++ back) := by
  simp [fill, List.drop_append]

theorem length_fill {row : Row} {start stop : Nat} (hstart : start ≤ stop)
    (hstop : stop ≤ row.length) : (row.fill start stop kind).length = row.length := by
  simp only [fill, List.length_append, List.length_take, List.length_replicate, List.length_drop]
  omega

theorem set_fill {row : Row} {start : Nat} (h : start < row.length) :
    (row.fill start (start + 1) kind).set (start + 1) kind =
      row.fill start (min (start + 2) row.length) kind := by
  obtain ⟨front, x, back, rfl, rfl⟩ : ∃ (front : Row) (x : Attribute) (back : Row),
      row = front ++ x :: back ∧ front.length = start := by
    refine ⟨row.take start, row[start], row.drop (start + 1), by simp, ?_⟩
    rw [List.length_take, Nat.min_eq_left (Nat.le_of_lt h)]
  have hone : (front ++ x :: back).fill front.length (front.length + 1) kind =
      front ++ kind :: back := fill_append front [x] back kind
  rw [hone]
  cases back with
  | nil =>
    have hend : min (front.length + 2) (front ++ [x]).length = front.length + 1 := by simp
    rw [hend, hone]
    simp
  | cons y back =>
    have hend : min (front.length + 2) (front ++ x :: y :: back).length = front.length + 2 := by
      simp
    have htwo : (front ++ x :: y :: back).fill front.length (front.length + 2) kind =
        front ++ kind :: kind :: back := fill_append front [x, y] back kind
    rw [hend, htwo]
    simp

end Row

-- ---------------------------------------------------------------------------
-- The walk
-- ---------------------------------------------------------------------------

/-- Where a walk over a line has come to: the index of the next byte, the row as far as it is
filled in, and the state. -/
structure Scanner where
  index : Nat
  row : Row
  state : LexState

namespace Scanner

def fillTo? (s : Scanner) (stop : Nat) (kind : Attribute) (state : LexState) : Option Scanner :=
  (s.row.fill? s.index stop kind).map fun row => ⟨stop, row, state⟩

def skipTo (s : Scanner) (stop : Nat) (state : LexState) : Scanner := ⟨stop, s.row, state⟩

def codeStep? (bytes : List UInt8) (s : Scanner) : Option Scanner := do
  let i := s.index
  let b ← bytes[i]?
  if b == '#'.toUInt8 then s.fillTo? bytes.length .comment s.state
  else if Literal.isOneOf "\"'`" b then
    s.fillTo? (i + 1) .string (s.state.enter (.quoted b none 0))
  else if b == '%'.toUInt8 then
    match ← Literal.percent? bytes i with
    | none => return s.skipTo (i + 1) s.state
    | some (delimiter, stop) =>
      let close := Literal.closingDelimiter delimiter
      let opening := if close == delimiter then none else some delimiter
      s.fillTo? stop .string (s.state.enter (.quoted close opening 0))
  else if b == '/'.toUInt8 then
    if ← Literal.operandBefore? bytes i then return s.skipTo (i + 1) s.state
    else s.fillTo? (i + 1) .string (s.state.enter (.quoted b none 0))
  else if b == '?'.toUInt8 then
    match ← Literal.character? bytes i with
    | none => return s.skipTo (i + 1) s.state
    | some stop => s.fillTo? stop .string s.state
  else if b == '<'.toUInt8 && bytes[i + 1]? == some '<'.toUInt8 then
    match ← Literal.hereDocument? bytes (i + 2) with
    | none => return s.skipTo (i + 2) s.state
    | some (document, stop) =>
      return s.skipTo stop { s.state with pending := s.state.pending ++ [document] }
  else return s.skipTo (i + 1) s.state

def quotedStep? (bytes : List UInt8) (close : UInt8) (opening : Option UInt8) (depth : Nat)
    (s : Scanner) : Option Scanner := do
  let b ← bytes[s.index]?
  let next ← s.fillTo? (s.index + 1) .string (s.state.quotedLexeme close opening depth b).state
  if b == '\\'.toUInt8 then
    return ⟨next.index + 1, next.row.set next.index .string, next.state⟩
  else return next

def step? (bytes : List UInt8) (s : Scanner) : Option Scanner :=
  match s.state.context with
  | .code => s.codeStep? bytes
  | .quoted close opening depth => s.quotedStep? bytes close opening depth
  | .blockComment => s.fillTo? (s.index + 1) .blockComment s.state

/-- Walks up to the end of the line if that takes no more steps than given. -/
def run? (bytes : List UInt8) : Nat → Scanner → Option Scanner
  | 0, s => if bytes.length ≤ s.index then some s else none
  | steps + 1, s =>
    if bytes.length ≤ s.index then some s else (s.step? bytes).bind (run? bytes steps)

end Scanner

-- ---------------------------------------------------------------------------
-- One step
-- ---------------------------------------------------------------------------

/-- A lexeme of code that begins in the given state and has the bytes `after` ahead of it. It
ends on the line, and only the opener of a here document adds to what is waited for. -/
structure Lexeme.Fits (next : Lexeme) (state : LexState) (after : List UInt8) : Prop where
  extra_le : next.extra ≤ after.length
  pending : next.state.pending = state.pending ∨
    ∃ document extra, Literal.hereDocument after.tail = some (document, extra) ∧
      next.state.pending = state.pending ++ [document]

namespace LexState

theorem quotedLexeme_eq (state : LexState) (close : UInt8) (opening : Option UInt8)
    (depth : Nat) (b : UInt8) : state.quotedLexeme close opening depth b =
      ⟨.string, if b == '\\'.toUInt8 then 1 else 0,
        (state.quotedLexeme close opening depth b).state⟩ := by
  unfold quotedLexeme
  split_ifs <;> cases depth <;> rfl

theorem pending_quotedLexeme {state : LexState} {close : UInt8} {opening : Option UInt8}
    {depth : Nat} {b : UInt8} :
    (state.quotedLexeme close opening depth b).state.pending = state.pending := by
  unfold quotedLexeme
  split_ifs <;> cases depth <;> rfl

theorem fits_codeLexeme (state : LexState) (before : List UInt8) (b : UInt8)
    (after : List UInt8) : (state.codeLexeme before b after).Fits state after := by
  unfold codeLexeme
  dsimp only
  split_ifs with hcomment hquote hpercent hslash hoperand hquestion hopener
  · exact ⟨Nat.le_refl _, .inl rfl⟩
  · exact ⟨Nat.zero_le _, .inl rfl⟩
  · cases hfound : Literal.percent before after with
    | none => exact ⟨Nat.zero_le _, .inl rfl⟩
    | some found => exact ⟨Literal.extra_le_of_percent hfound, .inl rfl⟩
  · exact ⟨Nat.zero_le _, .inl rfl⟩
  · exact ⟨Nat.zero_le _, .inl rfl⟩
  · cases hfound : Literal.character before after with
    | none => exact ⟨Nat.zero_le _, .inl rfl⟩
    | some extra => exact ⟨Literal.extra_le_of_character hfound, .inl rfl⟩
  · cases after with
    | nil => simp at hopener
    | cons c later =>
      rw [List.tail_cons]
      cases hfound : Literal.hereDocument later with
      | none => exact ⟨Nat.succ_pos _, .inl rfl⟩
      | some found =>
        have hle := Literal.extra_le_of_hereDocument hfound
        exact ⟨Nat.succ_le_succ hle, .inr ⟨found.1, found.2, hfound, rfl⟩⟩
  · exact ⟨Nat.zero_le _, .inl rfl⟩

end LexState

namespace Scanner

def past (s : Scanner) (next : Lexeme) : Scanner where
  index := s.index + 1 + next.extra
  row := if next.kind = .normal then s.row
    else s.row.fill s.index (min (s.index + 1 + next.extra) s.row.length) next.kind
  state := next.state

section
variable {bytes before after : List UInt8} {b : UInt8} {s : Scanner}

theorem fillTo?_eq {kind : Attribute} {state : LexState} {extra stop : Nat}
    (hstop : stop = s.index + 1 + extra) (hle : s.index + 1 + extra ≤ s.row.length)
    (hkind : kind ≠ .normal) :
    s.fillTo? stop kind state = some (s.past ⟨kind, extra, state⟩) := by
  subst hstop
  have hstart : s.index ≤ s.index + 1 + extra := by omega
  rw [fillTo?, Row.fill?, if_pos ⟨hstart, hle⟩, past, if_neg hkind, Nat.min_eq_left hle]
  rfl

theorem codeStep?_eq (hbytes : bytes = before.reverse ++ b :: after)
    (hindex : s.index = before.length) (hrow : s.row.length = bytes.length) :
    s.codeStep? bytes = some (s.past (s.state.codeLexeme before b after)) := by
  have hb : bytes[s.index]? = some b := by simp [hbytes, hindex]
  have hnext : bytes[s.index + 1]? = after.head? := by
    rw [hbytes, hindex, Literal.head?_ahead]
  have hlength : bytes.length = s.index + 1 + after.length := by
    simp only [hbytes, hindex, List.length_append, List.length_reverse, List.length_cons]
    omega
  have hoperand : Literal.operandBefore? bytes s.index = some (Literal.operandBefore before) := by
    rw [hbytes, hindex, Literal.operandBefore?_eq]
  have hliteral : Literal.percent? bytes s.index = some ((Literal.percent before after).map
      fun found => (found.1, s.index + 1 + found.2)) := by
    rw [hbytes, hindex, Literal.percent?_eq]
  have hcharacter : Literal.character? bytes s.index =
      some ((Literal.character before after).map fun extra => s.index + 1 + extra) := by
    rw [hbytes, hindex, Literal.character?_eq]
  rw [codeStep?, LexState.codeLexeme]
  simp only [hb, Option.bind_eq_bind, Option.bind_some]
  -- Both sides ask about the byte in the same order. What is left to show in each case is that
  -- the part of the row to be filled in exists.
  by_cases hcomment : b == '#'.toUInt8
  · rw [if_pos hcomment, if_pos hcomment]
    exact fillTo?_eq hlength (by omega) (by decide)
  rw [if_neg hcomment, if_neg hcomment]
  by_cases hquote : Literal.isOneOf "\"'`" b
  · rw [if_pos hquote, if_pos hquote]
    exact fillTo?_eq rfl (by omega) (by decide)
  rw [if_neg hquote, if_neg hquote]
  by_cases hpercent : b == '%'.toUInt8
  · rw [if_pos hpercent, if_pos hpercent, hliteral, Option.bind_some]
    cases hfound : Literal.percent before after with
    | none => rfl
    | some found =>
      have hle := Literal.extra_le_of_percent hfound
      exact fillTo?_eq rfl (by omega) (by decide)
  rw [if_neg hpercent, if_neg hpercent]
  by_cases hslash : b == '/'.toUInt8
  · rw [if_pos hslash, if_pos hslash, hoperand, Option.bind_some]
    cases Literal.operandBefore before with
    | true => rfl
    | false => exact fillTo?_eq rfl (by omega) (by decide)
  rw [if_neg hslash, if_neg hslash]
  by_cases hquestion : b == '?'.toUInt8
  · rw [if_pos hquestion, if_pos hquestion, hcharacter, Option.bind_some]
    cases hfound : Literal.character before after with
    | none => rfl
    | some extra =>
      have hle := Literal.extra_le_of_character hfound
      exact fillTo?_eq rfl (by omega) (by decide)
  rw [if_neg hquestion, if_neg hquestion, hnext]
  by_cases hopener : b == '<'.toUInt8 && after.head? == some '<'.toUInt8
  · rw [if_pos hopener, if_pos hopener]
    cases after with
    | nil => simp at hopener
    | cons c later =>
      have hdocument : Literal.hereDocument? bytes (s.index + 2) = some
          ((Literal.hereDocument later).map fun found => (found.1, s.index + 2 + found.2)) := by
        have hfound := Literal.hereDocument?_eq (before.reverse ++ [b, c]) later
        simpa [hbytes, hindex] using hfound
      rw [hdocument, List.tail_cons]
      cases Literal.hereDocument later with
      | none => rfl
      | some found =>
        have hstop : s.index + 2 + found.2 = s.index + 1 + (found.2 + 1) := by omega
        rw [Option.map_some, hstop]
        rfl
  · rw [if_neg hopener, if_neg hopener]
    rfl

theorem quotedStep?_eq (hb : bytes[s.index]? = some b) (hlt : s.index < s.row.length)
    (close : UInt8) (opening : Option UInt8) (depth : Nat) :
    s.quotedStep? bytes close opening depth =
      some (s.past (s.state.quotedLexeme close opening depth b)) := by
  have hfill (state : LexState) :
      s.fillTo? (s.index + 1) .string state = some (s.past ⟨.string, 0, state⟩) :=
    fillTo?_eq rfl hlt (by decide)
  rw [quotedStep?, hb, LexState.quotedLexeme_eq]
  simp only [Option.bind_eq_bind, Option.bind_some, hfill]
  cases b == '\\'.toUInt8 with
  | false => rfl
  | true =>
    have hend : min (s.index + 1) s.row.length = s.index + 1 := Nat.min_eq_left hlt
    simp [past, hend, Row.set_fill hlt]

theorem step?_eq (hbytes : bytes = before.reverse ++ b :: after)
    (hindex : s.index = before.length) (hrow : s.row.length = bytes.length) :
    s.step? bytes = some (s.past (s.state.lexeme before b after)) := by
  have hb : bytes[s.index]? = some b := by simp [hbytes, hindex]
  have hlt : s.index < s.row.length := by simp [hrow, hbytes, hindex]
  unfold step? LexState.lexeme
  cases s.state.context with
  | code => exact codeStep?_eq hbytes hindex hrow
  | quoted close opening depth => exact quotedStep?_eq hb hlt close opening depth
  | blockComment => exact fillTo?_eq rfl hlt (by decide)

theorem codeStep?_bounds (hcode : s.state.context = .code) (hindex : s.index < bytes.length)
    (hrow : s.row.length = bytes.length) :
    ∃ next before b after, bytes = before.reverse ++ b :: after ∧ s.codeStep? bytes = some next ∧
      s.index + 1 ≤ next.index ∧ next.index ≤ bytes.length ∧ next.row.length = bytes.length ∧
      next.state = (s.state.lexeme before b after).state := by
  obtain ⟨before, b, after, hbytes, hlength⟩ : ∃ (before : List UInt8) (b : UInt8)
      (after : List UInt8), bytes = before.reverse ++ b :: after ∧ s.index = before.length := by
    refine ⟨(bytes.take s.index).reverse, bytes[s.index], bytes.drop (s.index + 1), by simp, ?_⟩
    rw [List.length_reverse, List.length_take, Nat.min_eq_left (Nat.le_of_lt hindex)]
  have hend : s.index + 1 + (s.state.codeLexeme before b after).extra ≤ bytes.length := by
    have hextra := (s.state.fits_codeLexeme before b after).extra_le
    simp only [hbytes, hlength, List.length_append, List.length_reverse, List.length_cons]
    omega
  refine ⟨_, before, b, after, hbytes, codeStep?_eq hbytes hlength hrow, ?_, hend, ?_, ?_⟩
  · exact Nat.le_add_right _ _
  · simp only [past]
    split
    · exact hrow
    · rw [Row.length_fill (by omega) (Nat.min_le_right _ _), hrow]
  · simp only [past, LexState.lexeme, hcode]

end

-- ---------------------------------------------------------------------------
-- The whole line
-- ---------------------------------------------------------------------------

/-- The scanner has passed the bytes `before`, nearest first, has filled in `done` for them and
has the bytes `rest` ahead. At the end it may stand behind the last byte. -/
structure At (s : Scanner) (bytes : List UInt8) (done : Row) (before rest : List UInt8) :
    Prop where
  bytes_eq : bytes = before.reverse ++ rest
  row_eq : s.row = done ++ List.replicate rest.length .normal
  length_done : done.length = before.length
  index_eq : rest ≠ [] → s.index = before.length
  le_index : before.length ≤ s.index

namespace At

variable {bytes before after rest : List UInt8} {b : UInt8} {s : Scanner} {done : Row}

theorem length_row (h : s.At bytes done before rest) : s.row.length = bytes.length := by
  rw [h.row_eq, h.bytes_eq, List.length_append, List.length_append, List.length_replicate,
    List.length_reverse, h.length_done]

theorem step (h : s.At bytes done before (b :: after)) :
    let next := s.state.lexeme before b after
    ∃ s', s.step? bytes = some s' ∧ s'.state = next.state ∧
      s'.At bytes (done ++ List.replicate (min next.extra after.length + 1) next.kind)
        ((after.take next.extra).reverse ++ b :: before) (after.drop next.extra) := by
  intro next
  have hindex : s.index = before.length := h.index_eq (List.cons_ne_nil b after)
  have hdone := h.length_done
  have hbefore : ((after.take next.extra).reverse ++ b :: before).length =
      before.length + (min next.extra after.length + 1) := by
    rw [List.length_append, List.length_reverse, List.length_take, List.length_cons]
    omega
  refine ⟨s.past next, step?_eq h.bytes_eq hindex h.length_row, rfl, ?_⟩
  constructor
  case bytes_eq => simp [h.bytes_eq]
  case row_eq =>
    have hrow : s.row = done ++ (List.replicate (min next.extra after.length + 1) .normal ++
        List.replicate (after.drop next.extra).length .normal) := by
      rw [h.row_eq, List.replicate_append_replicate, List.length_drop, List.length_cons]
      congr 2
      omega
    have hstop : min (s.index + 1 + next.extra) s.row.length =
        done.length + (min next.extra after.length + 1) := by
      have hlength : s.row.length = done.length + (after.length + 1) := by simp [h.row_eq]
      omega
    have hfill := Row.fill_append done (List.replicate (min next.extra after.length + 1) .normal)
      (List.replicate (after.drop next.extra).length .normal) next.kind
    rw [← hrow, List.length_replicate] at hfill
    rw [List.append_assoc, past, hstop, hindex, ← hdone]
    by_cases hkind : next.kind = .normal
    · rw [if_pos hkind, hkind, hrow]
    · rw [if_neg hkind, hfill]
  case length_done => rw [hbefore, List.length_append, List.length_replicate, hdone]
  case index_eq =>
    intro hrest
    have hlt : next.extra < after.length := by simpa using hrest
    simp only [hbefore, past, hindex]
    omega
  case le_index =>
    simp only [hbefore, past, hindex]
    omega

theorem run_nil (h : s.At bytes done before []) (steps : Nat) :
    bytes.length ≤ s.index ∧ s.run? bytes steps = some ⟨s.index, done, s.state⟩ := by
  have hle : bytes.length ≤ s.index := by simpa [h.bytes_eq] using h.le_index
  have hrow : s.row = done := by simpa using h.row_eq
  refine ⟨hle, ?_⟩
  cases steps <;> rw [run?, if_pos hle, ← hrow]

end At

end Scanner

theorem LexState.scan_drop (state : LexState) (n : Nat) (kind : Attribute)
    (before bytes : List UInt8) : state.scan n kind before bytes =
      (List.replicate (min n bytes.length) kind ++
        (state.scan 0 kind ((bytes.take n).reverse ++ before) (bytes.drop n)).1,
      (state.scan 0 kind ((bytes.take n).reverse ++ before) (bytes.drop n)).2) := by
  induction n generalizing before bytes with
  | zero => simp
  | succ n ih =>
    cases bytes with
    | nil => simp [scan]
    | cons b after =>
      rw [scan, ih]
      simp [List.replicate_succ, Nat.succ_min_succ]

/-- As many steps as there are bytes ahead lead to the end of the line, with what the lexer
finds there. -/
theorem Scanner.At.run {bytes before rest : List UInt8} {s : Scanner} {done : Row}
    (h : s.At bytes done before rest) {steps : Nat} (hsteps : rest.length ≤ steps)
    (current : Attribute) :
    ∃ stop, bytes.length ≤ stop ∧ s.run? bytes steps =
      some ⟨stop, done ++ (s.state.scan 0 current before rest).1,
        (s.state.scan 0 current before rest).2⟩ := by
  have hend {s : Scanner} {done : Row} {before : List UInt8} {current : Attribute}
      (h : s.At bytes done before []) (steps : Nat) :
      ∃ stop, bytes.length ≤ stop ∧ s.run? bytes steps =
        some ⟨stop, done ++ (s.state.scan 0 current before []).1,
          (s.state.scan 0 current before []).2⟩ := by
    obtain ⟨hle, hrun⟩ := h.run_nil steps
    exact ⟨s.index, hle, by simpa [LexState.scan] using hrun⟩
  -- Every step passes a byte at least, so there are never more bytes ahead than steps left.
  induction steps generalizing s done before rest current with
  | zero =>
    obtain rfl := List.length_eq_zero_iff.mp (Nat.le_zero.mp hsteps)
    exact hend h 0
  | succ steps ih =>
    cases rest with
    | nil => exact hend h (steps + 1)
    | cons b after =>
      have hahead : ¬ bytes.length ≤ s.index := by
        rw [h.index_eq (List.cons_ne_nil b after), h.bytes_eq]
        simp
      obtain ⟨s', hstep, hstate, hat⟩ := h.step
      have hfewer : (after.drop (s.state.lexeme before b after).extra).length ≤ steps := by
        rw [List.length_drop]
        exact (Nat.sub_le _ _).trans (Nat.le_of_succ_le_succ hsteps)
      obtain ⟨stop, hle, hrun⟩ := ih hat hfewer (s.state.lexeme before b after).kind
      refine ⟨stop, hle, ?_⟩
      rw [run?, if_neg hahead, hstep, Option.bind_some, hrun, hstate, LexState.scan]
      simp [List.replicate_succ, LexState.scan_drop _ (s.state.lexeme before b after).extra]

-- ---------------------------------------------------------------------------
-- Terminators are pieces of the line
-- ---------------------------------------------------------------------------

namespace HereDocument

/-- The terminator is made of characters that follow each other in the line, and its bytes
are read back as these characters. -/
def CutFrom (document : HereDocument) (line : Text) : Prop :=
  ∃ front piece back, line = front ++ piece ++ back ∧ piece ≠ [] ∧
    document.terminator = Text.bytes piece ∧
    document.terminator.toByteArray.utf8Decode? = some piece.toArray

theorem cutFrom_of_hereDocument {document : HereDocument} {line : Text} {front after : List UInt8}
    {extra : Nat} (hline : Text.bytes line = front ++ after)
    (h : Literal.hereDocument after = some (document, extra)) : document.CutFrom line := by
  obtain ⟨s, piece, t, hpieces, hne, hbytes⟩ := Literal.exists_piece_of_hereDocument hline h
  refine ⟨s, piece, t, hpieces, hne, hbytes.symm, ?_⟩
  rw [← hbytes]
  exact List.utf8Decode?_utf8Encode

end HereDocument

namespace LexState

variable {state : LexState} {before after bytes : List UInt8} {b : UInt8} {line : Text}
  {document : HereDocument}

theorem mem_pending_lexeme (hline : Text.bytes line = before.reverse ++ b :: after)
    (h : document ∈ (state.lexeme before b after).state.pending) :
    document ∈ state.pending ∨ document.CutFrom line := by
  rw [lexeme] at h
  split at h
  case h_1 =>
    rcases (fits_codeLexeme state before b after).pending with
      hkept | ⟨opened, extra, hopened, hadded⟩
    · exact .inl (hkept ▸ h)
    · rw [hadded] at h
      rcases List.mem_append.mp h with h | h
      · exact .inl h
      · obtain rfl := List.mem_singleton.mp h
        have hcut : Text.bytes line = (before.reverse ++ b :: after.take 1) ++ after.tail := by
          rw [hline, List.append_assoc, List.cons_append, ← List.drop_one, List.take_append_drop]
        exact .inr (HereDocument.cutFrom_of_hereDocument hcut hopened)
  case h_2 => exact .inl (pending_quotedLexeme ▸ h)
  case h_3 => exact .inl h

theorem mem_pending_scan {covered : Nat} {current : Attribute}
    (hline : Text.bytes line = before.reverse ++ bytes)
    (h : document ∈ (state.scan covered current before bytes).2.pending) :
    document ∈ state.pending ∨ document.CutFrom line := by
  induction bytes generalizing state covered current before with
  | nil => exact .inl h
  | cons b after ih =>
    have hrest : Text.bytes line = (b :: before).reverse ++ after := by simp [hline]
    cases covered with
    | succ covered => exact ih hrest h
    | zero => exact (ih hrest h).elim (mem_pending_lexeme hline) .inr

theorem mem_pending_lexLine (h : document ∈ (state.lexLine line).2.pending) :
    document ∈ state.pending ∨ document.CutFrom line := by
  rw [lexLine] at h
  split at h
  case h_1 first later hpending =>
    refine .inl ?_
    dsimp only at h
    split at h
    · rw [hpending]
      exact List.mem_cons_of_mem first h
    · exact h
  case h_2 =>
    split at h
    case h_1 =>
      dsimp only at h
      split at h <;> exact .inl h
    case h_2 =>
      split at h
      · exact .inl h
      · exact mem_pending_scan rfl h
    case h_3 => exact mem_pending_scan rfl h

end LexState

/-- The lexer gives one attribute to each byte of a line. Walked by index, with all slices and
writes checked, a step in code has a result wherever it begins, and it goes ahead and not behind
the end of the line. The walk over the line ends with the answer of the lexer, and every
terminator that is new in what is waited for is a piece of the line. -/
theorem lexer_stays_in_bounds (state : LexState) (line : Text) :
    let bytes := Text.bytes line
    (state.lexLine line).1.length = bytes.length ∧
    (∀ s : Scanner, s.state.context = .code → s.index < bytes.length →
      s.row.length = bytes.length →
        ∃ next, s.codeStep? bytes = some next ∧ s.index + 1 ≤ next.index ∧
          next.index ≤ bytes.length ∧ next.row.length = bytes.length ∧
          ∀ document ∈ next.state.pending,
            document ∈ s.state.pending ∨ document.CutFrom line) ∧
    (state.Scans line →
      ∃ stop, bytes.length ≤ stop ∧
        Scanner.run? bytes bytes.length ⟨0, List.replicate bytes.length .normal, state⟩ =
          some ⟨stop, (state.lexLine line).1, (state.lexLine line).2⟩) ∧
    ∀ document ∈ (state.lexLine line).2.pending,
      document ∈ state.pending ∨ document.CutFrom line := by
  intro bytes
  refine ⟨?_, fun s hcode hindex hrow => ?_, fun hscans => ?_, fun document hdocument => ?_⟩
  · rw [LexState.length_lexLine, Text.length_bytes]
  · obtain ⟨next, before, b, after, hbytes, hstep, hlt, hle, hlength, hstate⟩ :=
      Scanner.codeStep?_bounds hcode hindex hrow
    refine ⟨next, hstep, hlt, hle, hlength, fun document hdocument => ?_⟩
    rw [hstate] at hdocument
    exact LexState.mem_pending_lexeme hbytes hdocument
  · have hat : Scanner.At ⟨0, List.replicate bytes.length .normal, state⟩ bytes [] [] bytes :=
      ⟨rfl, rfl, rfl, fun _ => rfl, Nat.le_refl 0⟩
    rw [LexState.lexLine_of_scans hscans]
    exact hat.run (Nat.le_refl _) .normal
  · exact LexState.mem_pending_lexLine hdocument

/-- A character literal that takes half of a character, a here document behind it, and a
percent literal that the line cuts off. -/
theorem lexer_stays_in_bounds_cut_off :
    let line := "?\u00e9 <<A %q".toList
    let bytes := Text.bytes line
    let inside : Scanner := ⟨2, List.replicate 10 .normal, .start⟩
    let document : HereDocument := ⟨Text.bytes ['A'], false⟩
    LexState.start.Scans line ∧
      (Scanner.run? bytes bytes.length ⟨0, List.replicate bytes.length .normal, .start⟩).isSome ∧
      (∃ next, inside.codeStep? bytes = some next ∧ 2 + 1 ≤ next.index ∧ next.index ≤ 10) ∧
      (LexState.start.lexLine line).2.pending = [document] ∧ document.CutFrom line := by
  intro line bytes inside document
  obtain ⟨-, hcode, hrun, hpending⟩ := lexer_stays_in_bounds .start line
  have hlength : bytes.length = 10 := by decide +kernel
  have hscans : LexState.start.Scans line := ⟨rfl, by decide, by decide +kernel⟩
  have hqueue : (LexState.start.lexLine line).2.pending = [document] := by decide +kernel
  refine ⟨hscans, ?_, ?_, hqueue, ?_⟩
  · obtain ⟨stop, -, hsome⟩ := hrun hscans
    rw [hsome]
    rfl
  · obtain ⟨next, hstep, hlt, hle, -⟩ := hcode inside rfl (by decide +kernel) hlength.symm
    exact ⟨next, hstep, hlt, hlength ▸ hle⟩
  · have hmem : document ∈ (LexState.start.lexLine line).2.pending := by simp [hqueue]
    exact (hpending document hmem).resolve_left (by decide)

end Reindent
