import Mathlib.Order.Bounds.Basic
import Reindent.Proofs.Stability

/-!
# Where a quoted literal ends

Inside a literal the lexer goes from byte to byte with a count of the nested
delimiters that are open; a backslash takes the next byte of its line along.
Told without such a count, the literal ends at the first closing delimiter
before which the line has as many more closing than opening delimiters as were
open at its start. What a backslash hides does not count. If there is no such
delimiter, the literal goes on in the next line with the delimiters that are
still open, and with no memory of a backslash at the end of the line.
-/

namespace Reindent

-- ---------------------------------------------------------------------------
-- What a literal shows
-- ---------------------------------------------------------------------------

namespace Literal

/-- What a byte of a literal shows, and whether the byte behind it is escaped. A backslash
shows nothing, and neither does the byte that it escapes. -/
def expose (escaped : Bool) (b : UInt8) : Option UInt8 × Bool :=
  if escaped then (none, false)
  else if b = '\\'.toUInt8 then (none, true)
  else (some b, false)

def exposed (escaped : Bool) : List UInt8 → List (Option UInt8)
  | [] => []
  | b :: rest => (expose escaped b).1 :: exposed (expose escaped b).2 rest

/-- What a line shows in a literal. Nothing escapes the first byte of a line. -/
def shownIn (line : Text) : List (Option UInt8) := exposed false (Text.bytes line)

def closers (close : UInt8) (shown : List (Option UInt8)) : Nat := shown.count (some close)

def openers (opening : Option UInt8) (shown : List (Option UInt8)) : Nat :=
  match opening with
  | none => 0
  | some b => shown.count (some b)

/-- A closing delimiter is shown at `k`, and before it there are as many more closing than
opening delimiters as the literal is deep. -/
def Balances (close : UInt8) (opening : Option UInt8) (depth : Nat) (shown : List (Option UInt8))
    (k : Nat) : Prop :=
  shown[k]? = some (some close) ∧
    closers close (shown.take k) = openers opening (shown.take k) + depth

instance (close : UInt8) (opening : Option UInt8) (depth : Nat) (shown : List (Option UInt8))
    (k : Nat) : Decidable (Balances close opening depth shown k) :=
  inferInstanceAs (Decidable (_ ∧ _))

def turn (close : UInt8) (opening : Option UInt8) (depth : Nat) : Option UInt8 → Option Nat
  | none => some depth
  | some b =>
    if opening = some b then some (depth + 1)
    else if b = close then
      match depth with
      | 0 => none
      | depth + 1 => some depth
    else some depth

variable {close : UInt8} {opening : Option UInt8} {depth next k : Nat} {mark : Option UInt8}
  {shown more : List (Option UInt8)}

theorem expose_eq_false_of_shown {escaped : Bool} {b : UInt8}
    (h : (expose escaped b).1.isSome = true) : (expose escaped b).2 = false := by
  cases escaped with
  | true => rfl
  | false =>
    by_cases hescape : b = '\\'.toUInt8
    · simp [expose, hescape] at h
    · simp [expose, hescape]

theorem closers_append : closers close (shown ++ more) = closers close shown + closers close more :=
  List.count_append

theorem openers_append :
    openers opening (shown ++ more) = openers opening shown + openers opening more := by
  cases opening with
  | none => rfl
  | some b => exact List.count_append

theorem closers_singleton (mark : Option UInt8) :
    closers close [mark] = if mark = some close then 1 else 0 := by
  simp [closers, List.count_singleton]

theorem openers_singleton (mark : Option UInt8) :
    openers opening [mark] = if mark.isSome ∧ mark = opening then 1 else 0 := by
  cases opening <;> cases mark <;> simp [openers, List.count_singleton]

theorem turn_eq_none_iff (hne : opening ≠ some close) :
    turn close opening depth mark = none ↔ mark = some close ∧ depth = 0 := by
  cases mark with
  | none => simp [turn]
  | some b =>
    by_cases hcloses : b = close
    · subst hcloses
      cases depth <;> simp [turn, hne]
    · simp only [turn, if_neg hcloses]
      split <;> simp [hcloses]

/-- Each step keeps the balance of the depth with the delimiters passed. -/
theorem add_closers_of_turn (hne : opening ≠ some close)
    (h : turn close opening depth mark = some next) :
    next + closers close [mark] = depth + openers opening [mark] := by
  rw [closers_singleton, openers_singleton]
  cases mark with
  | none =>
    obtain rfl : depth = next := by simpa [turn] using h
    simp
  | some b =>
    by_cases hopens : opening = some b
    · subst hopens
      obtain rfl : depth + 1 = next := by simpa [turn] using h
      have hb : b ≠ close := fun hb => hne (congrArg some hb)
      simp [hb]
    · by_cases hcloses : b = close
      · subst hcloses
        cases depth with
        | zero => simp [turn, hne] at h
        | succ depth =>
          obtain rfl : depth = next := by simpa [turn, hne] using h
          simp [Ne.symm hne]
      · obtain rfl : depth = next := by simpa [turn, hopens, hcloses] using h
        simp [Ne.symm hopens, hcloses]

theorem not_balances_nil : ¬ Balances close opening depth [] k := by
  simp [Balances]

theorem balances_zero_iff (hne : opening ≠ some close) :
    Balances close opening depth (mark :: shown) 0 ↔ turn close opening depth mark = none := by
  rw [turn_eq_none_iff hne]
  cases opening <;> simp [Balances, closers, openers, eq_comm]

theorem balances_succ_iff (hne : opening ≠ some close)
    (h : turn close opening depth mark = some next) :
    Balances close opening depth (mark :: shown) (k + 1) ↔ Balances close opening next shown k := by
  have hturn := add_closers_of_turn hne h
  have hsplit : mark :: shown.take k = [mark] ++ shown.take k := rfl
  rw [Balances, Balances, List.getElem?_cons_succ, List.take_succ_cons, hsplit, closers_append,
    openers_append]
  exact and_congr_right fun _ => by omega

theorem balances_append (hnext : next + closers close shown = depth + openers opening shown) :
    Balances close opening depth (shown ++ more) (shown.length + k) ↔
      Balances close opening next more k := by
  rw [Balances, Balances, List.getElem?_append_right (Nat.le_add_right _ _),
    Nat.add_sub_cancel_left, List.take_length_add_append, closers_append, openers_append]
  exact and_congr_right fun _ => by omega

theorem balances_append_of_lt (hlt : k < shown.length) :
    Balances close opening depth (shown ++ more) k ↔ Balances close opening depth shown k := by
  rw [Balances, Balances, List.getElem?_append_left hlt, List.take_append_of_le_length hlt.le]

end Literal

-- ---------------------------------------------------------------------------
-- Scanning a literal
-- ---------------------------------------------------------------------------

namespace LexState

open Literal

variable {state : LexState} {close : UInt8} {opening : Option UInt8} {depth : Nat}
  {escaped : Bool} {bytes : List UInt8}

def behind (close : UInt8) (opening : Option UInt8) (depth : Nat) (mark : Option UInt8) :
    LexContext :=
  match turn close opening depth mark with
  | none => .code
  | some next => .quoted close opening next

@[simp] theorem context_enter (state : LexState) (context : LexContext) :
    (state.enter context).context = context := rfl

@[simp] theorem pending_enter (state : LexState) (context : LexContext) :
    (state.enter context).pending = state.pending := rfl

@[simp] theorem enter_enter (state : LexState) (a b : LexContext) :
    (state.enter a).enter b = state.enter b := rfl

theorem enter_of_context {context : LexContext} (h : state.context = context) :
    state.enter context = state := by
  rw [← h]
  rfl

theorem quotedLexeme_of_ne (hcontext : state.context = .quoted close opening depth) {b : UInt8}
    (hb : b ≠ '\\'.toUInt8) :
    state.quotedLexeme close opening depth b =
      ⟨.string, 0, state.enter (behind close opening depth (some b))⟩ := by
  have hstay := enter_of_context hcontext
  have hescape : (b == '\\'.toUInt8) = false := by simpa using hb
  by_cases hopens : opening = some b
  · simp [quotedLexeme, behind, turn, hescape, hopens]
  · by_cases hcloses : b = close
    · subst hcloses
      cases depth <;> simp [quotedLexeme, behind, turn, hescape, hopens]
    · simp [quotedLexeme, behind, turn, hescape, hopens, hcloses, hstay]

/-- One byte of a literal. An escaped byte is what is left of the lexeme of its
backslash. -/
theorem scan_cons_of_quoted (hcontext : state.context = .quoted close opening depth)
    (before : List UInt8) (b : UInt8) (rest : List UInt8) :
    state.scan escaped.toNat .string before (b :: rest) =
      let next := (state.enter (behind close opening depth (expose escaped b).1)).scan
        (expose escaped b).2.toNat .string (b :: before) rest
      (.string :: next.1, next.2) := by
  have hstay := enter_of_context hcontext
  cases escaped with
  | true => simp [scan, expose, behind, turn, hstay]
  | false =>
    by_cases hescape : b = '\\'.toUInt8
    · simp [scan, lexeme, hcontext, quotedLexeme, hescape, expose, behind, turn, hstay]
    · simp [scan, lexeme, hcontext, quotedLexeme_of_ne hcontext hescape, expose, hescape]

theorem scan_zero (state : LexState) (current other : Attribute) (before bytes : List UInt8) :
    state.scan 0 current before bytes = state.scan 0 other before bytes := by
  cases bytes <;> rfl

theorem scan_of_balances (hne : opening ≠ some close)
    (hcontext : state.context = .quoted close opening depth) {k : Nat}
    (hk : IsLeast {k | Balances close opening depth (exposed escaped bytes) k} k)
    (before : List UInt8) :
    state.scan escaped.toNat .string before bytes =
      let next := (state.enter .code).scan 0 .normal ((bytes.take (k + 1)).reverse ++ before)
        (bytes.drop (k + 1))
      (List.replicate (k + 1) .string ++ next.1, next.2) := by
  induction bytes generalizing state escaped depth k before with
  | nil => exact absurd hk.1 not_balances_nil
  | cons b rest ih =>
    rw [scan_cons_of_quoted hcontext, behind]
    cases hturn : turn close opening depth (expose escaped b).1 with
    | none =>
      obtain rfl : k = 0 := Nat.le_zero.mp (hk.2 ((balances_zero_iff hne).mpr hturn))
      have hshown : (expose escaped b).2 = false :=
        expose_eq_false_of_shown (((turn_eq_none_iff hne).mp hturn).1 ▸ rfl)
      simp [hshown, scan_zero _ .string .normal]
    | some next =>
      have hshift {j : Nat} : Balances close opening depth (exposed escaped (b :: rest)) (j + 1) ↔
          Balances close opening next (exposed (expose escaped b).2 rest) j :=
        balances_succ_iff hne hturn
      cases k with
      | zero => simp [(balances_zero_iff hne).mp hk.1] at hturn
      | succ k =>
        have hleast : IsLeast {k | Balances close opening next
            (exposed (expose escaped b).2 rest) k} k :=
          ⟨hshift.mp hk.1, fun j hj => Nat.le_of_succ_le_succ (hk.2 (hshift.mpr hj))⟩
        have hrest := ih (context_enter state _) hleast (b :: before)
        simp [hrest, List.replicate_succ]

theorem scan_of_not_balances (hne : opening ≠ some close)
    (hcontext : state.context = .quoted close opening depth)
    (hnone : ∀ k, ¬ Balances close opening depth (exposed escaped bytes) k)
    (before : List UInt8) :
    ∃ next, next + closers close (exposed escaped bytes) =
        depth + openers opening (exposed escaped bytes) ∧
      state.scan escaped.toNat .string before bytes =
        (List.replicate bytes.length .string, state.enter (.quoted close opening next)) := by
  induction bytes generalizing state escaped depth before with
  | nil =>
    refine ⟨depth, ?_, by simp [scan, enter_of_context hcontext]⟩
    cases opening <;> rfl
  | cons b rest ih =>
    rw [scan_cons_of_quoted hcontext, behind]
    cases hturn : turn close opening depth (expose escaped b).1 with
    | none => exact absurd ((balances_zero_iff hne).mpr hturn) (hnone 0)
    | some next =>
      have hlater (k : Nat) : ¬ Balances close opening next (exposed (expose escaped b).2 rest) k :=
        fun hk => hnone (k + 1) ((balances_succ_iff hne hturn).mpr hk)
      obtain ⟨final, hdepth, hrest⟩ := ih (context_enter state _) hlater (b :: before)
      have hstep := add_closers_of_turn hne hturn
      refine ⟨final, ?_, by simp [hrest, List.replicate_succ]⟩
      have hsplit : exposed escaped (b :: rest) =
          [(expose escaped b).1] ++ exposed (expose escaped b).2 rest := rfl
      rw [hsplit, closers_append, openers_append]
      omega

-- ---------------------------------------------------------------------------
-- Lines of a literal
-- ---------------------------------------------------------------------------

theorem lexLine_of_quoted (hpending : state.pending = [])
    (hcontext : state.context = .quoted close opening depth) (line : Text) :
    state.lexLine line = state.scan 0 .string [] (Text.bytes line) := by
  simp only [lexLine, hpending, hcontext]
  exact scan_zero state .normal .string [] _

theorem lexLine_of_not_balances (hne : opening ≠ some close) (hpending : state.pending = [])
    (hcontext : state.context = .quoted close opening depth) {line : Text}
    (hnone : ∀ k, ¬ Balances close opening depth (shownIn line) k) :
    ∃ next, next + closers close (shownIn line) = depth + openers opening (shownIn line) ∧
      state.lexLine line = (filledRow .string line, state.enter (.quoted close opening next)) := by
  obtain ⟨next, hnext, hscan⟩ := scan_of_not_balances hne hcontext hnone []
  rw [Text.length_bytes] at hscan
  exact ⟨next, hnext, (lexLine_of_quoted hpending hcontext line).trans hscan⟩

theorem lexLines_of_not_balances (hne : opening ≠ some close) (hpending : state.pending = [])
    (hcontext : state.context = .quoted close opening depth) {lines : List Text}
    (hnone : ∀ k, ¬ Balances close opening depth (lines.flatMap shownIn) k) :
    ∃ next, next + closers close (lines.flatMap shownIn) =
        depth + openers opening (lines.flatMap shownIn) ∧
      state.lexLines lines = lines.map (filledRow .string) ∧
      state.after lines = state.enter (.quoted close opening next) := by
  induction lines generalizing state depth with
  | nil =>
    refine ⟨depth, ?_, rfl, (enter_of_context hcontext).symm⟩
    cases opening <;> rfl
  | cons line rest ih =>
    rw [List.flatMap_cons] at hnone ⊢
    have hline (k : Nat) : ¬ Balances close opening depth (shownIn line) k := by
      intro hk
      have hlt : k < (shownIn line).length := (List.getElem?_eq_some_iff.mp hk.1).1
      exact hnone k ((balances_append_of_lt hlt).mpr hk)
    obtain ⟨middle, hmiddle, hlex⟩ := lexLine_of_not_balances hne hpending hcontext hline
    have hrest (k : Nat) : ¬ Balances close opening middle (rest.flatMap shownIn) k :=
      fun hk => hnone _ ((balances_append hmiddle).mpr hk)
    obtain ⟨next, hnext, hrows, hafter⟩ :=
      ih ((pending_enter state _).trans hpending) (context_enter state _) hrest
    refine ⟨next, ?_, by simp [lexLines, hlex, hrows], by simp [hlex, hafter]⟩
    rw [closers_append, openers_append]
    omega

-- ---------------------------------------------------------------------------
-- Contexts that the lexer reaches
-- ---------------------------------------------------------------------------

section
variable {P : LexContext → Prop}
  (hlexeme : ∀ (state : LexState) before b after,
    P state.context → P (state.lexeme before b after).state.context)
include hlexeme

theorem scan_invariant (h : P state.context) (covered : Nat) (current : Attribute)
    (before bytes : List UInt8) : P (state.scan covered current before bytes).2.context := by
  induction bytes generalizing state covered current before with
  | nil => exact h
  | cons b after ih =>
    cases covered with
    | zero => exact ih (hlexeme state before b after h) _ _ _
    | succ covered => exact ih h covered current _

/-- What holds of code and of embedded documentation and is kept by every lexeme holds
at the start of every line. -/
theorem after_invariant (hcode : P .code) (hcomment : P .blockComment) (lines : List Text) :
    P (start.after lines).context := by
  have hline {state : LexState} (h : P state.context) (line : Text) :
      P (state.lexLine line).2.context := by
    unfold lexLine
    split
    · dsimp only
      split <;> exact h
    · split
      · dsimp only
        split
        · exact hcode
        · exact h
      · split
        · exact hcomment
        · exact scan_invariant hlexeme h 0 .normal [] _
      · exact scan_invariant hlexeme h 0 .normal [] _
  have hlines {state : LexState} (h : P state.context) : P (state.after lines).context := by
    induction lines generalizing state with
    | nil => exact h
    | cons line rest ih => exact ih (hline h line)
  have hstart : P start.context := hcode
  exact hlines hstart

end

end LexState

/-- No delimiter is a backslash, and a literal that nests has two different ones. -/
def LexContext.Delimited : LexContext → Prop
  | .quoted close opening _ =>
    close ≠ '\\'.toUInt8 ∧ opening ≠ some '\\'.toUInt8 ∧ opening ≠ some close
  | _ => True

instance (close : UInt8) (opening : Option UInt8) (depth : Nat) :
    Decidable (LexContext.quoted close opening depth).Delimited :=
  inferInstanceAs (Decidable (_ ∧ _))

namespace LexState

open Literal

variable {state : LexState}

theorem delimited_codeLexeme (h : state.context.Delimited) (before : List UInt8) (b : UInt8)
    (after : List UInt8) : (state.codeLexeme before b after).state.context.Delimited := by
  have hquotes : ∀ q ∈ asciiBytes "\"'`", (LexContext.quoted q none 0).Delimited := by
    decide +kernel
  have hpercents : ∀ d ∈ asciiBytes "([\x7b<|!/^", (LexContext.quoted (closingDelimiter d)
      (if closingDelimiter d == d then none else some d) 0).Delimited := by
    decide +kernel
  unfold codeLexeme
  split
  · exact h
  split
  case isTrue hquote => exact hquotes b (by simpa [isOneOf] using hquote)
  split
  · split
    · exact h
    · next delimiter extra hp =>
      exact hpercents delimiter (by simpa [isOneOf] using isOneOf_of_percent hp)
  split
  case isTrue hslash =>
    split
    · exact h
    · obtain rfl : b = '/'.toUInt8 := by simpa using hslash
      exact (by decide : (LexContext.quoted '/'.toUInt8 none 0).Delimited)
  all_goals
    repeat' split
    all_goals exact h

theorem delimited_lexeme (state : LexState) (before : List UInt8) (b : UInt8) (after : List UInt8)
    (h : state.context.Delimited) : (state.lexeme before b after).state.context.Delimited := by
  cases hcontext : state.context with
  | code => simpa only [lexeme, hcontext] using delimited_codeLexeme h before b after
  | blockComment => simpa only [lexeme, hcontext] using h
  | quoted close opening depth =>
    -- The delimiters stay as long as the literal does.
    have hquoted (depth : Nat) : (LexContext.quoted close opening depth).Delimited := by
      rw [hcontext] at h
      exact h
    simp only [lexeme, hcontext, quotedLexeme]
    split
    · exact h
    split
    · exact hquoted (depth + 1)
    split
    · cases depth with
      | zero => exact trivial
      | succ depth => exact hquoted depth
    · exact h

end LexState

open Literal in
/-- Quoted literals end exactly at their balancing delimiter. A line that shows one is a
string up to and with the first of them and code from there on. A line that shows none is a
string throughout, and the literal goes on with the delimiters that are left open. The
same holds of any number of lines, each of which counts its backslashes from its own
start. Of the delimiters nothing is asked but that they differ, and in the states that the
lexer reaches they do, and none is a backslash. -/
theorem quoted_literals_end_at_balance (state : LexState) {close : UInt8}
    {opening : Option UInt8} {depth : Nat} (hpending : state.pending = [])
    (hcontext : state.context = .quoted close opening depth) (hne : opening ≠ some close) :
    (∀ line k, IsLeast {k | Balances close opening depth (shownIn line) k} k →
      let passed := (Text.bytes line).take (k + 1)
      let rest := (state.enter .code).scan 0 .normal passed.reverse
        ((Text.bytes line).drop (k + 1))
      state.lexLine line = (List.replicate (k + 1) .string ++ rest.1, rest.2)) ∧
    (∀ line, (∀ k, ¬ Balances close opening depth (shownIn line) k) →
      ∃ next, next + closers close (shownIn line) = depth + openers opening (shownIn line) ∧
        state.lexLine line = (filledRow .string line, state.enter (.quoted close opening next))) ∧
    (∀ lines, (∀ k, ¬ Balances close opening depth (lines.flatMap shownIn) k) →
      ∃ next, next + closers close (lines.flatMap shownIn) =
          depth + openers opening (lines.flatMap shownIn) ∧
        state.lexLines lines = lines.map (filledRow .string) ∧
        state.after lines = state.enter (.quoted close opening next)) ∧
    ∀ lines, (LexState.start.after lines).context.Delimited := by
  refine ⟨?_, ?_, ?_, ?_⟩
  · intro line k hk passed rest
    have hscan := LexState.scan_of_balances hne hcontext hk []
    rw [List.append_nil] at hscan
    rw [LexState.lexLine_of_quoted hpending hcontext]
    exact hscan
  · intro line hnone
    exact LexState.lexLine_of_not_balances hne hpending hcontext hnone
  · intro lines hnone
    exact LexState.lexLines_of_not_balances hne hpending hcontext hnone
  · intro lines
    exact LexState.after_invariant LexState.delimited_lexeme trivial trivial lines

open Literal in
/-- A nested literal whose first line ends in a backslash. It escapes nothing, so the two
delimiters at the start of the next line end the literal. -/
theorem quoted_literals_end_at_balance_nested :
    let state (depth : Nat) : LexState := ⟨.quoted ')'.toUInt8 (some '('.toUInt8) depth, []⟩
    (state 0).lexLine "(\\)\\".toList = (List.replicate 4 .string, state 1) ∧
      (state 1).lexLine ")) + y".toList =
        (List.replicate 2 .string ++ List.replicate 4 .normal, .start) := by
  intro state
  have hne : some '('.toUInt8 ≠ some ')'.toUInt8 := by decide
  constructor
  · have hnone (k : Nat) :
        ¬ Balances ')'.toUInt8 (some '('.toUInt8) 0 (shownIn "(\\)\\".toList) k := by
      intro hk
      have hlt : k < 4 := (List.getElem?_eq_some_iff.mp hk.1).1
      have hbelow : ∀ k < 4, ¬ Balances ')'.toUInt8 (some '('.toUInt8) 0
        (shownIn "(\\)\\".toList) k := by decide
      exact hbelow k hlt hk
    obtain ⟨next, hnext, hline⟩ :=
      (quoted_literals_end_at_balance (state 0) rfl rfl hne).2.1 _ hnone
    have hcount : closers ')'.toUInt8 (shownIn "(\\)\\".toList) = 0 ∧
        openers (some '('.toUInt8) (shownIn "(\\)\\".toList) = 1 := by decide
    obtain rfl : next = 1 := by omega
    exact hline
  · have hleast : IsLeast {k | Balances ')'.toUInt8 (some '('.toUInt8) 1
        (shownIn ")) + y".toList) k} 1 := by
      refine ⟨by decide, fun j hj => ?_⟩
      cases j with
      | zero => exact absurd hj (by decide)
      | succ j => exact Nat.le_add_left 1 j
    exact (quoted_literals_end_at_balance (state 1) rfl rfl hne).1 _ 1 hleast

end Reindent
