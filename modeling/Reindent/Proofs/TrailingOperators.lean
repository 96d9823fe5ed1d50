import Mathlib.Data.List.Nodup
import Reindent.Proofs.HangingBrackets
import Reindent.Proofs.LeadingWords

/-!
# Operators at the end of a line

The search for a line that calls for more goes from match to match of one
alternation, so a match can swallow the start of another one, and each match
takes all white space behind it. Here it is shown that no operator is lost:
operators differ in their first characters and begin inside no other operator,
but for three ampersands or three bars in a row. So the line calls for more
exactly if some operator of the code is followed by nothing but white space up
to the end of the line or to a comment.
-/

namespace Reindent

-- ---------------------------------------------------------------------------
-- Operators
-- ---------------------------------------------------------------------------

def operatorSymbols : List Text :=
  [['+'], ['-'], ['*'], ['/'], ['='], ['&', '&'], ['|', '|'], [',']]

def operatorWords : List Text := ["and".toList, "or".toList]

/-- `token` is an operator between the character `before` it and the text `rest` behind
it. A word has no word character on either side. -/
def IsOperator (before : Option Char) (token rest : Text) : Prop :=
  token ∈ operatorSymbols ∨
    token ∈ operatorWords ∧ before.any Unicode.isWord = false ∧
      rest.head?.any Unicode.isWord = false

instance (before : Option Char) (token rest : Text) : Decidable (IsOperator before token rest) :=
  inferInstanceAs (Decidable (_ ∨ _))

/-- Three ampersands or three bars in a row can be read as an operator in two ways. -/
def Text.HasTriple (text : Text) : Prop := ['&', '&', '&'] <:+: text ∨ ['|', '|', '|'] <:+: text

theorem Text.HasTriple.mono {s t : Text} (h : s.HasTriple) (hst : s <:+: t) : t.HasTriple :=
  h.imp (·.trans hst) (·.trans hst)

namespace IsOperator

variable {before : Option Char} {token token' rest rest' : Text}

theorem mem (h : IsOperator before token rest) : token ∈ operatorSymbols ++ operatorWords :=
  List.mem_append.mpr (h.imp_right And.left)

theorem ne_nil (h : IsOperator before token rest) : token ≠ [] := by
  have hne : [] ∉ operatorSymbols ++ operatorWords := by decide
  rintro rfl
  exact hne h.mem

theorem unique (h : IsOperator before token rest) (h' : IsOperator before token' rest')
    (heq : token ++ rest = token' ++ rest') : token = token' := by
  have hheads : ((operatorSymbols ++ operatorWords).map List.head?).Nodup := by decide
  refine List.inj_on_of_nodup_map hheads h.mem h'.mem ?_
  have hhead := congrArg List.head? heq
  rwa [List.head?_append_of_ne_nil _ h.ne_nil, List.head?_append_of_ne_nil _ h'.ne_nil] at hhead

theorem not_prefix_drop (h : IsOperator before token rest) (hplain : ¬ (token ++ rest).HasTriple)
    {n : Nat} (hpos : 0 < n) (hn : n < token.length) :
    ∀ other ∈ operatorSymbols ++ operatorWords, ¬ other <+: (token ++ rest).drop n := by
  have hlong : ∀ token ∈ operatorSymbols ++ operatorWords, 1 < token.length →
      token ∈ [['&', '&'], ['|', '|'], ['a', 'n', 'd'], ['o', 'r']] := by decide
  have hmem := hlong token h.mem (by omega)
  -- Only the two symbols could begin once more inside themselves.
  have htriple : ¬ ['&', '&', '&'] <+: token ++ rest ∧ ¬ ['|', '|', '|'] <+: token ++ rest :=
    ⟨fun h => hplain (.inl h.isInfix), fun h => hplain (.inr h.isInfix)⟩
  simp only [List.mem_cons, List.not_mem_nil, or_false] at hmem
  obtain rfl | rfl | rfl | rfl := hmem
  · obtain rfl : n = 1 := Nat.le_antisymm (Nat.le_of_lt_succ hn) hpos
    simpa [operatorSymbols, operatorWords] using htriple
  · obtain rfl : n = 1 := Nat.le_antisymm (Nat.le_of_lt_succ hn) hpos
    simpa [operatorSymbols, operatorWords] using htriple
  · obtain rfl | rfl : n = 1 ∨ n = 2 := by simp at hn; omega
    · simp [operatorSymbols, operatorWords]
    · simp [operatorSymbols, operatorWords]
  · obtain rfl : n = 1 := Nat.le_antisymm (Nat.le_of_lt_succ hn) hpos
    simp [operatorSymbols, operatorWords]

end IsOperator

namespace Pattern

variable {place last : Cursor}

theorem mem_ends_literal {word : Text} :
    last ∈ (literal word).ends place ↔
      ∃ rest, place.after = word ++ rest ∧ last = place.advance word.length := by
  rw [ends_literal, List.mem_ite_nil_right, List.mem_singleton]
  simp [List.IsPrefix, eq_comm (a := place.after)]

theorem ends_letters (word : Text) (b : Pattern) (place : Cursor) :
    (word.foldr (fun c rest => .seq (.char (.single c)) rest) b).ends place =
      if word <+: place.after then b.ends (place.advance word.length) else [] := by
  induction word generalizing place with
  | nil => simp
  | cons c word ih =>
    rw [List.foldr_cons, ends, ends_single]
    cases hafter : place.after with
    | nil => simp
    | cons d text =>
      by_cases hc : c = d
      · subst hc
        rw [if_pos (by simp), List.flatMap_singleton, ih, Cursor.after_step, hafter,
          List.tail_cons, List.length_cons, Cursor.advance_succ]
        simp
      · simp [hc]

theorem mem_ends_wordEdge : last ∈ wordEdge.ends place ↔
    (place.wordBefore false != place.wordAfter false) = true ∧ last = place := by
  rw [ends_wordEdge, List.mem_ite_nil_right, List.mem_singleton]

theorem mem_ends_wholeWord {word : String} (hword : IsKeyword word.toList) :
    last ∈ (wholeWord word).ends place ↔
      ∃ rest, place.after = word.toList ++ rest ∧ place.before.any Unicode.isWord = false ∧
        rest.head?.any Unicode.isWord = false ∧ last = place.advance word.toList.length := by
  -- Both edges lie next to a letter of the word, so it is the other side that decides.
  have hfirst {rest : Text} (hrest : place.after = word.toList ++ rest) :
      place.wordAfter false = true := by
    obtain ⟨first, letters, hletters⟩ := List.exists_cons_of_ne_nil hword.1
    rw [Cursor.wordAfter, hrest, hletters]
    exact hword.2 first (hletters ▸ List.mem_cons_self)
  have hlast {rest : Text} (hrest : place.after = word.toList ++ rest) :
      (place.advance word.toList.length).wordBefore false = true := by
    rw [Cursor.wordBefore, Cursor.before_advance hrest hword.1,
      List.getLast?_eq_some_getLast hword.1]
    exact hword.2 _ (List.getLast_mem hword.1)
  have hbehind {rest : Text} (hrest : place.after = word.toList ++ rest) :
      (place.advance word.toList.length).wordAfter false = rest.head?.any Unicode.isWord := by
    rw [Cursor.wordAfter, Cursor.after_advance, hrest, List.drop_left]
    rfl
  have hbefore : place.wordBefore false = place.before.any Unicode.isWord := rfl
  simp only [wholeWord, ends, List.mem_flatMap, mem_ends_wordEdge, ends_letters,
    List.mem_ite_nil_right]
  constructor
  · rintro ⟨_, ⟨hstart, rfl⟩, ⟨rest, hrest⟩, hstop, hat⟩
    rw [hfirst hrest.symm, hbefore] at hstart
    rw [hlast hrest.symm, hbehind hrest.symm] at hstop
    exact ⟨rest, hrest.symm, by simpa using hstart, by simpa using hstop, hat⟩
  · rintro ⟨rest, hrest, hstart, hstop, hat⟩
    refine ⟨place, ⟨?_, rfl⟩, ⟨rest, hrest.symm⟩, ?_, hat⟩
    · simp [hfirst hrest, hbefore, hstart]
    · simp [hlast hrest, hbehind hrest, hstop]

theorem mem_ends_operator : last ∈ operator.ends place ↔
    ∃ token rest, place.after = token ++ rest ∧ IsOperator place.before token rest ∧
      last = place.advance token.length := by
  have hand : IsKeyword "and".toList := by decide +kernel
  have hor : IsKeyword "or".toList := by decide +kernel
  have hsingle (c : Char) : Pattern.char (.single c) = literal [c] := rfl
  simp only [operator, hsingle, ends, List.mem_append, mem_ends_literal, mem_ends_wholeWord hand,
    mem_ends_wholeWord hor, IsOperator, operatorSymbols, operatorWords]
  simp only [List.mem_cons, List.not_mem_nil, or_false, or_and_right, and_or_left, exists_or,
    existsAndEq, and_assoc, true_and, or_assoc]
  rw [or_comm (a := ∃ rest, place.after = [','] ++ rest ∧ _), or_assoc]

end Pattern

-- ---------------------------------------------------------------------------
-- The search for operators
-- ---------------------------------------------------------------------------

namespace Pattern

variable {kinds : Nat → Attribute} {place : Cursor} {token rest : Text}

theorem leads_continuation : Rules.default.continuation.leads = true := by decide +kernel

theorem reachesEnd_continuation_step
    (h : ∀ token rest, place.after = token ++ rest → ¬ IsOperator place.before token rest) :
    Rules.default.continuation.reachesEnd kinds place =
      Rules.default.continuation.reachesEnd kinds place.step := by
  cases hafter : place.after with
  | nil => rw [Cursor.step_of_nil hafter]
  | cons c text =>
    refine reachesEnd_of_none (consumes_of_leads leads_continuation) (by simp [hafter]) ?_
    have hnone : (operator.ends place.bare).head? = none := by
      rw [List.head?_eq_none_iff, List.eq_nil_iff_forall_not_mem]
      intro last hlast
      obtain ⟨token, rest, heq, hoperator, -⟩ := mem_ends_operator.mp hlast
      exact h token rest heq hoperator
    exact (head?_ends_seq_star _ _ _).trans (by rw [hnone]; rfl)

theorem reachesEnd_continuation_operator (hafter : place.after = token ++ rest)
    (h : IsOperator place.before token rest) :
    Rules.default.continuation.reachesEnd kinds place =
      ((kinds place.offset).isCode &&
          Text.fadesOut kinds (place.offset + Text.byteLength token) rest ||
        Rules.default.continuation.reachesEnd kinds (place.advance token.length)) := by
  have hbare : place.bare.after = token ++ rest := hafter
  have hend : (operator.ends place.bare).head? = some (place.bare.advance token.length) := by
    have hmem : place.bare.advance token.length ∈ operator.ends place.bare :=
      mem_ends_operator.mpr ⟨token, rest, hafter, h, rfl⟩
    obtain ⟨last, hlast⟩ := Option.isSome_iff_exists.mp
      (List.isSome_head?.mpr (List.ne_nil_of_mem hmem))
    obtain ⟨token', rest', heq, h', rfl⟩ := mem_ends_operator.mp (List.mem_of_mem_head? hlast)
    rw [hlast, h.unique h' (hbare.symm.trans heq)]
  have hfound : (Rules.default.continuation.ends place.bare).head? =
      some ((place.bare.advance token.length).skip .whiteSpace) :=
    (head?_ends_seq_star _ _ _).trans (by rw [hend]; rfl)
  rw [reachesEnd_of_some (consumes_of_leads leads_continuation) hfound,
    reachesEnd_skip leads_continuation, Cursor.isStop_skip, Cursor.offset_advance hbare,
    Cursor.after_advance, hbare, List.drop_left, Cursor.offset_bare, ← Cursor.bare_advance,
    reachesEnd_bare]

theorem reachesEnd_continuation_of_no_token
    (h : ∀ token ∈ operatorSymbols ++ operatorWords, ¬ token <+: place.after) :
    Rules.default.continuation.reachesEnd kinds place =
      Rules.default.continuation.reachesEnd kinds place.step :=
  reachesEnd_continuation_step fun token rest hafter hoperator =>
    h token hoperator.mem ⟨rest, hafter.symm⟩

/-- Going on behind an operator or behind its first character is the same. -/
theorem reachesEnd_continuation_advance (hafter : place.after = token ++ rest)
    (h : IsOperator place.before token rest) (hplain : ¬ place.after.HasTriple) :
    Rules.default.continuation.reachesEnd kinds (place.advance token.length) =
      Rules.default.continuation.reachesEnd kinds place.step := by
  have hinside : ∀ n, n < token.length →
      Rules.default.continuation.reachesEnd kinds (place.step.advance n) =
        Rules.default.continuation.reachesEnd kinds place.step := by
    intro n hn
    induction n with
    | zero => rfl
    | succ n ih =>
      have hnext : place.step.advance (n + 1) = (place.step.advance n).step :=
        Cursor.advance_add n 1
      rw [← ih (by omega), hnext]
      refine (reachesEnd_continuation_of_no_token ?_).symm
      rw [← Cursor.advance_succ, Cursor.after_advance, hafter]
      exact h.not_prefix_drop (hafter ▸ hplain) (Nat.succ_pos n) hn
  have hpos := List.length_pos_iff.mpr h.ne_nil
  rw [← Nat.sub_add_cancel hpos, Cursor.advance_succ]
  exact hinside _ (by omega)

theorem reachesEnd_continuation_iff_step (hplain : ¬ place.after.HasTriple) :
    Rules.default.continuation.reachesEnd kinds place = true ↔
      (∃ token rest, place.after = token ++ rest ∧ IsOperator place.before token rest ∧
        (kinds place.offset).isCode = true ∧
        Text.fadesOut kinds (place.offset + Text.byteLength token) rest = true) ∨
      Rules.default.continuation.reachesEnd kinds place.step = true := by
  by_cases hoperator : ∃ token rest, place.after = token ++ rest ∧
      IsOperator place.before token rest
  · obtain ⟨token, rest, hafter, hoperator⟩ := hoperator
    rw [reachesEnd_continuation_operator hafter hoperator,
      reachesEnd_continuation_advance hafter hoperator hplain, Bool.or_eq_true, Bool.and_eq_true]
    refine or_congr_left ⟨fun h => ⟨token, rest, hafter, hoperator, h⟩, ?_⟩
    rintro ⟨token', rest', hafter', hoperator', h⟩
    have heq := hafter'.symm.trans hafter
    obtain rfl := hoperator'.unique hoperator heq
    obtain rfl := List.append_cancel_left heq
    exact h
  · have hnot : ∀ token rest, place.after = token ++ rest →
        ¬ IsOperator place.before token rest :=
      fun token rest hafter h => hoperator ⟨token, rest, hafter, h⟩
    rw [reachesEnd_continuation_step hnot, iff_or_self]
    rintro ⟨token, rest, hafter, h, -⟩
    exact absurd h (hnot token rest hafter)

theorem reachesEnd_continuation_iff (hplain : ¬ place.after.HasTriple) :
    Rules.default.continuation.reachesEnd kinds place = true ↔
      ∃ front token rest, place.after = front ++ token ++ rest ∧
        IsOperator (front.getLast?.or place.before) token rest ∧
        (kinds (place.offset + Text.byteLength front)).isCode = true ∧
        Text.fadesOut kinds (place.offset + Text.byteLength (front ++ token)) rest = true := by
  rw [reachesEnd_iff_exists (consumes_of_leads leads_continuation) fun before offset text =>
    ∃ token rest, text = token ++ rest ∧ IsOperator before token rest ∧
      (kinds offset).isCode = true ∧
      Text.fadesOut kinds (offset + Text.byteLength token) rest = true]
  · constructor
    · rintro ⟨front, _, heq, -, token, rest, rfl, hoperator, hcode, hfades⟩
      refine ⟨front, token, rest, by rw [heq, List.append_assoc], hoperator, hcode, ?_⟩
      rwa [Text.byteLength_append, ← Nat.add_assoc]
    · rintro ⟨front, token, rest, heq, hoperator, hcode, hfades⟩
      rw [Text.byteLength_append, ← Nat.add_assoc] at hfades
      refine ⟨front, token ++ rest, by rw [heq, List.append_assoc], ?_, token, rest, rfl,
        hoperator, hcode, hfades⟩
      exact List.append_ne_nil_of_left_ne_nil hoperator.ne_nil rest
  · intro next hsuffix _
    exact reachesEnd_continuation_iff_step fun h => hplain (h.mono hsuffix.isInfix)

end Pattern

-- ---------------------------------------------------------------------------
-- Lines that call for more
-- ---------------------------------------------------------------------------

theorem Text.HasTriple.of_joined {line : Text} (h : HasTriple (Statement.joined line)) :
    line.HasTriple := by
  rw [Statement.joined] at h
  split at h
  case isTrue =>
    have hdrop : ∀ c, c ≠ ' ' → [c, c, c] <:+: line.dropLast ++ [' '] → [c, c, c] <:+: line := by
      intro c hc hinfix
      obtain hsuffix | hinfix := List.infix_concat_iff.mp hinfix
      · obtain ⟨front, heq⟩ := hsuffix
        have hlast := congrArg List.getLast? heq
        simp [hc] at hlast
      · exact hinfix.trans (List.dropLast_prefix line).isInfix
    exact h.imp (hdrop '&' (by decide)) (hdrop '|' (by decide))
  case isFalse => exact h

namespace Document

variable {doc : Document} {line : Nat}

/-- An operator of the code with only white space between it and the end of the line
or a comment. -/
def EndsInOperator (doc : Document) (line : Nat) : Prop :=
  ∃ front token rest, (Statement.singleLine line).content doc = front ++ token ++ rest ∧
    IsOperator front.getLast? token rest ∧
    doc.isCode line (Text.byteLength front) = true ∧
    Text.fadesOut (doc.attributeAt line) (Text.byteLength (front ++ token)) rest = true

theorem endsWith_continuation_iff (hplain : ¬ (doc.line line).HasTriple) :
    (Statement.singleLine line).endsWith doc Rules.default.continuation = true ↔
      doc.EndsInOperator line := by
  have hkinds : Statement.kindFrom doc (line - line) line = doc.attributeAt line := by
    rw [Nat.sub_self]
    rfl
  have hcontent : (Statement.singleLine line).content doc = Statement.joined (doc.line line) := by
    simp [Statement.content, Statement.lineNumbers, Statement.singleLine]
  have hjoined : ¬ ((Statement.singleLine line).content doc).HasTriple :=
    fun h => hplain (hcontent ▸ h).of_joined
  rw [Statement.endsWith_eq, Pattern.reachesEnd_continuation_iff hjoined]
  simp only [Statement.singleLine, hkinds, Cursor.start, Nat.zero_add, Option.or_none]
  rfl

theorem isSome_lastAnchor?_iff {point : Position} :
    (doc.lastAnchor? point).isSome = true ↔ ∃ kind, doc.openOf kind point ≠ [] := by
  constructor
  · intro h
    obtain ⟨anchor, hanchor⟩ := Option.isSome_iff_exists.mp h
    exact ⟨anchor.bracket, List.ne_nil_of_mem (mem_openOf_of_lastAnchor? hanchor)⟩
  · rintro ⟨kind, hne⟩
    obtain ⟨position, hposition⟩ := List.exists_mem_of_ne_nil _ hne
    exact Option.isSome_iff_ne_none.mpr (lastAnchor?_ne_none hposition)

end Document

/-- A line calls for more exactly if an operator of its code is the last thing before
the end of the line or a comment, and it continues if it does so or a bracket is open
behind it. The search for matches of the default pattern, which do not overlap, misses
no operator of a line without three ampersands or three bars in a row. -/
theorem continuation_sees_trailing_operators (rules : Rules)
    (hrules : Config.default.compile = .ok rules) (doc : Document) (line : Nat)
    (hand : ¬ "&&&".toList <:+: doc.line line) (hor : ¬ "|||".toList <:+: doc.line line) :
    ((Statement.singleLine line).endsWith doc rules.continuation = true ↔
      doc.EndsInOperator line) ∧
    (doc.continues rules line = true ↔
      doc.EndsInOperator line ∨ ∃ kind, doc.openOf kind ⟨line + 1, 0⟩ ≠ []) := by
  obtain rfl := Rules.eq_default hrules
  have hends := Document.endsWith_continuation_iff (fun h => h.elim hand hor)
  refine ⟨hends, ?_⟩
  rw [Document.continues, Bool.or_eq_true, hends, Document.isSome_lastAnchor?_iff, or_comm]

/-- A line with an operator in a string, a comment behind the last operator of the code,
and no operator at the end of the next line. -/
theorem continuation_sees_trailing_operators_comment :
    let doc := Document.ofLines (["ok = '+' and  # not", "ready '-'"].map String.toList) 8
    doc.continues .default 0 = true ∧ doc.EndsInOperator 0 ∧ ¬ doc.EndsInOperator 1 := by
  intro doc
  have hfirst : doc.EndsInOperator 0 :=
    ⟨"ok = '+' ".toList, "and".toList, "  # not".toList, by decide +kernel, by decide +kernel,
      by decide +kernel, by decide +kernel⟩
  obtain ⟨-, hcontinues⟩ := continuation_sees_trailing_operators .default Config.compile_default
    doc 0 (by decide +kernel) (by decide +kernel)
  obtain ⟨hends, -⟩ := continuation_sees_trailing_operators .default Config.compile_default
    doc 1 (by decide +kernel) (by decide +kernel)
  refine ⟨hcontinues.mpr (.inl hfirst), hfirst, fun h => ?_⟩
  exact absurd (hends.mpr h) (by decide +kernel)

-- Of three ampersands the search takes the first two, and is left with one.
example : (Document.ofLines ["ok &&&".toList] 8).continues .default 0 = false := by
  decide +kernel

end Reindent
