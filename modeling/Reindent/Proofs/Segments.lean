import Mathlib.Data.List.Chain
import Reindent.Proofs.DefaultRules
import Reindent.Proofs.Locality

/-!
# Statements partition the lines of code

A document is cut into statements from the bottom up: the nearest line of
code ends a statement, which grows upwards as long as the line of code above
continues on it, and the next statement is looked for above its start. Here
it is shown that this cuts the lines of code into disjoint pieces, and that
the cuts are where no line continues, whichever line the search began at.
Blank lines and comments may lie inside a statement but never at its ends.
-/

namespace Reindent

theorem greatestBelow?_eq_none {p : Nat → Bool} {bound : Nat}
    (h : greatestBelow? p bound = none) {m : Nat} (hm : m < bound) : p m = false := by
  induction bound with
  | zero => exact absurd hm (Nat.not_lt_zero m)
  | succ n ih =>
    rw [greatestBelow?] at h
    split at h
    case isTrue => simp at h
    case isFalse hn =>
      rcases Nat.lt_succ_iff_lt_or_eq.mp hm with hm | rfl
      · exact ih h hm
      · simpa using hn

theorem greatestBelow?_between {p : Nat → Bool} {bound n : Nat}
    (h : greatestBelow? p bound = some n) {m : Nat} (hn : n < m) (hm : m < bound) :
    p m = false := by
  induction bound with
  | zero => exact absurd hm (Nat.not_lt_zero m)
  | succ b ih =>
    rw [greatestBelow?] at h
    split at h
    case isTrue =>
      obtain rfl := Option.some.inj h
      omega
    case isFalse hb =>
      rcases Nat.lt_succ_iff_lt_or_eq.mp hm with hm | rfl
      · exact ih h hm
      · simpa using hb

namespace Document

variable {doc : Document} {rules : Rules} {line : Nat}

/-- Two lines of code with none between them. -/
structure Neighbours (doc : Document) (above below : Nat) : Prop where
  lt : above < below
  code_above : doc.isCodeLine above = true
  code_below : doc.isCodeLine below = true
  between : ∀ m, above < m → m < below → doc.isCodeLine m = false

def codeLineAbove? (doc : Document) (line : Nat) : Option Nat :=
  greatestBelow? doc.isCodeLine line

theorem neighbours_of_codeLineAbove? {above : Nat} (hline : doc.isCodeLine line = true)
    (h : doc.codeLineAbove? line = some above) : doc.Neighbours above line := by
  obtain ⟨hlt, hcode⟩ := greatestBelow?_eq_some h
  exact ⟨hlt, hcode, hline, fun m hn hm => greatestBelow?_between h hn hm⟩

theorem exists_codeLineAbove? {m : Nat} (hcode : doc.isCodeLine m = true) (hlt : m < line) :
    ∃ above, doc.codeLineAbove? line = some above ∧ m ≤ above := by
  cases hfound : doc.codeLineAbove? line with
  | none => simp [greatestBelow?_eq_none hfound hlt] at hcode
  | some above =>
    refine ⟨above, rfl, ?_⟩
    by_contra hnot
    simp [greatestBelow?_between hfound (Nat.lt_of_not_le hnot) hlt] at hcode

theorem Neighbours.codeLineAbove? {above : Nat} (h : doc.Neighbours above line) :
    doc.codeLineAbove? line = some above := by
  obtain ⟨found, hfound, hle⟩ := exists_codeLineAbove? h.code_above h.lt
  obtain ⟨hlt, hcode⟩ := greatestBelow?_eq_some hfound
  rcases Nat.eq_or_lt_of_le hle with rfl | hmore
  · exact hfound
  · have hnone := h.between found hmore hlt
    simp [hcode] at hnone

theorem Neighbours.le_above {above m : Nat} (h : doc.Neighbours above line)
    (hcode : doc.isCodeLine m = true) (hlt : m < line) : m ≤ above := by
  by_contra hnot
  simp [h.between m (Nat.lt_of_not_le hnot) hlt] at hcode

theorem lt_lineCount_of_isCodeLine (h : doc.isCodeLine line = true) : line < doc.lineCount := by
  by_contra hge
  have hnone : doc.lines[line]? = none := List.getElem?_eq_none (Nat.le_of_not_lt hge)
  simp [isCodeLine, firstColumn, Document.line, hnone, Text.firstColumn, Text.body] at h

/-- Past the end there is no code, so the end of the document plays no part in
the search for the line. -/
theorem greatestBelow?_min_lineCount (doc : Document) (line : Nat) :
    greatestBelow? doc.isCodeLine (min line doc.lineCount) = doc.codeLineAbove? line := by
  induction line with
  | zero => rw [Nat.zero_min]; rfl
  | succ n ih =>
    by_cases hn : n < doc.lineCount
    · rw [Nat.min_eq_left hn]
      rfl
    · have hcode : doc.isCodeLine n = false := by
        rw [← Bool.not_eq_true]
        exact fun h => hn (lt_lineCount_of_isCodeLine h)
      have hmin : min (n + 1) doc.lineCount = min n doc.lineCount := by omega
      rw [hmin, ih, codeLineAbove?, codeLineAbove?, greatestBelow?, hcode]
      rfl

-- ---------------------------------------------------------------------------
-- One statement
-- ---------------------------------------------------------------------------

theorem extendUp_eq (doc : Document) (rules : Rules) (start bound : Nat) :
    doc.extendUp rules start bound =
      match doc.codeLineAbove? bound with
      | none => start
      | some above => if doc.joins rules above start then doc.extendUp rules above above
        else start := by
  induction bound with
  | zero => rfl
  | succ n ih =>
    rw [extendUp, codeLineAbove?, greatestBelow?]
    split
    · rfl
    · exact ih

/-- A statement begins where the statement of the next line of code above
begins, if that line continues, and with the line itself otherwise. -/
theorem statementStart_eq (rules : Rules) (h : doc.isCodeLine line = true) :
    doc.statementStart rules line =
      match doc.codeLineAbove? line with
      | none => line
      | some above => if doc.joins rules above line then doc.statementStart rules above
        else line := by
  have hbound {m : Nat} (hm : doc.isCodeLine m = true) : min m doc.lineCount = m :=
    Nat.min_eq_left (Nat.le_of_lt (lt_lineCount_of_isCodeLine hm))
  rw [statementStart, hbound h, extendUp_eq]
  split
  case h_1 => rfl
  case h_2 above habove =>
    have hcode : doc.isCodeLine above = true := (greatestBelow?_eq_some habove).2
    rw [statementStart, hbound hcode]

theorem statementStart_of_none (rules : Rules) (h : doc.isCodeLine line = true)
    (hnone : doc.codeLineAbove? line = none) : doc.statementStart rules line = line := by
  rw [statementStart_eq rules h, hnone]

theorem Neighbours.statementStart {above : Nat} (h : doc.Neighbours above line) :
    doc.statementStart rules line =
      if doc.joins rules above line then doc.statementStart rules above else line := by
  rw [statementStart_eq rules h.code_below, h.codeLineAbove?]

theorem induction_codeLine {P : Nat → Prop}
    (first : ∀ line, doc.isCodeLine line = true → doc.codeLineAbove? line = none → P line)
    (next : ∀ above line, doc.Neighbours above line → P above → P line)
    (h : doc.isCodeLine line = true) : P line := by
  induction line using Nat.strong_induction_on with
  | h line ih =>
    cases habove : doc.codeLineAbove? line with
    | none => exact first line h habove
    | some above =>
      have hn := neighbours_of_codeLineAbove? h habove
      exact next above line hn (ih above hn.lt hn.code_above)

/-- What makes a range of lines a statement: it begins and ends with code, its
lines of code continue from one to the next and all have its start for theirs,
and the one above does not continue on it. -/
structure IsStatement (doc : Document) (rules : Rules) (stmt : Statement) : Prop where
  ordered : stmt.start ≤ stmt.stop
  code_start : doc.isCodeLine stmt.start = true
  code_stop : doc.isCodeLine stmt.stop = true
  statementStart_eq : ∀ m, stmt.start ≤ m → m ≤ stmt.stop → doc.isCodeLine m = true →
    doc.statementStart rules m = stmt.start
  joined : ∀ above below, doc.Neighbours above below → stmt.start ≤ above → below ≤ stmt.stop →
    doc.joins rules above below = true
  separated : ∀ above, doc.Neighbours above stmt.start →
    doc.joins rules above stmt.start = false

theorem isStatement_singleLine (h : doc.isCodeLine line = true)
    (hself : doc.statementStart rules line = line)
    (hsep : ∀ above, doc.Neighbours above line → doc.joins rules above line = false) :
    doc.IsStatement rules ⟨line, line⟩ where
  ordered := Nat.le_refl line
  code_start := h
  code_stop := h
  statementStart_eq := by
    intro m hstart hstop _
    obtain rfl := Nat.le_antisymm hstart hstop
    exact hself
  joined := by
    intro above below hn hstart hstop
    have hlt := hn.lt
    dsimp only at hstart hstop
    omega
  separated := hsep

theorem IsStatement.extend {start above : Nat} (h : doc.IsStatement rules ⟨start, above⟩)
    (hn : doc.Neighbours above line) (hjoins : doc.joins rules above line = true) :
    doc.IsStatement rules ⟨start, line⟩ := by
  have hlt := hn.lt
  have hordered : start ≤ above := h.ordered
  have hself : doc.statementStart rules line = start := by
    rw [hn.statementStart, if_pos hjoins]
    exact h.statementStart_eq above hordered (Nat.le_refl above) hn.code_above
  -- A line of code up to `line` is either that line or above it.
  have upTo {m : Nat} (hm : m ≤ line) (hcode : doc.isCodeLine m = true) : m = line ∨ m ≤ above :=
    (Nat.eq_or_lt_of_le hm).imp_right (hn.le_above hcode)
  refine ⟨by dsimp only; omega, h.code_start, hn.code_below, ?_, ?_, h.separated⟩
  · intro m hstart hstop hcode
    rcases upTo hstop hcode with rfl | hm
    · exact hself
    · exact h.statementStart_eq m hstart hm hcode
  · intro upper lower hpair hstart hstop
    rcases upTo hstop hpair.code_below with rfl | hm
    · have hsame := hpair.codeLineAbove?.symm.trans hn.codeLineAbove?
      rwa [Option.some.inj hsame]
    · exact h.joined upper lower hpair hstart hm

theorem isStatement_of_isCodeLine (rules : Rules) (h : doc.isCodeLine line = true) :
    doc.IsStatement rules ⟨doc.statementStart rules line, line⟩ := by
  refine induction_codeLine (P := fun line =>
    doc.IsStatement rules ⟨doc.statementStart rules line, line⟩) ?_ ?_ h
  · intro line hcode hnone
    have hself := statementStart_of_none rules hcode hnone
    rw [hself]
    refine isStatement_singleLine hcode hself fun above hn => ?_
    simp [hn.codeLineAbove?] at hnone
  · intro above line hn ih
    cases hjoins : doc.joins rules above line with
    | true =>
      rw [hn.statementStart, if_pos hjoins]
      exact ih.extend hn hjoins
    | false =>
      have hself : doc.statementStart rules line = line := by
        rw [hn.statementStart, hjoins, if_neg Bool.false_ne_true]
      rw [hself]
      refine isStatement_singleLine hn.code_below hself fun upper hupper => ?_
      have hsame := hupper.codeLineAbove?.symm.trans hn.codeLineAbove?
      rwa [Option.some.inj hsame]

-- ---------------------------------------------------------------------------
-- All statements above a line
-- ---------------------------------------------------------------------------

theorem statementAbove?_eq (doc : Document) (rules : Rules) (line : Nat) :
    doc.statementAbove? rules line =
      (doc.codeLineAbove? line).map fun stop => ⟨doc.statementStart rules stop, stop⟩ := by
  cases line with
  | zero => rfl
  | succ line =>
    rw [statementAbove?, previousStatement?, previousCodeLine?, greatestBelow?_min_lineCount]

theorem isStatement_of_statementAbove? {stmt : Statement}
    (h : doc.statementAbove? rules line = some stmt) : doc.IsStatement rules stmt := by
  rw [statementAbove?_eq] at h
  obtain ⟨stop, hstop, rfl⟩ := Option.map_eq_some_iff.mp h
  exact isStatement_of_isCodeLine rules (greatestBelow?_eq_some hstop).2

theorem codeLineAbove?_of_statementAbove? {stmt : Statement}
    (h : doc.statementAbove? rules line = some stmt) :
    doc.codeLineAbove? line = some stmt.stop := by
  rw [statementAbove?_eq] at h
  obtain ⟨stop, hstop, rfl⟩ := Option.map_eq_some_iff.mp h
  exact hstop

/-- The statements above a line, the nearest first: each is found above the
start of the one before. -/
def statementsAbove (doc : Document) (rules : Rules) (line : Nat) : List Statement :=
  match _found : doc.statementAbove? rules line with
  | none => []
  | some stmt => stmt :: statementsAbove doc rules stmt.start
termination_by line
decreasing_by
  obtain ⟨hordered, hlt⟩ := statementAbove?_bounds _found
  exact Nat.lt_of_le_of_lt hordered hlt

theorem statementsAbove_of_none (h : doc.statementAbove? rules line = none) :
    doc.statementsAbove rules line = [] := by
  rw [statementsAbove]
  split <;> simp_all

theorem statementsAbove_of_some {stmt : Statement}
    (h : doc.statementAbove? rules line = some stmt) :
    doc.statementsAbove rules line = stmt :: doc.statementsAbove rules stmt.start := by
  rw [statementsAbove]
  split <;> simp_all

theorem induction_statementsAbove {P : Nat → List Statement → Prop}
    (stop : ∀ line, doc.statementAbove? rules line = none → P line [])
    (more : ∀ line stmt, doc.statementAbove? rules line = some stmt →
      P stmt.start (doc.statementsAbove rules stmt.start) →
      P line (stmt :: doc.statementsAbove rules stmt.start)) (line : Nat) :
    P line (doc.statementsAbove rules line) := by
  induction line using Nat.strong_induction_on with
  | h line ih =>
    cases habove : doc.statementAbove? rules line with
    | none =>
      rw [statementsAbove_of_none habove]
      exact stop line habove
    | some stmt =>
      obtain ⟨hordered, hlt⟩ := statementAbove?_bounds habove
      rw [statementsAbove_of_some habove]
      exact more line stmt habove (ih stmt.start (Nat.lt_of_le_of_lt hordered hlt))

theorem isStatement_of_mem_statementsAbove {stmt : Statement}
    (h : stmt ∈ doc.statementsAbove rules line) :
    doc.IsStatement rules stmt ∧ stmt.stop < line := by
  revert h
  refine induction_statementsAbove (P := fun line found =>
    stmt ∈ found → doc.IsStatement rules stmt ∧ stmt.stop < line) ?_ ?_ line
  · simp
  · intro line first habove ih hmem
    obtain ⟨hordered, hlt⟩ := statementAbove?_bounds habove
    rcases List.mem_cons.mp hmem with rfl | hmem
    · exact ⟨isStatement_of_statementAbove? habove, hlt⟩
    · obtain ⟨hstmt, hstop⟩ := ih hmem
      have : first.start ≤ first.stop := hordered
      exact ⟨hstmt, by omega⟩

theorem pairwise_statementsAbove (doc : Document) (rules : Rules) (line : Nat) :
    (doc.statementsAbove rules line).Pairwise fun below above => above.stop < below.start := by
  refine induction_statementsAbove (P := fun _ found =>
    found.Pairwise fun below above => above.stop < below.start) ?_ ?_ line
  · intro line _
    exact .nil
  · intro line stmt _ ih
    exact .cons (fun above hmem => (isStatement_of_mem_statementsAbove hmem).2) ih

theorem isChain_statementsAbove (doc : Document) (rules : Rules) (line : Nat) :
    (doc.statementsAbove rules line).IsChain fun below above =>
      doc.joins rules above.stop below.start = false := by
  refine induction_statementsAbove (P := fun _ found => found.IsChain fun below above =>
    doc.joins rules above.stop below.start = false) ?_ ?_ line
  · intro line _
    exact .nil
  · intro line stmt habove ih
    cases hnext : doc.statementAbove? rules stmt.start with
    | none =>
      rw [statementsAbove_of_none hnext]
      exact .singleton stmt
    | some next =>
      have hstmt := isStatement_of_statementAbove? habove
      have hn := neighbours_of_codeLineAbove? hstmt.code_start
        (codeLineAbove?_of_statementAbove? hnext)
      rw [statementsAbove_of_some hnext] at ih ⊢
      exact .cons_cons (hstmt.separated next.stop hn) ih

theorem exists_mem_statementsAbove {m : Nat} (hm : m < line) (hcode : doc.isCodeLine m = true) :
    ∃ stmt ∈ doc.statementsAbove rules line, stmt.start ≤ m ∧ m ≤ stmt.stop := by
  revert hm
  refine induction_statementsAbove (P := fun line found =>
    m < line → ∃ stmt ∈ found, stmt.start ≤ m ∧ m ≤ stmt.stop) ?_ ?_ line
  · intro line hnone hm
    rw [statementAbove?_eq, Option.map_eq_none_iff] at hnone
    simp [greatestBelow?_eq_none hnone hm] at hcode
  · intro line stmt habove ih hm
    by_cases hstart : m < stmt.start
    · obtain ⟨found, hmem, hin⟩ := ih hstart
      exact ⟨found, List.mem_cons_of_mem _ hmem, hin⟩
    · refine ⟨stmt, List.mem_cons_self, by omega, ?_⟩
      by_contra hstop
      have hgap := greatestBelow?_between (codeLineAbove?_of_statementAbove? habove)
        (Nat.lt_of_not_le hstop) hm
      simp [hcode] at hgap

theorem eq_of_mem_statementsAbove {a b : Statement} {m : Nat}
    (ha : a ∈ doc.statementsAbove rules line) (hb : b ∈ doc.statementsAbove rules line)
    (hina : a.start ≤ m ∧ m ≤ a.stop) (hinb : b.start ≤ m ∧ m ≤ b.stop) : a = b := by
  by_contra hne
  let Apart (x y : Statement) : Prop := y.stop < x.start ∨ x.stop < y.start
  have : Std.Symm Apart := ⟨fun _ _ => Or.symm⟩
  have hpairwise : (doc.statementsAbove rules line).Pairwise Apart :=
    (pairwise_statementsAbove doc rules line).imp .inl
  rcases hpairwise.forall ha hb hne with happart | happart <;> omega

end Document

/-- Segmentation from a line upwards partitions the lines of code up to it. The
statements found lie above each other and begin and end with code; every line
of code is in exactly one of them and leads to its start; and lines of code
that follow each other are in one statement if the upper one continues, and
are parted between two statements otherwise. -/
theorem statementsAbove_partition (doc : Document) (rules : Rules) (line : Nat) :
    let found := doc.statementsAbove rules (line + 1)
    (∀ stmt ∈ found, stmt.start ≤ stmt.stop ∧ stmt.stop ≤ line ∧
      doc.isCodeLine stmt.start = true ∧ doc.isCodeLine stmt.stop = true ∧
      (∀ m, stmt.start ≤ m → m ≤ stmt.stop → doc.isCodeLine m = true →
        doc.statementStart rules m = stmt.start) ∧
      (∀ above below, doc.Neighbours above below → stmt.start ≤ above → below ≤ stmt.stop →
        doc.joins rules above below = true)) ∧
    found.Pairwise (fun below above => above.stop < below.start) ∧
    (∀ m ≤ line, doc.isCodeLine m = true →
      ∃! stmt, stmt ∈ found ∧ stmt.start ≤ m ∧ m ≤ stmt.stop) ∧
    found.IsChain (fun below above => doc.joins rules above.stop below.start = false) := by
  intro found
  refine ⟨?_, doc.pairwise_statementsAbove rules _, ?_, doc.isChain_statementsAbove rules _⟩
  · intro stmt hmem
    obtain ⟨h, hlt⟩ := Document.isStatement_of_mem_statementsAbove hmem
    exact ⟨h.ordered, Nat.le_of_lt_succ hlt, h.code_start, h.code_stop, h.statementStart_eq,
      h.joined⟩
  · intro m hm hcode
    obtain ⟨stmt, hmem, hin⟩ : ∃ stmt ∈ found, stmt.start ≤ m ∧ m ≤ stmt.stop :=
      Document.exists_mem_statementsAbove (Nat.lt_succ_of_le hm) hcode
    exact ⟨stmt, ⟨hmem, hin⟩, fun other hother =>
      Document.eq_of_mem_statementsAbove hother.1 hmem hother.2 hin⟩

/-- A call over three lines of code, with a comment inside, between two others. -/
theorem statementsAbove_partition_call :
    let doc := Document.ofLines
      ["a = 1".toList, "x = f(1,".toList, "2) +".toList, "# +".toList, "b".toList, "y".toList] 8
    doc.statementsAbove .default 6 = [⟨5, 5⟩, ⟨1, 4⟩, ⟨0, 0⟩] ∧
      doc.isCodeLine 2 = true ∧ doc.statementStart .default 2 = 1 := by
  intro doc
  have hfound : doc.statementsAbove .default 6 = [⟨5, 5⟩, ⟨1, 4⟩, ⟨0, 0⟩] := by decide +kernel
  have hcode : doc.isCodeLine 2 = true := by decide
  have hmem : (⟨1, 4⟩ : Statement) ∈ doc.statementsAbove .default 6 := by simp [hfound]
  obtain ⟨-, -, -, -, hstart, -⟩ := (statementsAbove_partition doc .default 5).1 _ hmem
  exact ⟨hfound, hcode, hstart 2 (by decide) (by decide) hcode⟩

end Reindent
