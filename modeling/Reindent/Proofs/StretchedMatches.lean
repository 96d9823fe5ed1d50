import Reindent.Proofs.Stretching

/-!
# Matches in stretched texts

The default patterns take runs of white space as a whole, so they find the
same in a text and in a stretched form of it: a keyword or closer at its
start, and at its end an operator or the opener of a block. For the latter
the whole text is searched, and what counts is whether some match begins in
code and reaches the end or a comment.
-/

namespace Reindent

-- ---------------------------------------------------------------------------
-- Patterns at the start of a text
-- ---------------------------------------------------------------------------

def Cursor.start (text : Text) : Cursor := ⟨none, text, 0, []⟩

theorem Twin.start {α β : Nat → Attribute} {s t : Text}
    (h : Stretch true (marksFrom α 0 s) (marksFrom β 0 t)) :
    Twin α β true (Cursor.start s) (Cursor.start t) :=
  ⟨h, rfl, fun _ => rfl⟩

namespace Pattern

theorem find?_textStart (pattern : Pattern) (text : Text) :
    (Pattern.seq (.look .textStart) pattern).find? text =
      (Pattern.seq (.look .textStart) pattern).matchAt? (Cursor.start text) := by
  have matchAt?_some {c : Char} {rest : Text} {offset : Nat} :
      (Pattern.seq (.look .textStart) pattern).matchAt? ⟨some c, rest, offset, []⟩ = none := by
    simp [matchAt?, ends, Look.holds]
  have later {c : Char} {rest : Text} {offset : Nat} :
      (Pattern.seq (.look .textStart) pattern).findFrom? (some c) offset rest = none := by
    induction rest generalizing c offset with
    | nil => exact matchAt?_some
    | cons d rest ih => rw [findFrom?, matchAt?_some, ih]
  cases text with
  | nil => rfl
  | cons c rest =>
    rw [find?, findFrom?, later]
    cases h : (Pattern.seq (.look .textStart) pattern).matchAt? ⟨none, c :: rest, 0, []⟩ with
    | none => exact h.symm
    | some found => exact h.symm

theorem isMatch_textStart (pattern : Pattern) (text : Text) :
    (Pattern.seq (.look .textStart) pattern).isMatch text = true ↔
      pattern.ends (Cursor.start text) ≠ [] := by
  rw [isMatch, find?_textStart]
  cases h : pattern.ends (Cursor.start text) with
  | nil => simp [matchAt?, ends, Look.holds, h]
  | cons last rest =>
    have hbefore : (Cursor.start text).before.isNone = true := rfl
    simp [matchAt?, ends, Look.holds, h, hbefore]

theorem exists_ends_restOfLine (place : Cursor) :
    (∃ last ∈ restOfLine.ends place, last.after = []) ↔ '\n' ∉ place.after := by
  induction place using Cursor.induction_after with
  | stop place h =>
    rw [restOfLine, ends_star]
    simp [Cursor.sees, h]
  | more place h ih =>
    obtain ⟨c, rest, hafter⟩ := List.exists_cons_of_ne_nil h
    rw [Cursor.after_step, hafter, List.tail_cons] at ih
    rw [restOfLine, ends_star, hafter]
    by_cases hc : c = '\n'
    · have hs : place.sees (.complement (.single '\n')) = false := by
        rw [Cursor.sees_of_cons hafter, hc, CharSet.contains_notLineFeed]
        rfl
      simp [hs, hafter, hc]
    · have hs : place.sees (.complement (.single '\n')) = true := by
        rw [Cursor.sees_of_cons hafter, CharSet.contains_notLineFeed]
        simpa using hc
      rw [if_pos hs, ← restOfLine]
      simp [hafter, ← ih, Ne.symm hc, or_and_right, exists_or]

end Pattern

namespace Twin

variable {α β : Nat → Attribute} {gap : Bool} {p q : Cursor}

theorem lineFeed_mem_iff (h : Twin α β gap p q) : '\n' ∈ p.after ↔ '\n' ∈ q.after := by
  have ne_of {c : Char} (hc : Text.isBlank c = true) : '\n' ≠ c := by
    rintro rfl
    exact absurd hc (by decide)
  refine Twin.induction (P := fun p q => '\n' ∈ p.after ↔ '\n' ∈ q.after) ?_ ?_ ?_ ?_ h
  · intro gap p q _ hp hq
    rw [hp, hq]
  · intro gap p q c s t _ hp hq _ ih
    rw [Cursor.after_step, Cursor.after_step, hp, hq] at ih
    rw [hp, hq, List.mem_cons, List.mem_cons]
    exact or_congr_right ih
  · intro p q c s hp hc ih
    rw [Cursor.after_step, hp] at ih
    rw [hp, List.mem_cons, ← ih]
    exact or_iff_right (ne_of hc)
  · intro p q c t hq hc ih
    rw [Cursor.after_step, hq] at ih
    rw [hq, List.mem_cons, ih]
    exact (or_iff_right (ne_of hc)).symm

end Twin

namespace Rules

open Pattern

variable {α β : Nat → Attribute} {s t : Text}

theorem eq_nil_iff_of_forall₂ {R : Cursor → Cursor → Prop} {ps qs : List Cursor}
    (h : List.Forall₂ R ps qs) : ps = [] ↔ qs = [] := by
  cases h <;> simp

theorem flatMap_eq_nil_iff_of_forall₂ {R : Cursor → Cursor → Prop} {f g : Cursor → List Cursor}
    (hfg : ∀ p q, R p q → (f p = [] ↔ g q = [])) {ps qs : List Cursor}
    (h : List.Forall₂ R ps qs) : ps.flatMap f = [] ↔ qs.flatMap g = [] := by
  induction h with
  | nil => rfl
  | cons hpq _ ih => rw [List.flatMap_cons, List.flatMap_cons, List.append_eq_nil_iff,
      List.append_eq_nil_iff, hfg _ _ hpq, ih]

theorem ends_closerTail_eq_nil {place : Cursor} :
    closerTail.ends place = [] ↔ '\n' ∈ place.after := by
  rw [← not_iff_not, ← exists_ends_restOfLine place]
  simp [closerTail, ends, Look.holds, List.flatMap_eq_nil_iff]

theorem isMatch_blockStart (h : Stretch true (marksFrom α 0 s) (marksFrom β 0 t)) :
    Rules.default.blockStart.isMatch s = Rules.default.blockStart.isMatch t := by
  have hleads : opener.leads = true := by decide +kernel
  have hsolid : opener.isSolid = true := by decide +kernel
  have hends := forall₂_ends hsolid (Twin.start h).skip
  rw [Bool.eq_iff_iff, blockStart_default, isMatch_textStart, isMatch_textStart,
    ends_spaces_seq hleads, ends_spaces_seq hleads]
  exact not_congr (eq_nil_iff_of_forall₂ hends)

theorem isMatch_blockEnd (h : Stretch true (marksFrom α 0 s) (marksFrom β 0 t)) :
    Rules.default.blockEnd.isMatch s = Rules.default.blockEnd.isMatch t := by
  have hleads : (Pattern.seq closer closerTail).leads = true := by decide +kernel
  have hsolid : closer.isSolid = true := by decide +kernel
  have hends := forall₂_ends hsolid (Twin.start h).skip
  have htail (p q : Cursor) (h : Twin α β false p q) :
      closerTail.ends p = [] ↔ closerTail.ends q = [] := by
    rw [ends_closerTail_eq_nil, ends_closerTail_eq_nil, h.lineFeed_mem_iff]
  rw [Bool.eq_iff_iff, blockEnd_default, isMatch_textStart, isMatch_textStart,
    ends_spaces_seq hleads, ends_spaces_seq hleads]
  exact not_congr (flatMap_eq_nil_iff_of_forall₂ htail hends)

end Rules

-- ---------------------------------------------------------------------------
-- Patterns at the end of a statement
-- ---------------------------------------------------------------------------

section
variable {γ : Type} {R : γ → γ → Prop} {a b a' b' : Option γ} {p q : γ}

theorem rel_or (h : Option.Rel R a b) (h' : Option.Rel R a' b') :
    Option.Rel R (a.or a') (b.or b') := by
  cases h with
  | none => exact h'
  | some h => exact .some h

theorem rel_map {f : γ → γ} (hf : ∀ p q, R p q → R (f p) (f q))
    (h : Option.Rel R a b) : Option.Rel R (a.map f) (b.map f) := by
  cases h with
  | none => exact .none
  | some h => exact .some (hf _ _ h)

theorem rel_getD (h : Option.Rel R a b) (hd : R p q) : R (a.getD p) (b.getD q) := by
  cases h with
  | none => exact hd
  | some h => exact h

theorem rel_cases (h : Option.Rel R a b) :
    a = none ∧ b = none ∨ ∃ p q, a = some p ∧ b = some q ∧ R p q := by
  cases h with
  | none => exact .inl ⟨rfl, rfl⟩
  | some h => exact .inr ⟨_, _, rfl, rfl, h⟩

theorem rel_head? {ps qs : List γ} (h : List.Forall₂ R ps qs) :
    Option.Rel R ps.head? qs.head? := by
  cases h with
  | nil => exact .none
  | cons hpq _ => exact .some hpq

end

section
variable {α β : Nat → Attribute} {gap : Bool} {p q : Cursor}

namespace Pattern

def lastBar? (place : Cursor) : Option Cursor :=
  ((Pattern.seq restOfLine (.char (.single '|'))).ends place).head?

theorem lastBar?_eq (place : Cursor) :
    lastBar? place =
      (if place.sees (.complement (.single '\n')) then lastBar? place.step else none).or
        (if place.sees (.single '|') then some place.step else none) := by
  conv_lhs =>
    rw [lastBar?, ends, restOfLine, ends_star, List.flatMap_append, List.head?_append]
  congr 1
  · split <;> rfl
  · rw [List.flatMap_cons, List.flatMap_nil, List.append_nil, ends_char]
    split <;> rfl

theorem lastBar?_of_nil (h : p.after = []) : lastBar? p = none := by
  rw [lastBar?_eq]
  simp [Cursor.sees, h]

theorem lastBar?_of_cons {c : Char} {s : Text} (h : p.after = c :: s) :
    lastBar? p =
      (if c = '\n' then none else lastBar? p.step).or (if c = '|' then some p.step else none) := by
  rw [lastBar?_eq, Cursor.sees_of_cons h, Cursor.sees_of_cons h, CharSet.contains_notLineFeed]
  simp [CharSet.contains_single]

theorem rel_lastBar? (h : Twin α β gap p q) :
    Option.Rel (Twin α β false) (lastBar? p) (lastBar? q) := by
  have past {p : Cursor} {c : Char} {s : Text} (hp : p.after = c :: s)
      (hc : Text.isBlank c = true) : lastBar? p = lastBar? p.step := by
    rw [lastBar?_of_cons hp]
    rcases Text.isBlank_iff.mp hc with rfl | rfl <;> simp
  refine Twin.induction (P := fun p q => Option.Rel (Twin α β false) (lastBar? p) (lastBar? q))
    ?_ ?_ ?_ ?_ h
  · intro gap p q _ hp hq
    rw [lastBar?_of_nil hp, lastBar?_of_nil hq]
    exact .none
  · intro gap p q c s t h hp hq hstep ih
    rw [lastBar?_of_cons hp, lastBar?_of_cons hq]
    refine rel_or ?_ ?_
    · split
      · exact .none
      · exact ih
    · split
      case isTrue hbar =>
        subst hbar
        exact .some hstep
      case isFalse => exact .none
  · intro p q c s hp hc ih
    rwa [past hp hc]
  · intro p q c t hq hc ih
    rwa [past hq hc]

theorem head?_blockParameters (place : Cursor) :
    (blockParameters.ends place).head? =
      if (place.skip .whiteSpace).sees (.single '|') then
        lastBar? (place.skip .whiteSpace).step else none := by
  rw [blockParameters, ends_spaces_seq (by decide), ends, ends_char]
  split
  · simp [lastBar?]
  · simp

theorem rel_blockParameters (h : Twin α β gap p q) :
    Option.Rel (Twin α β false) (blockParameters.ends p).head? (blockParameters.ends q).head? := by
  have hskip := h.skip
  rw [head?_blockParameters, head?_blockParameters, hskip.sees_eq]
  split
  case isTrue hs => exact rel_lastBar? (hskip.step (by decide) (hskip.sees_eq _ ▸ hs))
  case isFalse => exact .none

theorem rel_head?_seq {a b : Pattern} {f : Cursor → Cursor} (ha : a.isSolid = true)
    (hb : ∀ place, (b.ends place).head? = some (f place))
    (hf : ∀ p q, Twin α β false p q → Twin α β false (f p) (f q)) (h : Twin α β false p q) :
    Option.Rel (Twin α β false) ((Pattern.seq a b).ends p).head?
      ((Pattern.seq a b).ends q).head? := by
  rw [ends, ends, head?_flatMap_of_some hb, head?_flatMap_of_some hb]
  exact rel_map hf (rel_head? (forall₂_ends ha h))

/-- What the search for matches in twin texts needs to know of a pattern. -/
structure Steady (α β : Nat → Attribute) (pattern : Pattern) : Prop where
  leads : pattern.leads = true
  rel : ∀ p q, Twin α β false p q →
    Option.Rel (Twin α β false) (pattern.ends p).head? (pattern.ends q).head?

theorem steady_continuation : Steady α β Rules.default.continuation where
  leads := by decide +kernel
  rel := by
    intro p q h
    exact rel_head?_seq (by decide +kernel) (head?_ends_star .whiteSpace) (fun _ _ h => h.skip) h

theorem steady_blockOpenerTail : Steady α β Rules.default.blockOpenerTail where
  leads := by decide +kernel
  rel := by
    intro p q h
    have hparameters (place : Cursor) :
        (Pattern.ends (.rounds blockParameters 0 (some 1) true) place) =
          blockParameters.ends place ++ [place] := by
      simp [ends, Rounds.exactly, Rounds.upTo, Rounds.prefer]
    refine rel_head?_seq (f := fun place =>
      ((blockParameters.ends place).head?.getD place).skip .whiteSpace) (by decide +kernel) ?_ ?_ h
    · intro place
      rw [spaces, head?_ends_seq_star, hparameters, List.head?_append]
      cases (blockParameters.ends place).head? <;> rfl
    · intro p q h
      exact (rel_getD (rel_blockParameters h) h).skip

end Pattern

def Match.reaches (kinds : Nat → Attribute) (finish : Nat) (found : Match) : Bool :=
  (kinds found.start).isCode && (found.stop == finish || (kinds found.stop).isComment)

theorem Cursor.offset_eq_finish_iff {place : Cursor} :
    place.offset = place.finish ↔ place.after = [] := by
  refine ⟨fun h => ?_, fun h => by simp [finish, h, Text.byteLength]⟩
  by_contra hne
  have hpos := Text.byteLength_pos hne
  rw [finish] at h
  omega

def Cursor.isStop (kinds : Nat → Attribute) (place : Cursor) : Bool :=
  place.offset == place.finish || (kinds place.offset).isComment

theorem Cursor.isStop_eq (kinds : Nat → Attribute) (place : Cursor) :
    place.isStop kinds = (place.after.isEmpty || (kinds place.offset).isComment) := by
  have hend : (place.offset == place.finish) = place.after.isEmpty := by
    rw [Bool.eq_iff_iff, beq_iff_eq, offset_eq_finish_iff, List.isEmpty_iff]
  rw [isStop, hend]

namespace Pattern

variable {pattern : Pattern} {kinds : Nat → Attribute} {place last : Cursor}

/-- Whether a search from a place on comes to a match that reaches the end of the
text or a comment. -/
def reachesEnd (pattern : Pattern) (kinds : Nat → Attribute) (place : Cursor) : Bool :=
  (pattern.matchesAt place).any (Match.reaches kinds place.finish)

theorem reachesEnd_of_nil (hconsumes : pattern.Consumes) (h : place.after = []) :
    pattern.reachesEnd kinds place = false := by
  rw [reachesEnd, matchesAt_of_nil hconsumes h]
  rfl

theorem reachesEnd_of_none (hconsumes : pattern.Consumes) (hne : place.after ≠ [])
    (h : (pattern.ends place.bare).head? = none) :
    pattern.reachesEnd kinds place = pattern.reachesEnd kinds place.step := by
  rw [reachesEnd, reachesEnd, matchesAt_of_none hconsumes hne h, Cursor.finish_step]

theorem reachesEnd_of_some (hconsumes : pattern.Consumes)
    (h : (pattern.ends place.bare).head? = some last) :
    pattern.reachesEnd kinds place = ((kinds place.offset).isCode && last.isStop kinds ||
      pattern.reachesEnd kinds last) := by
  have hfinish : last.finish = place.finish :=
    (ahead_of_mem_ends (List.mem_of_mem_head? h)).finish_eq
  rw [reachesEnd, reachesEnd, matchesAt_of_some hconsumes h, List.any_cons, Match.reaches,
    Cursor.isStop, hfinish]

theorem reachesEnd_of_white (hleads : pattern.leads = true) {c : Char} {s : Text}
    (h : place.after = c :: s) (hc : Unicode.isWhiteSpace c = true) :
    pattern.reachesEnd kinds place = pattern.reachesEnd kinds place.step := by
  refine reachesEnd_of_none (consumes_of_leads hleads) (by simp [h]) ?_
  rw [ends_of_leads hleads, List.head?_nil]
  exact (Cursor.sees_of_cons h).trans hc

theorem reachesEnd_of_isAllWhiteSpace (hleads : pattern.leads = true)
    (h : Text.isAllWhiteSpace place.after = true) : pattern.reachesEnd kinds place = false := by
  induction place using Cursor.induction_after with
  | stop place hnil => exact reachesEnd_of_nil (consumes_of_leads hleads) hnil
  | more place hne ih =>
    obtain ⟨c, rest, hafter⟩ := List.exists_cons_of_ne_nil hne
    rw [hafter, Text.isAllWhiteSpace, List.all_cons, Bool.and_eq_true] at h
    rw [reachesEnd_of_white hleads hafter h.1]
    exact ih (by rw [Cursor.after_step, hafter]; exact h.2)

end Pattern

theorem Twin.isStop_eq (h : Twin α β false p q) : p.isStop α = q.isStop β := by
  rw [Cursor.isStop_eq, Cursor.isStop_eq]
  refine h.cases ?_ ?_ ?_ ?_
  · intro hp hq
    simp [hp, hq]
  · intro c s t hp hq hkind _
    simp [hp, hq, hkind]
  · simp
  · simp

theorem Pattern.Steady.reachesEnd_eq {pattern : Pattern} (hsteady : pattern.Steady α β)
    (h : Twin α β gap p q) : pattern.reachesEnd α p = pattern.reachesEnd β q := by
  have hconsumes := consumes_of_leads hsteady.leads
  -- A match jumps ahead, so the induction is on what is left of both texts.
  induction hn : p.after.length + q.after.length using Nat.strong_induction_on
    generalizing gap p q with
  | h n ih =>
    refine h.cases ?_ ?_ ?_ ?_
    · intro hp hq
      rw [reachesEnd_of_nil hconsumes hp, reachesEnd_of_nil hconsumes hq]
    · intro c s t hp hq hkind hstep
      have hp' := Cursor.length_after_step hp
      have hq' := Cursor.length_after_step hq
      have hsteps := ih _ (by omega) hstep rfl
      by_cases hc : Text.isBlank c = true
      · have hwhite := Text.isWhiteSpace_of_isBlank hc
        rw [reachesEnd_of_white hsteady.leads hp hwhite,
          reachesEnd_of_white hsteady.leads hq hwhite, hsteps]
      · have hfalse := h.settle (by simp [hp, hc]) (by simp [hq, hc])
        rcases rel_cases (hsteady.rel _ _ hfalse.bare) with
          ⟨hnone, hnone'⟩ | ⟨last, last', hl, hl', htwin⟩
        · rw [reachesEnd_of_none hconsumes (by simp [hp]) hnone,
            reachesEnd_of_none hconsumes (by simp [hq]) hnone', hsteps]
        · have hlt := hconsumes.length_lt (List.mem_of_mem_head? hl)
          have hlt' := hconsumes.length_lt (List.mem_of_mem_head? hl')
          rw [Cursor.after_bare] at hlt hlt'
          rw [reachesEnd_of_some hconsumes hl, reachesEnd_of_some hconsumes hl', hkind,
            htwin.isStop_eq, ih _ (by omega) htwin rfl]
    · intro c s hp hc _ hstep
      have hp' := Cursor.length_after_step hp
      rw [reachesEnd_of_white hsteady.leads hp (Text.isWhiteSpace_of_isBlank hc)]
      exact ih _ (by omega) hstep rfl
    · intro c t hq hc _ hstep
      have hq' := Cursor.length_after_step hq
      rw [reachesEnd_of_white hsteady.leads hq (Text.isWhiteSpace_of_isBlank hc)]
      exact ih _ (by omega) hstep rfl

end

end Reindent
