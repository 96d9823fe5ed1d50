import Reindent.Proofs.Veiling

/-!
# Matches in texts with hidden pieces

The default patterns find the same in two texts that differ in hidden pieces
only. A match that begins in code either stays clear of the pieces, or takes
white space up to the visible part of one, where it ends in both texts. A
match that begins in a piece does not count, and it ends in the piece or in
the white space behind it, so that the search goes on as if it had not been
found.
-/

namespace Reindent

section
variable {α β : Nat → Attribute} {kind : Attribute} {m n : Nat} {p q : Cursor}

theorem Veiled.head?_after_eq (h : Veiled (p.marks α) (q.marks β)) :
    p.after.head? = q.after.head? := by
  refine h.cases_marks ?_ ?_ ?_
  · intro hp hq
    rw [hp, hq]
  · intro c s t hp hq _ _
    rw [hp, hq]
    rfl
  · intro c s t kind m n hp hq _ _ _
    rw [hp, hq]
    rfl

theorem follows_pair : Follows (Pair α β) := by
  refine ⟨?_, ?_, fun h => h.wordBefore_eq, ?_⟩
  · intro p q set h _
    rw [Cursor.sees, Cursor.sees, h.veiled.head?_after_eq]
  · intro p q set h hset hs
    rw [CharSet.isInk, Bool.and_eq_true, Bool.not_eq_true'] at hset
    obtain ⟨d, rest, hd, hcontains⟩ := Cursor.sees_iff.mp hs
    refine h.veiled.cases_marks ?_ ?_ ?_
    · simp [hd]
    · exact fun c s t _ _ _ hstep => hstep
    · -- Neither a `#` nor a space is in the set.
      intro c s t kind m n hp _ _ _ hlead
      obtain rfl : d = c := (List.cons.inj (hd.symm.trans hp)).1
      rcases hlead with rfl | ⟨rfl, -⟩
      · simp [hset.2] at hcontains
      · exact absurd (CharSet.isBlank_of_isSolid hset.1 hcontains) (by decide)
  · intro p q h
    rw [Cursor.wordAfter, Cursor.wordAfter, h.veiled.head?_after_eq]

/-- Places at which two texts go on alike: a pair, or places behind hidden pieces,
where words may end differently but none begins. -/
structure Abreast (α β : Nat → Attribute) (p q : Cursor) : Prop where
  veiled : Veiled (p.marks α) (q.marks β)
  edge : p.wordBefore false = q.wordBefore false ∨ Text.Detached p.after

theorem Pair.abreast (h : Pair α β p q) : Abreast α β p q := ⟨h.veiled, .inl h.wordBefore_eq⟩

theorem Within.abreast (h : Within α β kind m n p q) :
    Abreast α β (p.advance m) (q.advance n) :=
  ⟨h.veiled, .inr (by rw [Cursor.after_advance]; exact h.left.detached)⟩

theorem Abreast.pair (h : Abreast α β p q) {c : Char} {s : Text} (hp : p.after = c :: s)
    (hc : Unicode.isWhiteSpace c = false) : Pair α β p q := by
  refine ⟨h.veiled, h.edge.resolve_right fun hdetached => ?_⟩
  obtain rfl : c = ' ' := by simpa [Text.Detached, hp] using hdetached
  exact absurd hc (by decide)

theorem Within.advance (h : Within α β kind m n p q) {j k : Nat} (hj : j ≤ m) (hk : k ≤ n) :
    Within α β kind (m - j) (n - k) (p.advance j) (q.advance k) := by
  refine ⟨h.hidden, h.left.advance hj, h.right.advance hk, ?_⟩
  rw [← Cursor.advance_add, ← Cursor.advance_add, Nat.add_sub_cancel' hj, Nat.add_sub_cancel' hk]
  exact h.veiled

end

-- ---------------------------------------------------------------------------
-- Skipping white space
-- ---------------------------------------------------------------------------

namespace Cursor

variable {place : Cursor} {n : Nat}

theorem skip_of_isWhite (h : place.isWhite n = true) :
    place.skip .whiteSpace = (place.advance n).skip .whiteSpace := by
  induction n generalizing place with
  | zero => rfl
  | succ n ih =>
    cases hafter : place.after with
    | nil =>
      rw [advance_succ, step_of_nil hafter]
      exact ih (by simp [isWhite, hafter, Text.isAllWhiteSpace])
    | cons c rest =>
      rw [isWhite, hafter, List.take_succ_cons, Text.isAllWhiteSpace, List.all_cons,
        Bool.and_eq_true] at h
      have hsees : place.sees .whiteSpace = true := (sees_of_cons hafter).trans h.1
      rw [skip_of_sees hsees, advance_succ]
      refine ih ?_
      rw [isWhite, after_step, hafter]
      exact h.2

theorem exists_skip_eq_advance (h : place.isWhite n = false) :
    ∃ k < n, place.skip .whiteSpace = place.advance k := by
  refine ⟨_, ?_, rfl⟩
  by_contra hge
  obtain ⟨rest, hrest⟩ := List.takeWhile_prefix CharSet.whiteSpace.contains (l := place.after)
  refine Bool.eq_false_iff.mp h (List.all_eq_true.mpr fun c hc => ?_)
  rw [← hrest, List.take_append_of_le_length (Nat.le_of_not_lt hge)] at hc
  exact List.mem_takeWhile_imp (List.mem_of_mem_take hc)

theorem skip_skip (place : Cursor) (set : CharSet) :
    (place.skip set).skip set = place.skip set := by
  refine skip_of_not_sees ?_
  have hhead := List.head?_dropWhile_not set.contains place.after
  rw [sees, after_skip]
  cases hc : (place.after.dropWhile set.contains).head? with
  | none => rfl
  | some c => simpa [hc] using hhead

theorem bare_skip (place : Cursor) (set : CharSet) : (place.skip set).bare = place.bare.skip set :=
  bare_advance _

end Cursor

section
variable {α β : Nat → Attribute} {kind : Attribute} {m n : Nat} {p q : Cursor}

theorem Abreast.skip (h : Abreast α β p q) :
    Meet α β (p.skip .whiteSpace) (q.skip .whiteSpace) := by
  have past {p : Cursor} {c : Char} {s : Text} (hp : p.after = c :: s)
      (hc : Unicode.isWhiteSpace c = true) : p.skip .whiteSpace = p.step.skip .whiteSpace :=
    Cursor.skip_of_sees ((Cursor.sees_of_cons hp).trans hc)
  have here {p : Cursor} {c : Char} {s : Text} (hp : p.after = c :: s)
      (hc : Unicode.isWhiteSpace c = false) : p.skip .whiteSpace = p :=
    Cursor.skip_of_not_sees ((Cursor.sees_of_cons hp).trans hc)
  induction hlength : p.after.length using Nat.strong_induction_on generalizing p q with
  | h length ih =>
    refine h.veiled.cases_marks ?_ ?_ ?_
    · intro hp hq
      rw [Cursor.skip_of_not_sees (by simp [Cursor.sees, hp]),
        Cursor.skip_of_not_sees (by simp [Cursor.sees, hq])]
      exact .stop hp hq
    · intro c s t hp hq _ hstep
      have hshorter := Cursor.length_after_step hp
      cases hc : Unicode.isWhiteSpace c with
      | true =>
        rw [past hp hc, past hq hc]
        exact ih _ (by omega) hstep.abreast rfl
      | false =>
        rw [here hp hc, here hq hc]
        exact .pair (h.pair hp hc)
    · intro c s t kind m n hp hq _ hwithin hlead
      have hshorter := Cursor.length_after_step hp
      rcases hlead with rfl | ⟨rfl, hwhite, hidle⟩
      · have hc : Unicode.isWhiteSpace '#' = false := by decide
        rw [here hp hc, here hq hc]
        exact .pair (h.pair hp hc)
      · have hc : Unicode.isWhiteSpace ' ' = true := by decide
        rw [past hp hc, past hq hc]
        cases hm : p.step.isWhite m with
        | true =>
          have hn : q.step.isWhite n = true := hwhite ▸ hm
          rw [Cursor.skip_of_isWhite hm, Cursor.skip_of_isWhite hn]
          refine ih _ ?_ hwithin.abreast rfl
          rw [Cursor.after_advance, List.length_drop]
          omega
        | false =>
          -- Both stop at the first visible character of their piece.
          obtain ⟨hpidle, hqidle⟩ := hidle hm
          obtain ⟨j, hj, hpskip⟩ := Cursor.exists_skip_eq_advance hm
          have hn : q.step.isWhite n = false := hwhite ▸ hm
          obtain ⟨k, hk, hqskip⟩ := Cursor.exists_skip_eq_advance hn
          rw [hpskip] at hpidle ⊢
          rw [hqskip] at hqidle ⊢
          exact .within (hwithin.advance (Nat.le_of_lt hj) (Nat.le_of_lt hk))
            (Nat.sub_pos_of_lt hj) (Nat.sub_pos_of_lt hk) hpidle hqidle

-- ---------------------------------------------------------------------------
-- The parameters of a block
-- ---------------------------------------------------------------------------

theorem Hushed.head_mem {kinds : Nat → Attribute} {place : Cursor}
    (h : Hushed kinds kind (n + 1) place) :
    ∃ c rest, place.after = c :: rest ∧ c ≠ '|' ∧ c ≠ '\n' := by
  cases hafter : place.after with
  | nil =>
    have hle := h.le
    simp [hafter] at hle
  | cons c rest =>
    have hplain := h.plain c (by rw [hafter, List.take_succ_cons]; exact List.mem_cons_self)
    exact ⟨c, rest, rfl, hplain⟩

theorem Hushed.lastBar? {kinds : Nat → Attribute} {place : Cursor}
    (h : Hushed kinds kind n place) :
    Pattern.lastBar? place = Pattern.lastBar? (place.advance n) := by
  induction n generalizing place with
  | zero => rfl
  | succ n ih =>
    obtain ⟨c, rest, hafter, hbar, hfeed⟩ := h.head_mem
    rw [Pattern.lastBar?_of_cons hafter, if_neg hfeed, if_neg hbar, Option.or_none,
      Cursor.advance_succ]
    exact ih (h.advance (Nat.le_add_left 1 n))

theorem Veiled.rel_lastBar? (h : Veiled (p.marks α) (q.marks β)) :
    Option.Rel (Pair α β) (Pattern.lastBar? p) (Pattern.lastBar? q) := by
  induction hlength : p.after.length using Nat.strong_induction_on generalizing p q with
  | h length ih =>
    refine h.cases_marks ?_ ?_ ?_
    · intro hp hq
      rw [Pattern.lastBar?_of_nil hp, Pattern.lastBar?_of_nil hq]
      exact .none
    · intro c s t hp hq _ hstep
      have hshorter := Cursor.length_after_step hp
      rw [Pattern.lastBar?_of_cons hp, Pattern.lastBar?_of_cons hq]
      refine rel_or ?_ ?_
      · split
        · exact .none
        · exact ih _ (by omega) hstep.veiled rfl
      · split
        · exact .some hstep
        · exact .none
    · intro c s t kind m n hp hq _ hwithin hlead
      have hshorter := Cursor.length_after_step hp
      have hplain : c ≠ '\n' ∧ c ≠ '|' := by
        rcases hlead with rfl | ⟨rfl, -⟩ <;> decide
      rw [Pattern.lastBar?_of_cons hp, Pattern.lastBar?_of_cons hq, if_neg hplain.1,
        if_neg hplain.2, if_neg hplain.1, if_neg hplain.2, Option.or_none, Option.or_none,
        hwithin.left.lastBar?, hwithin.right.lastBar?]
      refine ih _ ?_ hwithin.veiled rfl
      rw [Cursor.after_advance, List.length_drop]
      omega

theorem Hushed.not_sees_bar {kinds : Nat → Attribute} {place : Cursor}
    (h : Hushed kinds kind n place) (hn : 0 < n) : place.sees (.single '|') = false := by
  obtain ⟨n, rfl⟩ : ∃ k, n = k + 1 := ⟨n - 1, by omega⟩
  obtain ⟨c, rest, hafter, hbar, -⟩ := h.head_mem
  rw [Cursor.sees_of_cons hafter, ← Bool.not_eq_true, CharSet.contains_single]
  exact hbar

theorem Pair.rel_blockParameters (h : Pair α β p q) :
    Option.Rel (Pair α β) (Pattern.blockParameters.ends p).head?
      (Pattern.blockParameters.ends q).head? := by
  rw [Pattern.head?_blockParameters, Pattern.head?_blockParameters]
  have hbar : (CharSet.single '|').isInk = true := by decide
  cases h.abreast.skip with
  | pair hskip =>
    rw [follows_pair.sees_eq hskip hbar]
    split
    case isTrue hs =>
      have hstep := follows_pair.step hskip hbar (follows_pair.sees_eq hskip hbar ▸ hs)
      exact hstep.veiled.rel_lastBar?
    case isFalse => exact .none
  | stop hp hq =>
    rw [if_neg (by simp [Cursor.sees, hp]), if_neg (by simp [Cursor.sees, hq])]
    exact .none
  | within hwithin hm hn _ _ =>
    rw [hwithin.left.not_sees_bar hm, hwithin.right.not_sees_bar hn]
    exact .none

end

-- ---------------------------------------------------------------------------
-- Patterns at the end of a statement
-- ---------------------------------------------------------------------------

theorem Meet.isStop_eq {α β : Nat → Attribute} {p q : Cursor} (h : Meet α β p q) :
    p.isStop α = q.isStop β := by
  rw [Cursor.isStop_eq, Cursor.isStop_eq]
  cases h with
  | pair h =>
    refine h.veiled.cases_marks ?_ ?_ ?_
    · intro hp hq
      simp [hp, hq]
    · intro c s t hp hq hkind _
      simp [hp, hq, hkind]
    · intro c s t kind m n hp hq hkind _ _
      simp [hp, hq, hkind]
  | stop hp hq => simp [hp, hq]
  | within h hm hn _ _ =>
    have hp := h.left.kind_eq 0 hm
    have hq := h.right.kind_eq 0 hn
    have hpne : p.after ≠ [] := List.ne_nil_of_length_pos (Nat.lt_of_lt_of_le hm h.left.le)
    have hqne : q.after ≠ [] := List.ne_nil_of_length_pos (Nat.lt_of_lt_of_le hn h.right.le)
    rw [Cursor.advance_zero] at hp hq
    rw [hp, hq, List.isEmpty_eq_false_iff.mpr hpne, List.isEmpty_eq_false_iff.mpr hqne]

namespace Pattern

/-- What the search through texts with hidden pieces needs to know of a pattern.
A match that begins in a piece goes no further than the white space behind the
piece. -/
structure Discreet (pattern : Pattern) : Prop where
  leads : pattern.leads = true
  rel : ∀ {α β : Nat → Attribute} {p q : Cursor}, Pair α β p q →
    Option.Rel (Meet α β) (pattern.ends p).head? (pattern.ends q).head?
  contained : ∀ {kinds : Nat → Attribute} {kind : Attribute} {n : Nat} {place last : Cursor},
    Hushed kinds kind n place → 0 < n → (pattern.ends place.bare).head? = some last →
    ∃ m, 0 < m ∧ m ≤ n ∧
      (last.skip .whiteSpace).bare = ((place.advance m).skip .whiteSpace).bare

theorem exists_advance_of_isInk {token : Pattern} (hink : token.isInk = true)
    (hleads : token.leads = true) {kinds : Nat → Attribute} {kind : Attribute} {n : Nat}
    {place last : Cursor} (h : Hushed kinds kind n place) (hlast : last ∈ token.ends place.bare) :
    ∃ m, 0 < m ∧ m ≤ n ∧ last.bare = (place.advance m).bare := by
  obtain ⟨m, hm, heq⟩ := ahead_of_mem_ends hlast
  have hlt := consumes_of_leads hleads _ last hlast
  refine ⟨m, ?_, ?_, ?_⟩
  · rcases Nat.eq_zero_or_pos m with rfl | hpos
    · have hoffset := congrArg Cursor.offset heq
      simp only [Cursor.advance_zero, Cursor.offset_bare] at hoffset hlt
      omega
    · exact hpos
  · -- The text cut off behind the piece has the same match.
    let cut : Cursor := { place.bare with after := place.after.take n }
    have hcut : Cut (place.after.drop n) place.bare cut :=
      ⟨(List.take_append_drop n place.after).symm, rfl⟩
    obtain ⟨found, -, hfound⟩ := exists_mem_of_forall₂
      ((follows_cut h.detached).forall₂_ends hink hcut) hlast
    have hlength := congrArg List.length hfound.after_eq
    rw [Cursor.Ahead.after_eq_drop heq, List.length_append, List.length_drop, List.length_drop,
      Cursor.after_bare] at hlength
    have hle := h.le
    rw [Cursor.after_bare] at hm
    omega
  · rw [heq, ← Cursor.bare_advance]
    rfl

theorem discreet_seq {token tail : Pattern} {f : Cursor → Cursor} (hink : token.isInk = true)
    (hleads : token.leads = true) (htail : ∀ place, (tail.ends place).head? = some (f place))
    (hf : ∀ {α β : Nat → Attribute} {p q : Cursor}, Pair α β p q → Meet α β (f p) (f q))
    (hquiet : ∀ {kinds : Nat → Attribute} {kind : Attribute} {n : Nat} {place last : Cursor},
      Hushed kinds kind n place → 0 < n → last ∈ token.ends place.bare →
      f last = last.skip .whiteSpace) : (Pattern.seq token tail).Discreet where
  leads := by cases token <;> simp_all [Pattern.leads]
  rel := by
    intro α β p q h
    rw [ends, ends, head?_flatMap_of_some htail, head?_flatMap_of_some htail]
    rcases rel_cases (rel_head? (follows_pair.forall₂_ends hink h)) with
      ⟨hp, hq⟩ | ⟨last, last', hp, hq, hpair⟩
    · rw [hp, hq]
      exact .none
    · rw [hp, hq]
      exact .some (hf hpair)
  contained := by
    intro kinds kind n place last h hn hlast
    rw [ends, head?_flatMap_of_some htail] at hlast
    obtain ⟨found, hfound, rfl⟩ := Option.map_eq_some_iff.mp hlast
    have hmem := List.mem_of_mem_head? hfound
    obtain ⟨m, hpos, hm, heq⟩ := exists_advance_of_isInk hink hleads h hmem
    refine ⟨m, hpos, hm, ?_⟩
    rw [hquiet h hn hmem, Cursor.skip_skip, Cursor.bare_skip, Cursor.bare_skip, heq]

theorem discreet_continuation : Rules.default.continuation.Discreet :=
  discreet_seq (by decide +kernel) (by decide +kernel) (head?_ends_star .whiteSpace)
    (fun h => h.abreast.skip) fun _ _ _ => rfl

theorem discreet_trailingComma : Rules.default.trailingComma.Discreet :=
  discreet_seq (by decide +kernel) (by decide +kernel) (head?_ends_star .whiteSpace)
    (fun h => h.abreast.skip) fun _ _ _ => rfl

theorem discreet_blockOpenerTail : Rules.default.blockOpenerTail.Discreet := by
  have hparameters (place : Cursor) :
      (Pattern.ends (.rounds blockParameters 0 (some 1) true) place) =
        blockParameters.ends place ++ [place] := by
    simp [ends, Rounds.exactly, Rounds.upTo, Rounds.prefer]
  refine discreet_seq (f := fun place =>
    ((blockParameters.ends place).head?.getD place).skip .whiteSpace) (by decide +kernel)
    (by decide +kernel) ?_ ?_ ?_
  · intro place
    rw [spaces, head?_ends_seq_star, hparameters, List.head?_append]
    cases (blockParameters.ends place).head? <;> rfl
  · intro α β p q h
    exact (rel_getD h.rel_blockParameters h).abreast.skip
  · intro kinds kind n place last h hn hlast
    rw [head?_blockParameters, h.closed 0 hn last hlast]
    rfl

theorem matchesAt_skip {pattern : Pattern} (hleads : pattern.leads = true) (place : Cursor) :
    pattern.matchesAt (place.skip .whiteSpace) = pattern.matchesAt place := by
  induction place using Cursor.induction_after with
  | stop place h => rw [Cursor.skip_of_not_sees (by simp [Cursor.sees, h])]
  | more place h ih =>
    cases hs : place.sees .whiteSpace with
    | false => rw [Cursor.skip_of_not_sees hs]
    | true =>
      rw [Cursor.skip_of_sees hs, ih]
      refine (matchesAt_of_none (consumes_of_leads hleads) h ?_).symm
      rw [ends_of_leads (p := place.bare) hleads hs, List.head?_nil]

namespace Discreet

variable {pattern : Pattern} {α β : Nat → Attribute} {kind : Attribute} {m n : Nat}
  {p q place : Cursor}

/-- A search comes out of a hidden piece with nothing found. -/
theorem reachesEnd_hushed (hpattern : pattern.Discreet) {kinds : Nat → Attribute}
    (hkind : kind.isCode = false) (h : Hushed kinds kind n place) :
    pattern.reachesEnd kinds place = pattern.reachesEnd kinds (place.advance n) := by
  have hconsumes := consumes_of_leads hpattern.leads
  induction n using Nat.strong_induction_on generalizing place with
  | h n ih =>
    rcases Nat.eq_zero_or_pos n with rfl | hn
    · rfl
    have hne : place.after ≠ [] := List.ne_nil_of_length_pos (Nat.lt_of_lt_of_le hn h.le)
    have later {m : Nat} (hpos : 0 < m) (hm : m ≤ n) :
        pattern.reachesEnd kinds (place.advance m) =
          pattern.reachesEnd kinds (place.advance n) := by
      have hrest := ih (n - m) (by omega) (h.advance hm)
      rwa [← Cursor.advance_add, Nat.add_sub_cancel' hm] at hrest
    cases hhead : (pattern.ends place.bare).head? with
    | none =>
      rw [reachesEnd_of_none hconsumes hne hhead]
      exact later Nat.one_pos hn
    | some last =>
      obtain ⟨m, hpos, hm, heq⟩ := hpattern.contained h hn hhead
      have hcode : (kinds place.offset).isCode = false := by
        have hzero := h.kind_eq 0 hn
        rw [Cursor.advance_zero] at hzero
        rw [hzero, hkind]
      have hbehind : pattern.matchesAt last = pattern.matchesAt (place.advance m) := by
        rw [← matchesAt_skip hpattern.leads last, ← matchesAt_bare, heq, matchesAt_bare,
          matchesAt_skip hpattern.leads]
      have hfinish : last.finish = (place.advance m).finish := by
        rw [(ahead_of_mem_ends (List.mem_of_mem_head? hhead)).finish_eq, Cursor.finish_bare,
          Cursor.finish_advance]
      rw [reachesEnd_of_some hconsumes hhead, hcode, Bool.false_and, Bool.false_or,
        ← later hpos hm, reachesEnd, reachesEnd, hbehind, hfinish]

theorem reachesEnd_within (hpattern : pattern.Discreet) (h : Within α β kind m n p q)
    (hrest : pattern.reachesEnd α (p.advance m) = pattern.reachesEnd β (q.advance n)) :
    pattern.reachesEnd α p = pattern.reachesEnd β q := by
  rw [hpattern.reachesEnd_hushed h.hidden h.left, hpattern.reachesEnd_hushed h.hidden h.right,
    hrest]

theorem reachesEnd_step (hpattern : pattern.Discreet) (h : Abreast α β p q) {c : Char} {s t : Text}
    (hp : p.after = c :: s) (hq : q.after = c :: t) (hkind : α p.offset = β q.offset)
    (hstep : pattern.reachesEnd α p.step = pattern.reachesEnd β q.step)
    (hjump : ∀ last last', last.after.length < p.after.length → Meet α β last last' →
      pattern.reachesEnd α last = pattern.reachesEnd β last') :
    pattern.reachesEnd α p = pattern.reachesEnd β q := by
  have hconsumes := consumes_of_leads hpattern.leads
  cases hc : Unicode.isWhiteSpace c with
  | true => rw [reachesEnd_of_white hpattern.leads hp hc, reachesEnd_of_white hpattern.leads hq hc,
      hstep]
  | false =>
    rcases rel_cases (hpattern.rel (h.pair hp hc).bare) with
      ⟨hnone, hnone'⟩ | ⟨last, last', hl, hl', hmeet⟩
    · rw [reachesEnd_of_none hconsumes (by simp [hp]) hnone,
        reachesEnd_of_none hconsumes (by simp [hq]) hnone', hstep]
    · have hlt := hconsumes.length_lt (List.mem_of_mem_head? hl)
      rw [reachesEnd_of_some hconsumes hl, reachesEnd_of_some hconsumes hl', hkind, hmeet.isStop_eq,
        hjump last last' hlt hmeet]

theorem reachesEnd_eq (hpattern : pattern.Discreet) (h : Abreast α β p q) :
    pattern.reachesEnd α p = pattern.reachesEnd β q := by
  have hconsumes := consumes_of_leads hpattern.leads
  have hnil {p q : Cursor} (hp : p.after = []) (hq : q.after = []) :
      pattern.reachesEnd α p = pattern.reachesEnd β q := by
    rw [reachesEnd_of_nil hconsumes hp, reachesEnd_of_nil hconsumes hq]
  -- A match jumps ahead, and a hidden piece is passed as a whole.
  induction hlength : p.after.length using Nat.strong_induction_on generalizing p q with
  | h length ih =>
    have behind {kind : Attribute} {m n : Nat} {p q : Cursor} (h : Within α β kind m n p q)
        (hp : p.after.length < length) : pattern.reachesEnd α p = pattern.reachesEnd β q := by
      refine hpattern.reachesEnd_within h (ih _ ?_ h.abreast rfl)
      rw [Cursor.after_advance, List.length_drop]
      omega
    have jump (last last' : Cursor) (hlt : last.after.length < p.after.length)
        (hmeet : Meet α β last last') :
        pattern.reachesEnd α last = pattern.reachesEnd β last' := by
      rw [hlength] at hlt
      cases hmeet with
      | pair hpair => exact ih _ hlt hpair.abreast rfl
      | stop hp hq => exact hnil hp hq
      | within hwithin _ _ _ _ => exact behind hwithin hlt
    refine h.veiled.cases_marks hnil ?_ ?_
    · intro c s t hp hq hkind hstep
      have hshorter := Cursor.length_after_step hp
      exact hpattern.reachesEnd_step h hp hq hkind (ih _ (by omega) hstep.abreast rfl) jump
    · intro c s t kind m n hp hq hkind hwithin _
      have hshorter := Cursor.length_after_step hp
      exact hpattern.reachesEnd_step h hp hq hkind (behind hwithin (by omega)) jump

end Discreet

end Pattern

-- ---------------------------------------------------------------------------
-- Patterns at the start of a text
-- ---------------------------------------------------------------------------

theorem Veiled.lineFeed_mem_iff {s t : Marks} (h : Veiled s t) :
    '\n' ∈ plainText s ↔ '\n' ∈ plainText t := by
  induction h with
  | nil => rfl
  | same c kind _ ih =>
    rw [plainText, plainText, List.map_cons, List.map_cons, List.mem_cons, List.mem_cons]
    exact or_congr_right ih
  | veil hveil _ _ ih =>
    have hleft := hveil.tame_left.lineFeed
    have hright := hveil.tame_right.lineFeed
    simp only [plainText, List.map_cons, List.map_append, List.mem_cons, List.mem_append] at *
    simp [hleft, hright, ih]

section
variable {α β : Nat → Attribute} {s t : Text}

theorem Pair.start (h : Veiled (marksFrom α 0 s) (marksFrom β 0 t)) :
    Pair α β (Cursor.start s) (Cursor.start t) := ⟨h, rfl⟩

theorem Pattern.ends_of_nil {pattern : Pattern} (hleads : pattern.leads = true) {place : Cursor}
    (h : place.after = []) : pattern.ends place = [] := by
  rw [List.eq_nil_iff_forall_not_mem]
  intro last hlast
  have hlt := (consumes_of_leads hleads).length_lt hlast
  simp [h] at hlt

theorem Veiled.isMatch_blockStart (h : Veiled (marksFrom α 0 s) (marksFrom β 0 t)) :
    Rules.default.blockStart.isMatch s = Rules.default.blockStart.isMatch t := by
  have hleads : Rules.opener.leads = true := by decide +kernel
  have hink : Rules.opener.isInk = true := by decide +kernel
  rw [Bool.eq_iff_iff, Rules.blockStart_default, Pattern.isMatch_textStart,
    Pattern.isMatch_textStart, Pattern.ends_spaces_seq hleads, Pattern.ends_spaces_seq hleads]
  refine not_congr ?_
  cases (Pair.start h).abreast.skip with
  | pair hskip => exact Rules.eq_nil_iff_of_forall₂ (follows_pair.forall₂_ends hink hskip)
  | stop hp hq => rw [Pattern.ends_of_nil hleads hp, Pattern.ends_of_nil hleads hq]
  | within _ _ _ hp hq => rw [hp.opener, hq.opener]

theorem Veiled.isMatch_blockEnd (h : Veiled (marksFrom α 0 s) (marksFrom β 0 t)) :
    Rules.default.blockEnd.isMatch s = Rules.default.blockEnd.isMatch t := by
  have hleads : (Pattern.seq Rules.closer Rules.closerTail).leads = true := by decide +kernel
  have hink : Rules.closer.isInk = true := by decide +kernel
  have htail (p q : Cursor) (h : Pair α β p q) :
      Rules.closerTail.ends p = [] ↔ Rules.closerTail.ends q = [] := by
    have hfeed := h.veiled.lineFeed_mem_iff
    rw [Cursor.marks, Cursor.marks, plainText_marksFrom, plainText_marksFrom] at hfeed
    rw [Rules.ends_closerTail_eq_nil, Rules.ends_closerTail_eq_nil, hfeed]
  rw [Bool.eq_iff_iff, Rules.blockEnd_default, Pattern.isMatch_textStart,
    Pattern.isMatch_textStart, Pattern.ends_spaces_seq hleads, Pattern.ends_spaces_seq hleads]
  refine not_congr ?_
  cases (Pair.start h).abreast.skip with
  | pair hskip =>
    exact Rules.flatMap_eq_nil_iff_of_forall₂ htail (follows_pair.forall₂_ends hink hskip)
  | stop hp hq => rw [Pattern.ends_of_nil hleads hp, Pattern.ends_of_nil hleads hq]
  | within _ _ _ hp hq => simp [Pattern.ends, hp.closer, hq.closer]

end

theorem Pattern.hash_mem_of_mem_ends {pattern : Pattern} (hink : pattern.isInk = true)
    {place last : Cursor} (h : '#' ∈ place.after) (hlast : last ∈ pattern.ends place) :
    '#' ∈ last.after := by
  have hfollows : Follows fun p q => p = q ∧ '#' ∈ p.after := by
    refine ⟨fun h _ => by rw [h.1], ?_, fun h => by rw [h.1], fun h => by rw [h.1]⟩
    rintro p q set ⟨rfl, hmem⟩ hset hs
    obtain ⟨c, rest, hafter, hc⟩ := Cursor.sees_iff.mp hs
    rw [CharSet.isInk, Bool.and_eq_true, Bool.not_eq_true'] at hset
    refine ⟨rfl, ?_⟩
    rw [Cursor.after_step, hafter, List.tail_cons]
    rw [hafter] at hmem
    refine (List.mem_cons.mp hmem).resolve_left ?_
    rintro rfl
    simp [hset.2] at hc
  obtain ⟨found, -, rfl, hmem⟩ := exists_mem_of_forall₂
    (hfollows.forall₂_ends hink (p := place) ⟨rfl, h⟩) hlast
  exact hmem

theorem Rules.blockEndMatch_ne_of_hash {text : Text} (h : '#' ∈ text) :
    Rules.default.blockEndMatch text ≠ some true := by
  have hleads : (Pattern.seq closer closerTail).leads = true := by decide +kernel
  have hink : closer.isInk = true := by decide +kernel
  intro hmatch
  obtain ⟨found, hfound, htrailing⟩ := Option.map_eq_some_iff.mp hmatch
  rw [blockEnd_default, Pattern.find?_textStart, Pattern.matchAt?] at hfound
  obtain ⟨last, hlast, rfl⟩ := Option.map_eq_some_iff.mp hfound
  have hstart : (Look.textStart.holds (Cursor.start text)) = true := rfl
  have hmem := List.mem_of_mem_head? hlast
  rw [Pattern.ends, Pattern.ends, if_pos hstart, List.flatMap_singleton,
    Pattern.ends_spaces_seq hleads, Pattern.ends, List.mem_flatMap] at hmem
  obtain ⟨middle, hmiddle, hmem⟩ := hmem
  -- The closer ends before the comment.
  have hhash : '#' ∈ ((Cursor.start text).skip .whiteSpace).after := by
    rw [Cursor.after_skip]
    have hsplit := List.takeWhile_append_dropWhile (p := CharSet.whiteSpace.contains) (l := text)
    rw [← hsplit] at h
    refine (List.mem_append.mp h).resolve_left fun hwhite => ?_
    exact absurd (List.mem_takeWhile_imp hwhite) (by decide)
  have hrest := Pattern.hash_mem_of_mem_ends hink hhash hmiddle
  -- What follows it goes to the end of the text.
  rw [closerTail, Pattern.ends, List.mem_flatMap] at hmem
  obtain ⟨inner, hinner, hmem⟩ := hmem
  obtain ⟨stop, hstop, rfl⟩ := List.mem_map.mp hinner
  rw [Pattern.ends] at hmem
  split at hmem
  case isFalse => simp at hmem
  case isTrue hend =>
    obtain rfl := List.mem_singleton.mp hmem
    have hafter : stop.after = [] := by simpa [Look.holds] using hend
    have hfinish : middle.finish = stop.offset := by
      rw [← (Pattern.ahead_of_mem_ends hstop).finish_eq, Cursor.offset_eq_finish_iff.mpr hafter]
    have hsame : middle.offset = stop.offset := by
      simpa [Match.group?, trailingGroup] using htrailing
    have hnil := Cursor.offset_eq_finish_iff.mp (hsame.trans hfinish.symm)
    simp [hnil] at hrest

-- ---------------------------------------------------------------------------
-- Open brackets at the end of a text
-- ---------------------------------------------------------------------------

def endsLoose : Text → Bool
  | [] => false
  | c :: rest => (c == '[' || c == '{') && Text.isAllWhiteSpace rest || endsLoose rest

theorem Pattern.ends_toEnd_ne_nil (place : Cursor) :
    (Pattern.seq spaces (.look .textEnd)).ends place ≠ [] ↔
      Text.isAllWhiteSpace place.after = true := by
  refine ⟨fun h => ?_, fun h => List.ne_nil_of_mem (mem_ends_toEnd h)⟩
  induction place using Cursor.induction_after with
  | stop place hafter => simp [hafter, Text.isAllWhiteSpace]
  | more place hne ih =>
    obtain ⟨c, rest, hafter⟩ := List.exists_cons_of_ne_nil hne
    rw [ends, spaces, ends_star, List.flatMap_append] at h
    have hhere : (Pattern.look .textEnd).ends place = [] := by simp [ends, Look.holds, hafter]
    rw [List.flatMap_singleton, hhere, List.append_nil] at h
    split at h
    case isTrue hs =>
      have hrest := ih h
      rw [Cursor.after_step, hafter, List.tail_cons] at hrest
      rw [hafter, Text.isAllWhiteSpace, List.all_cons, Bool.and_eq_true]
      exact ⟨(Cursor.sees_of_cons hafter).symm.trans hs, hrest⟩
    case isFalse => simp at h

theorem Rules.looseOpener_default : Rules.default.looseOpener =
    .seq (Pattern.eitherChar '[' '{') (.seq Pattern.spaces (.look .textEnd)) := rfl

theorem isMatch_looseOpener_eq (text : Text) :
    Rules.default.looseOpener.isMatch text = endsLoose text := by
  have hset (c : Char) : (CharSet.union (.union .empty (.single '[')) (.single '{')).contains c =
      (c == '[' || c == '{') := by
    have hempty : CharSet.empty.contains c = false := rfl
    rw [Bool.eq_iff_iff, CharSet.contains, CharSet.contains, hempty, Bool.false_or,
      Bool.or_eq_true, CharSet.contains_single, CharSet.contains_single]
    simp
  have hfind (before : Option Char) (offset : Nat) :
      (Rules.default.looseOpener.findFrom? before offset text).isSome = endsLoose text := by
    induction text generalizing before offset with
    | nil => rfl
    | cons c rest ih =>
      have hhere : (Rules.default.looseOpener.matchAt? ⟨before, c :: rest, offset, []⟩).isSome =
          ((c == '[' || c == '{') && Text.isAllWhiteSpace rest) := by
        have htail := Pattern.ends_toEnd_ne_nil (Cursor.step ⟨before, c :: rest, offset, []⟩)
        rw [Bool.eq_iff_iff, Bool.and_eq_true, Pattern.matchAt?, Option.isSome_map,
          List.isSome_head?, Rules.looseOpener_default, Pattern.ends, Pattern.eitherChar,
          Pattern.ends_char, Cursor.sees_of_cons rfl, hset]
        cases c == '[' || c == '{' <;> simp [htail]
      rw [Pattern.findFrom?, endsLoose, ← ih (some c) (offset + c.utf8Size), ← hhere]
      cases Rules.default.looseOpener.matchAt? ⟨before, c :: rest, offset, []⟩ <;> rfl
  exact hfind none 0

theorem Text.Quiet.endsLoose {text : Text} (h : text.Quiet) : endsLoose text = false := by
  rw [← isMatch_looseOpener_eq, ← Bool.not_eq_true]
  intro hfound
  obtain ⟨n, hn, hends⟩ := Pattern.isMatch_iff.mp hfound
  refine Bool.eq_false_iff.mp h.opener (Pattern.isMatch_iff.mpr ⟨n, hn, ?_⟩)
  rw [Rules.looseOpener_default, Pattern.ends] at hends
  rw [Pattern.trailingOpener, Pattern.ends, Pattern.ends, List.flatMap_append]
  exact List.append_ne_nil_of_right_ne_nil _ hends

theorem endsLoose_of_isAllWhiteSpace {text : Text} (h : Text.isAllWhiteSpace text = true) :
    endsLoose text = false := by
  induction text with
  | nil => rfl
  | cons c rest ih =>
    rw [Text.isAllWhiteSpace, List.all_cons, Bool.and_eq_true] at h
    have hplain : (c == '[' || c == '{') = false := by
      by_contra hbracket
      rw [Bool.not_eq_false, Bool.or_eq_true, beq_iff_eq, beq_iff_eq] at hbracket
      rcases hbracket with rfl | rfl <;> exact absurd h.1 (by decide +kernel)
    rw [endsLoose, hplain, ih h.2]
    rfl

theorem endsLoose_append (u s : Text) :
    endsLoose (u ++ s) = (endsLoose u && Text.isAllWhiteSpace s || endsLoose s) := by
  induction u with
  | nil => rfl
  | cons c u ih =>
    simp [endsLoose, ih, Text.isAllWhiteSpace, Bool.and_or_distrib_right, Bool.or_assoc,
      Bool.and_assoc]

theorem Veiled.isAllWhiteSpace_eq {s t : Marks} (h : Veiled s t) :
    Text.isAllWhiteSpace (plainText s) = Text.isAllWhiteSpace (plainText t) := by
  induction h with
  | nil => rfl
  | same c kind _ ih => exact congrArg (Unicode.isWhiteSpace c && ·) ih
  | veil hveil _ _ ih =>
    rcases hveil.lead with rfl | ⟨rfl, -, -, hwhite⟩
    · rfl
    · simp only [plainText, Text.isAllWhiteSpace, List.map_cons, List.map_append, List.all_cons,
        List.all_append] at *
      rw [hwhite, ih]

end Reindent
