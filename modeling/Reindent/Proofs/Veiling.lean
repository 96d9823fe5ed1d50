import Reindent.Proofs.StretchedMatches

/-!
# Hidden pieces of a text

A comment and a line of a here document are part of the text of a statement,
though nothing in them is code. Two texts that differ in such pieces only are
followed side by side: places outside of the pieces have a counterpart in the
other text, and a search that gets into a piece comes out of it at its end.

A piece must be tame for this: it has no bar to which the parameters of a
block could be extended, and it does not end in what opens a block, so that
no parameters behind it are taken along. What is said of patterns holds for
those that take neither white space nor a `#`.
-/

namespace Reindent

-- ---------------------------------------------------------------------------
-- Patterns on related places
-- ---------------------------------------------------------------------------

def CharSet.isInk (set : CharSet) : Bool := set.isSolid && !set.contains '#'

def Pattern.isInk : Pattern → Bool
  | .empty | .look (.wordBoundary false) => true
  | .char set => set.isInk
  | .seq a b | .alt a b => a.isInk && b.isInk
  | _ => false

/-- Related places see the same as far as patterns without white space and `#` can
tell, and stay related behind what these take. -/
structure Follows (R : Cursor → Cursor → Prop) : Prop where
  sees_eq : ∀ {p q : Cursor} {set : CharSet}, R p q → set.isInk = true → p.sees set = q.sees set
  step : ∀ {p q : Cursor} {set : CharSet}, R p q → set.isInk = true → p.sees set = true →
    R p.step q.step
  wordBefore_eq : ∀ {p q : Cursor}, R p q → p.wordBefore false = q.wordBefore false
  wordAfter_eq : ∀ {p q : Cursor}, R p q → p.wordAfter false = q.wordAfter false

theorem Follows.forall₂_ends {R : Cursor → Cursor → Prop} (hR : Follows R) {pattern : Pattern}
    (hink : pattern.isInk = true) {p q : Cursor} (h : R p q) :
    List.Forall₂ R (pattern.ends p) (pattern.ends q) := by
  induction pattern generalizing p q with
  | empty => exact .cons h .nil
  | char set =>
    rw [Pattern.ends_char, Pattern.ends_char, hR.sees_eq h hink]
    split
    case isTrue hs => exact .cons (hR.step h hink (hR.sees_eq h hink ▸ hs)) .nil
    case isFalse => exact .nil
  | look condition =>
    have hholds : condition.holds p = condition.holds q := by
      match condition, hink with
      | .wordBoundary false, _ =>
        simp only [Look.holds, hR.wordBefore_eq h, hR.wordAfter_eq h]
    simp only [Pattern.ends, hholds]
    split
    · exact .cons h .nil
    · exact .nil
  | seq a b iha ihb =>
    simp only [Pattern.isInk, Bool.and_eq_true] at hink
    exact List.rel_flatMap (iha hink.1 h) fun _ _ h => ihb hink.2 h
  | alt a b iha ihb =>
    simp only [Pattern.isInk, Bool.and_eq_true] at hink
    exact List.rel_append (iha hink.1 h) (ihb hink.2 h)
  | group name a => simp [Pattern.isInk] at hink
  | rounds a low high greedy => simp [Pattern.isInk] at hink

theorem Pattern.isSome_findFrom? {pattern : Pattern} (place : Cursor) :
    (pattern.findFrom? place.before place.offset place.after).isSome = true ↔
      ∃ n ≤ place.after.length, pattern.ends (place.bare.advance n) ≠ [] := by
  have hhere (place : Cursor) :
      (pattern.matchAt? place.bare).isSome = true ↔ pattern.ends place.bare ≠ [] := by
    rw [matchAt?, Option.isSome_map, List.isSome_head?]
  induction place using Cursor.induction_after with
  | stop place h =>
    have hbare : place.bare = ⟨place.before, [], place.offset, []⟩ := by rw [Cursor.bare, h]
    rw [h, findFrom?, ← hbare, hhere]
    simp
  | more place h ih =>
    obtain ⟨c, rest, hafter⟩ := List.exists_cons_of_ne_nil h
    have hbare : place.bare = ⟨place.before, c :: rest, place.offset, []⟩ := by
      rw [Cursor.bare, hafter]
    have hstep : place.step = ⟨some c, rest, place.offset + c.utf8Size, place.groups⟩ := by
      rw [Cursor.step, hafter]
    rw [hstep] at ih
    rw [hafter, findFrom?, ← hbare]
    cases hfound : pattern.matchAt? place.bare with
    | some found =>
      have hends := (hhere place).mp (by rw [hfound]; rfl)
      exact ⟨fun _ => ⟨0, Nat.zero_le _, hends⟩, fun _ => rfl⟩
    | none =>
      have hends : ¬ pattern.ends place.bare ≠ [] := by
        rw [← hhere, hfound]
        simp
      refine ih.trans ?_
      rw [← hstep, Cursor.bare_step, Cursor.after_step, hafter, List.tail_cons]
      constructor
      · rintro ⟨n, hn, hne⟩
        exact ⟨n + 1, Nat.succ_le_succ hn, hne⟩
      · rintro ⟨n, hn, hne⟩
        cases n with
        | zero => exact absurd hne hends
        | succ n => exact ⟨n, Nat.le_of_succ_le_succ hn, hne⟩

theorem Pattern.isMatch_iff {pattern : Pattern} {text : Text} :
    pattern.isMatch text = true ↔
      ∃ n ≤ text.length, pattern.ends ((Cursor.start text).advance n) ≠ [] :=
  isSome_findFrom? (Cursor.start text)

-- ---------------------------------------------------------------------------
-- Tame texts
-- ---------------------------------------------------------------------------

def Pattern.trailingOpener : Pattern :=
  .seq (.alt (wholeWord "do") (eitherChar '[' '{')) (.seq spaces (.look .textEnd))

/-- A text that leads no pattern astray from what stands before or behind it. -/
structure Text.Quiet (text : Text) : Prop where
  bar : '|' ∉ text
  lineFeed : '\n' ∉ text
  backslash : Text.endsInBackslash text = false
  opener : Pattern.trailingOpener.isMatch text = false

instance : DecidablePred Text.Quiet := fun text =>
  decidable_of_iff ('|' ∉ text ∧ '\n' ∉ text ∧ Text.endsInBackslash text = false ∧
      Pattern.trailingOpener.isMatch text = false)
    ⟨fun ⟨h₁, h₂, h₃, h₄⟩ => ⟨h₁, h₂, h₃, h₄⟩, fun h => ⟨h.bar, h.lineFeed, h.backslash, h.opener⟩⟩

def Pattern.trailingTail : Pattern := .seq tailOpener (.seq spaces (.look .textEnd))

/-- A text that gives no block parameters and takes none. Unlike a quiet one it may
end in an open bracket. -/
structure Text.Tame (text : Text) : Prop where
  bar : '|' ∉ text
  lineFeed : '\n' ∉ text
  backslash : Text.endsInBackslash text = false
  opener : Pattern.trailingTail.isMatch text = false

instance : DecidablePred Text.Tame := fun text =>
  decidable_of_iff ('|' ∉ text ∧ '\n' ∉ text ∧ Text.endsInBackslash text = false ∧
      Pattern.trailingTail.isMatch text = false)
    ⟨fun ⟨h₁, h₂, h₃, h₄⟩ => ⟨h₁, h₂, h₃, h₄⟩, fun h => ⟨h.bar, h.lineFeed, h.backslash, h.opener⟩⟩

namespace Pattern

theorem mem_ends_eitherChar {a b : Char} {place last : Cursor}
    (h : last ∈ (Pattern.char (.single b)).ends place) : last ∈ (eitherChar a b).ends place := by
  rw [ends_char] at h
  split at h
  case isTrue hs =>
    obtain ⟨c, rest, hafter, hc⟩ := Cursor.sees_iff.mp hs
    have hsees : place.sees (.union (.union .empty (.single a)) (.single b)) = true := by
      rw [Cursor.sees_of_cons hafter, CharSet.contains, hc, Bool.or_true]
    rwa [eitherChar, ends_char, if_pos hsees]
  case isFalse => simp at h

theorem mem_ends_trailingOpener {place last : Cursor} (h : last ∈ trailingTail.ends place) :
    last ∈ trailingOpener.ends place := by
  obtain ⟨middle, hmiddle, hlast⟩ := List.mem_flatMap.mp h
  refine List.mem_flatMap.mpr ⟨middle, ?_, hlast⟩
  rcases List.mem_append.mp hmiddle with hdo | hbrace
  · exact List.mem_append_left _ hdo
  · exact List.mem_append_right _ (mem_ends_eitherChar hbrace)

end Pattern

theorem Text.Quiet.tame {text : Text} (h : text.Quiet) : text.Tame := by
  refine ⟨h.bar, h.lineFeed, h.backslash, Bool.eq_false_iff.mpr fun hfound => ?_⟩
  obtain ⟨n, hn, hends⟩ := Pattern.isMatch_iff.mp hfound
  obtain ⟨last, hlast⟩ := List.exists_mem_of_ne_nil _ hends
  have hopener := List.ne_nil_of_mem (Pattern.mem_ends_trailingOpener hlast)
  exact Bool.eq_false_iff.mp h.opener (Pattern.isMatch_iff.mpr ⟨n, hn, hopener⟩)

/-- A line that neither opens nor closes a block. -/
structure Text.Idle (text : Text) : Prop where
  opener : Rules.default.blockStart.isMatch text = false
  closer : Rules.default.blockEnd.isMatch text = false

instance : DecidablePred Text.Idle := fun text =>
  decidable_of_iff (Rules.default.blockStart.isMatch text = false ∧
      Rules.default.blockEnd.isMatch text = false)
    ⟨fun ⟨h₁, h₂⟩ => ⟨h₁, h₂⟩, fun h => ⟨h.opener, h.closer⟩⟩

structure Cursor.Idle (place : Cursor) : Prop where
  opener : Rules.opener.ends place = []
  closer : Rules.closer.ends place = []

theorem Text.drop_length_takeWhile (p : Char → Bool) (text : Text) :
    text.drop (text.takeWhile p).length = text.dropWhile p := by
  have hsplit := List.takeWhile_append_dropWhile (p := p) (l := text)
  exact (congrArg (List.drop _) hsplit.symm).trans (List.drop_left' rfl)

theorem Cursor.after_skip (place : Cursor) (set : CharSet) :
    (place.skip set).after = place.after.dropWhile set.contains := by
  rw [skip, after_advance, Text.drop_length_takeWhile]

theorem Text.Idle.skip_start {text : Text} (h : text.Idle) (hfeed : '\n' ∉ text) :
    ((Cursor.start text).skip .whiteSpace).Idle := by
  have hopener : Rules.opener.leads = true := by decide +kernel
  have hcloser : (Pattern.seq Rules.closer Rules.closerTail).leads = true := by decide +kernel
  constructor
  · by_contra hends
    have hfound := (Pattern.isMatch_textStart (.seq Pattern.spaces Rules.opener) text).mpr
    rw [Pattern.ends_spaces_seq hopener] at hfound
    exact absurd (hfound hends) (Bool.eq_false_iff.mp h.opener)
  · by_contra hends
    have hfound := (Pattern.isMatch_textStart
      (.seq Pattern.spaces (.seq Rules.closer Rules.closerTail)) text).mpr
    rw [Pattern.ends_spaces_seq hcloser] at hfound
    refine absurd (hfound ?_) (Bool.eq_false_iff.mp h.closer)
    obtain ⟨last, rest, hlast⟩ := List.exists_cons_of_ne_nil hends
    rw [Pattern.ends, hlast, List.flatMap_cons]
    obtain ⟨n, -, hn⟩ := Pattern.ahead_of_mem_ends (hlast ▸ List.mem_cons_self)
    have htail : Rules.closerTail.ends last ≠ [] := by
      rw [ne_eq, Rules.ends_closerTail_eq_nil, Cursor.Ahead.after_eq_drop hn, Cursor.after_skip]
      exact fun hmem => hfeed ((List.dropWhile_suffix _).mem (List.mem_of_mem_drop hmem))
    simp [htail]

-- ---------------------------------------------------------------------------
-- Texts that are cut off
-- ---------------------------------------------------------------------------

/-- Nothing, or what a space parts from the text before it. -/
def Text.Detached (text : Text) : Prop := text.head?.all (· == ' ') = true

/-- The same place in a text and in what is left of it when `s` is cut off at
its end. -/
structure Cut (s : Text) (p q : Cursor) : Prop where
  after_eq : p.after = q.after ++ s
  wordBefore_eq : p.wordBefore false = q.wordBefore false

section
variable {s : Text} {p q : Cursor}

theorem Cut.step (h : Cut s p q) (hq : q.after ≠ []) : Cut s p.step q.step := by
  obtain ⟨c, rest, hrest⟩ := List.exists_cons_of_ne_nil hq
  have hp : p.after = c :: (rest ++ s) := by rw [h.after_eq, hrest, List.cons_append]
  refine ⟨?_, ?_⟩
  · rw [Cursor.after_step, Cursor.after_step, hp, hrest, List.tail_cons, List.tail_cons]
  · rw [Twin.wordBefore_step hp, Twin.wordBefore_step hrest]

theorem Cut.advance (h : Cut s p q) {n : Nat} (hn : n ≤ q.after.length) :
    Cut s (p.advance n) (q.advance n) := by
  induction n generalizing p q with
  | zero => exact h
  | succ n ih =>
    have hne : q.after ≠ [] := List.ne_nil_of_length_pos (Nat.lt_of_lt_of_le n.succ_pos hn)
    refine ih (h.step hne) ?_
    rw [Cursor.after_step, List.length_tail]
    omega

theorem Cut.bare (h : Cut s p q) : Cut s p.bare q.bare := ⟨h.after_eq, h.wordBefore_eq⟩

theorem follows_cut (hs : s.Detached) : Follows (Cut s) := by
  -- Where the shorter text ends the longer one has a space or ends too.
  have hend {p q : Cursor} (h : Cut s p q) (hq : q.after = []) {f : Char → Bool}
      (hf : f ' ' = false) : p.after.head?.any f = q.after.head?.any f := by
    rw [h.after_eq, hq, List.nil_append]
    cases s with
    | nil => rfl
    | cons c rest =>
      obtain rfl : c = ' ' := by simpa [Text.Detached] using hs
      simp [hf]
  have hsame {p q : Cursor} (h : Cut s p q) {f : Char → Bool} (hf : f ' ' = false) :
      p.after.head?.any f = q.after.head?.any f := by
    cases hq : q.after with
    | nil => rw [← hq, hend h hq hf]
    | cons c rest => rw [h.after_eq, hq, List.cons_append, List.head?_cons, List.head?_cons]
  have hspace {set : CharSet} (hset : set.isInk = true) : set.contains ' ' = false := by
    rw [CharSet.isInk, Bool.and_eq_true] at hset
    by_contra hc
    have hblank := CharSet.isBlank_of_isSolid hset.1 (by simpa using hc)
    exact absurd hblank (by decide)
  have hsees {p q : Cursor} {set : CharSet} (h : Cut s p q) (hset : set.isInk = true) :
      p.sees set = q.sees set := hsame h (hspace hset)
  refine ⟨hsees, ?_, fun h => h.wordBefore_eq, fun h => hsame h (by decide +kernel)⟩
  intro p q set h hset hs
  rw [hsees h hset] at hs
  obtain ⟨c, rest, hq, -⟩ := Cursor.sees_iff.mp hs
  exact h.step (by simp [hq])

end

theorem exists_mem_of_forall₂ {R : Cursor → Cursor → Prop} {ps qs : List Cursor}
    (h : List.Forall₂ R ps qs) {p : Cursor} (hp : p ∈ ps) : ∃ q ∈ qs, R p q := by
  induction h with
  | nil => simp at hp
  | cons hpq _ ih =>
    rcases List.mem_cons.mp hp with rfl | hp
    · exact ⟨_, List.mem_cons_self, hpq⟩
    · obtain ⟨q, hq, hR⟩ := ih hp
      exact ⟨q, List.mem_cons_of_mem _ hq, hR⟩

-- ---------------------------------------------------------------------------
-- Places in a hidden piece
-- ---------------------------------------------------------------------------

open Pattern in
/-- The next `n` characters are the rest of a tame piece of one kind. What opens a
block there does not see a bar behind it. -/
structure Hushed (kinds : Nat → Attribute) (kind : Attribute) (n : Nat) (place : Cursor) :
    Prop where
  le : n ≤ place.after.length
  kind_eq : ∀ m < n, kinds (place.advance m).offset = kind
  plain : ∀ c ∈ place.after.take n, c ≠ '|' ∧ c ≠ '\n'
  detached : Text.Detached (place.after.drop n)
  closed : ∀ m < n, ∀ last ∈ tailOpener.ends (place.advance m).bare,
    (last.skip .whiteSpace).sees (.single '|') = false

namespace Hushed

variable {kinds : Nat → Attribute} {kind : Attribute} {n : Nat} {place : Cursor}

theorem advance (h : Hushed kinds kind n place) {m : Nat} (hm : m ≤ n) :
    Hushed kinds kind (n - m) (place.advance m) := by
  have hadd (k : Nat) : (place.advance m).advance k = place.advance (m + k) :=
    (Cursor.advance_add m k).symm
  refine ⟨?_, fun k hk => ?_, fun c hc => ?_, ?_, fun k hk => ?_⟩
  · rw [Cursor.after_advance, List.length_drop]
    exact Nat.sub_le_sub_right h.le m
  · rw [hadd]
    exact h.kind_eq _ (by omega)
  · rw [Cursor.after_advance, ← List.drop_take] at hc
    exact h.plain c (List.mem_of_mem_drop hc)
  · rw [Cursor.after_advance, List.drop_drop, Nat.add_sub_cancel' hm]
    exact h.detached
  · rw [hadd]
    exact h.closed _ (by omega)

end Hushed

namespace Pattern

theorem mem_ends_toEnd {place : Cursor} (h : Text.isAllWhiteSpace place.after = true) :
    place.skip .whiteSpace ∈ (Pattern.seq spaces (.look .textEnd)).ends place := by
  refine List.mem_flatMap.mpr ⟨_, List.mem_of_mem_head? (head?_ends_star .whiteSpace place), ?_⟩
  have hafter : (place.skip .whiteSpace).after = [] := by
    rw [Cursor.after_skip, List.dropWhile_eq_nil_iff]
    exact List.all_eq_true.mp h
  simp [ends, Look.holds, hafter]

end Pattern

open Pattern in
/-- A block opener in a tame text does not see a bar behind the text. -/
theorem Text.Tame.closed {u s : Text} (hu : u.Tame) (hs : s.Detached) {place : Cursor}
    (hafter : place.after = u ++ s) (hword : place.wordBefore false = false) {m : Nat}
    (hm : m < u.length) {last : Cursor} (hlast : last ∈ tailOpener.ends (place.advance m).bare) :
    (last.skip .whiteSpace).sees (.single '|') = false := by
  -- The same opener is found in the text alone.
  have hcut : Cut s place (Cursor.start u) := ⟨hafter, hword⟩
  have hcut := (hcut.advance (n := m) (Nat.le_of_lt hm)).bare
  have hink : tailOpener.isInk = true := by decide +kernel
  obtain ⟨found, hfound, hlast⟩ := exists_mem_of_forall₂ ((follows_cut hs).forall₂_ends hink hcut)
    hlast
  have hbare : ((Cursor.start u).advance m).bare = (Cursor.start u).advance m :=
    Cursor.bare_advance m
  rw [hbare] at hfound
  by_cases hwhite : Text.isAllWhiteSpace found.after = true
  · -- An opener with only white space behind it ends the text.
    exfalso
    refine Bool.eq_false_iff.mp hu.opener (isMatch_iff.mpr ⟨m, Nat.le_of_lt hm, ?_⟩)
    exact List.ne_nil_of_mem (List.mem_flatMap.mpr ⟨found, hfound, mem_ends_toEnd hwhite⟩)
  · -- Otherwise it sees a character of the text.
    obtain ⟨k, -, hk⟩ := ahead_of_mem_ends hfound
    have hvisible : found.after.dropWhile CharSet.whiteSpace.contains ≠ [] := by
      rw [ne_eq, List.dropWhile_eq_nil_iff]
      exact fun hall => hwhite (List.all_eq_true.mpr hall)
    obtain ⟨c, rest, hc⟩ := List.exists_cons_of_ne_nil hvisible
    have hmem : c ∈ u := by
      have hmem : c ∈ found.after := (List.dropWhile_suffix _).mem (hc ▸ List.mem_cons_self)
      rw [Cursor.Ahead.after_eq_drop hk, Cursor.after_advance] at hmem
      exact List.mem_of_mem_drop (List.mem_of_mem_drop hmem)
    have hafter : (last.skip .whiteSpace).after = c :: (rest ++ s) := by
      rw [Cursor.after_skip, hlast.after_eq, List.dropWhile_append, hc]
      rfl
    rw [Cursor.sees_of_cons hafter, ← Bool.not_eq_true, CharSet.contains_single]
    rintro rfl
    exact hu.bar hmem

-- ---------------------------------------------------------------------------
-- Pairs of places
-- ---------------------------------------------------------------------------

def plainText (marks : Marks) : Text := marks.map Prod.fst

theorem length_plainText (marks : Marks) : (plainText marks).length = marks.length :=
  List.length_map _

theorem plainText_marksFrom (kinds : Nat → Attribute) (offset : Nat) (text : Text) :
    plainText (marksFrom kinds offset text) = text := by
  induction text generalizing offset with
  | nil => rfl
  | cons c rest ih => exact congrArg (c :: ·) (ih _)

/-- Two hidden pieces, one of which may stand for the other behind the character
`c`. Behind a `#` any two tame comments do. A space parts lines; two lines also
have to be idle, and both or neither of them are white. -/
structure Veil (c : Char) (kind : Attribute) (u v : Marks) : Prop where
  hidden : kind.isCode = false
  kind_left : ∀ x ∈ u, x.2 = kind
  kind_right : ∀ x ∈ v, x.2 = kind
  tame_left : Text.Tame (plainText u)
  tame_right : Text.Tame (plainText v)
  lead : c = '#' ∨ c = ' ' ∧ Text.Idle (plainText u) ∧ Text.Idle (plainText v) ∧
    Text.isAllWhiteSpace (plainText u) = Text.isAllWhiteSpace (plainText v)

/-- The two texts differ in hidden pieces only. -/
inductive Veiled : Marks → Marks → Prop
  | nil : Veiled [] []
  | same (c : Char) (kind : Attribute) {s t : Marks} :
      Veiled s t → Veiled ((c, kind) :: s) ((c, kind) :: t)
  | veil {c : Char} {first kind : Attribute} {u v s t : Marks} :
      Veil c kind u v → Text.Detached (plainText s) → Veiled s t →
      Veiled ((c, first) :: (u ++ s)) ((c, first) :: (v ++ t))

namespace Veiled

variable {s t : Marks}

theorem append_left (h : Veiled s t) (front : Marks) : Veiled (front ++ s) (front ++ t) := by
  induction front with
  | nil => exact h
  | cons x rest ih => exact .same x.1 x.2 ih

theorem head?_eq (h : Veiled s t) : s.head? = t.head? := by
  cases h <;> rfl

theorem detached (h : Veiled s t) (hs : Text.Detached (plainText s)) :
    Text.Detached (plainText t) := by
  rw [Text.Detached, plainText, List.head?_map] at hs ⊢
  rwa [← h.head?_eq]

end Veiled

theorem Cursor.marks_append {kinds : Nat → Attribute} {place : Cursor} {u s : Marks}
    (h : place.marks kinds = u ++ s) :
    place.after = plainText u ++ plainText s ∧ (place.advance u.length).marks kinds = s ∧
      ∀ kind, (∀ x ∈ u, x.2 = kind) → ∀ m < u.length, kinds (place.advance m).offset = kind := by
  induction u generalizing place with
  | nil =>
    refine ⟨?_, h, fun kind _ m hm => absurd hm (Nat.not_lt_zero m)⟩
    rw [plainText, List.map_nil, List.nil_append, ← List.nil_append s, ← h, marks,
      plainText_marksFrom]
  | cons x u ih =>
    obtain ⟨rest, hafter, hkind, hstep⟩ := after_of_marks_cons h
    obtain ⟨hrest, hbehind, hkinds⟩ := ih hstep
    refine ⟨?_, hbehind, fun kind hall m hm => ?_⟩
    · rw [after_step, hafter, List.tail_cons] at hrest
      rw [hafter, hrest]
      rfl
    · cases m with
      | zero => exact hkind.trans (hall x List.mem_cons_self)
      | succ m =>
        exact hkinds kind (fun y hy => hall y (List.mem_cons_of_mem x hy)) m
          (Nat.lt_of_succ_lt_succ hm)

section
variable {α β : Nat → Attribute} {kind : Attribute} {m n : Nat} {p q : Cursor}

/-- Places outside of hidden pieces, with the same to the left as far as words
go. -/
structure Pair (α β : Nat → Attribute) (p q : Cursor) : Prop where
  veiled : Veiled (p.marks α) (q.marks β)
  wordBefore_eq : p.wordBefore false = q.wordBefore false

structure Within (α β : Nat → Attribute) (kind : Attribute) (m n : Nat) (p q : Cursor) :
    Prop where
  hidden : kind.isCode = false
  left : Hushed α kind m p
  right : Hushed β kind n q
  veiled : Veiled ((p.advance m).marks α) ((q.advance n).marks β)

/-- Where two matches may end: at a pair of places, at the ends of the texts, or
both in hidden lines at something visible that starts nothing. -/
inductive Meet (α β : Nat → Attribute) (p q : Cursor) : Prop
  | pair : Pair α β p q → Meet α β p q
  | stop : p.after = [] → q.after = [] → Meet α β p q
  | within {kind : Attribute} {m n : Nat} : Within α β kind m n p q → 0 < m → 0 < n →
      p.Idle → q.Idle → Meet α β p q

def Cursor.isWhite (place : Cursor) (n : Nat) : Bool :=
  Text.isAllWhiteSpace (place.after.take n)

theorem Pair.bare (h : Pair α β p q) : Pair α β p.bare q.bare := ⟨h.veiled, h.wordBefore_eq⟩

theorem Veil.hushed {c : Char} {u v s : Marks} (h : Veil c kind u v)
    (hs : Text.Detached (plainText s)) (hmarks : p.marks α = u ++ s)
    (hword : p.wordBefore false = false) : Hushed α kind u.length p := by
  obtain ⟨hafter, -, hkinds⟩ := Cursor.marks_append hmarks
  have hlength : u.length = (plainText u).length := (length_plainText u).symm
  refine ⟨?_, hkinds kind h.kind_left, fun c hc => ?_, ?_, fun m hm last hlast => ?_⟩
  · rw [hafter, List.length_append, hlength]
    exact Nat.le_add_right _ _
  · rw [hafter, hlength, List.take_left] at hc
    refine ⟨?_, ?_⟩
    · rintro rfl
      exact h.tame_left.bar hc
    · rintro rfl
      exact h.tame_left.lineFeed hc
  · rw [hafter, hlength, List.drop_left]
    exact hs
  · exact h.tame_left.closed hs hafter hword (hlength ▸ hm) hlast

theorem Veil.symm {c : Char} {u v : Marks} (h : Veil c kind u v) : Veil c kind v u where
  hidden := h.hidden
  kind_left := h.kind_right
  kind_right := h.kind_left
  tame_left := h.tame_right
  tame_right := h.tame_left
  lead := h.lead.imp id fun ⟨hc, hu, hv, hwhite⟩ => ⟨hc, hv, hu, hwhite.symm⟩

theorem Cursor.idle_skip {u s : Text} (hu : u.Idle) (hfeed : '\n' ∉ u)
    (hvisible : Text.isAllWhiteSpace u = false) (hs : s.Detached) (hafter : p.after = u ++ s)
    (hword : p.wordBefore false = false) : (p.skip .whiteSpace).Idle := by
  have hsame : p.after.takeWhile CharSet.whiteSpace.contains =
      u.takeWhile CharSet.whiteSpace.contains := by
    rw [hafter, List.takeWhile_append, if_neg]
    intro hall
    have hself := List.takeWhile_eq_self_iff.mp (List.takeWhile_sublist _ |>.eq_of_length hall)
    exact Bool.eq_false_iff.mp hvisible (List.all_eq_true.mpr hself)
  have hcut : Cut s (p.skip .whiteSpace) ((Cursor.start u).skip .whiteSpace) := by
    have hcut : Cut s p (Cursor.start u) := ⟨hafter, hword⟩
    rw [Cursor.skip, hsame]
    exact hcut.advance (List.takeWhile_sublist _).length_le
  have hidle := hu.skip_start hfeed
  constructor
  · have hink : Rules.opener.isInk = true := by decide +kernel
    have hends := (follows_cut hs).forall₂_ends hink hcut
    rw [hidle.opener] at hends
    exact List.forall₂_nil_right_iff.mp hends
  · have hink : Rules.closer.isInk = true := by decide +kernel
    have hends := (follows_cut hs).forall₂_ends hink hcut
    rw [hidle.closer] at hends
    exact List.forall₂_nil_right_iff.mp hends

theorem Veiled.cases_marks {P : Prop} (h : Veiled (p.marks α) (q.marks β))
    (stop : p.after = [] → q.after = [] → P)
    (same : ∀ c s t, p.after = c :: s → q.after = c :: t → α p.offset = β q.offset →
      Pair α β p.step q.step → P)
    (veil : ∀ c s t kind m n, p.after = c :: s → q.after = c :: t → α p.offset = β q.offset →
      Within α β kind m n p.step q.step →
      (c = '#' ∨ c = ' ' ∧ p.step.isWhite m = q.step.isWhite n ∧ (p.step.isWhite m = false →
        (p.step.skip .whiteSpace).Idle ∧ (q.step.skip .whiteSpace).Idle)) → P) : P := by
  generalize hm : p.marks α = m at h
  generalize hn : q.marks β = n at h
  cases h with
  | nil => exact stop (Cursor.after_of_marks_nil hm) (Cursor.after_of_marks_nil hn)
  | same c kind hst =>
    obtain ⟨s, hp, hkind, rfl⟩ := Cursor.after_of_marks_cons hm
    obtain ⟨t, hq, hkind', rfl⟩ := Cursor.after_of_marks_cons hn
    refine same c s t hp hq (hkind.trans hkind'.symm) ⟨hst, ?_⟩
    rw [Twin.wordBefore_step hp, Twin.wordBefore_step hq]
  | @veil c first kind u v s t hveil hs hst =>
    obtain ⟨_, hp, hkind, hleft⟩ := Cursor.after_of_marks_cons hm
    obtain ⟨_, hq, hkind', hright⟩ := Cursor.after_of_marks_cons hn
    have hedge : Cursor.isWordChar false c = false := by
      rcases hveil.lead with rfl | ⟨rfl, -⟩ <;> decide +kernel
    have hpword := (Twin.wordBefore_step hp).trans hedge
    have hqword := (Twin.wordBefore_step hq).trans hedge
    have ht := hst.detached hs
    obtain ⟨hpafter, hpbehind, -⟩ := Cursor.marks_append hleft
    obtain ⟨hqafter, hqbehind, -⟩ := Cursor.marks_append hright
    have hpwhite : p.step.isWhite u.length = Text.isAllWhiteSpace (plainText u) := by
      rw [Cursor.isWhite, hpafter, List.take_left' (length_plainText _)]
    have hqwhite : q.step.isWhite v.length = Text.isAllWhiteSpace (plainText v) := by
      rw [Cursor.isWhite, hqafter, List.take_left' (length_plainText _)]
    refine veil c _ _ kind u.length v.length hp hq (hkind.trans hkind'.symm)
      ⟨hveil.hidden, hveil.hushed hs hleft hpword, hveil.symm.hushed ht hright hqword,
        by rwa [hpbehind, hqbehind]⟩
      (hveil.lead.imp id fun ⟨hc, hu, hv, hwhite⟩ => ⟨hc, ?_, fun hvisible => ⟨?_, ?_⟩⟩)
    · rw [hpwhite, hqwhite, hwhite]
    · rw [hpwhite] at hvisible
      exact Cursor.idle_skip hu hveil.tame_left.lineFeed hvisible hs hpafter hpword
    · rw [hpwhite, hwhite] at hvisible
      exact Cursor.idle_skip hv hveil.tame_right.lineFeed hvisible ht hqafter hqword

end

end Reindent
