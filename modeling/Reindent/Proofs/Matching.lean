import Mathlib.Tactic.Common
import Reindent.Pattern.Search

/-!
# Where matches end

General facts about patterns: every match ends at or ahead of where it
begins, a greedy repetition of a character goes as far as it can and then
gives back one character after the other, and a search through a whole text
goes on where the last match ended. The last fact holds for patterns that
take some text in each match, so that the rule about empty matches does not
come into play.
-/

namespace Reindent

namespace Cursor

def step (place : Cursor) : Cursor :=
  match place.after with
  | [] => place
  | c :: rest => ⟨some c, rest, place.offset + c.utf8Size, place.groups⟩

def advance (place : Cursor) : Nat → Cursor
  | 0 => place
  | n + 1 => place.step.advance n

/-- The place without the groups closed on the way to it. -/
def bare (place : Cursor) : Cursor := { place with groups := [] }

def finish (place : Cursor) : Nat := place.offset + Text.byteLength place.after

variable {place : Cursor}

@[simp] theorem advance_zero : place.advance 0 = place := rfl

theorem advance_succ (n : Nat) : place.advance (n + 1) = place.step.advance n := rfl

theorem advance_add (m n : Nat) : place.advance (m + n) = (place.advance m).advance n := by
  induction m generalizing place with
  | zero => simp
  | succ m ih => rw [Nat.add_right_comm, advance_succ, ih, ← advance_succ]

@[simp] theorem after_step : place.step.after = place.after.tail := by
  unfold step
  split
  · next h => simp [h]
  · next h => simp [h]

theorem length_after_step {c : Char} {rest : Text} (h : place.after = c :: rest) :
    place.after.length = place.step.after.length + 1 := by
  rw [after_step, h]
  rfl

theorem step_of_nil (h : place.after = []) : place.step = place := by
  simp [step, h]

theorem offset_step {c : Char} {rest : Text} (h : place.after = c :: rest) :
    place.step.offset = place.offset + c.utf8Size := by
  simp [step, h]

theorem offset_lt_step (h : place.after ≠ []) : place.offset < place.step.offset := by
  obtain ⟨c, rest, hc⟩ := List.exists_cons_of_ne_nil h
  rw [offset_step hc]
  exact Nat.lt_add_of_pos_right (Char.utf8Size_pos c)

@[simp] theorem finish_step : place.step.finish = place.finish := by
  unfold step finish
  split
  · rfl
  · next h => simp [h, Text.byteLength, Nat.add_assoc]

@[simp] theorem after_advance (n : Nat) : (place.advance n).after = place.after.drop n := by
  induction n generalizing place with
  | zero => rfl
  | succ n ih => rw [advance_succ, ih, after_step, List.drop_tail]

@[simp] theorem finish_advance (n : Nat) : (place.advance n).finish = place.finish := by
  induction n generalizing place with
  | zero => rfl
  | succ n ih => rw [advance_succ, ih, finish_step]

@[simp] theorem after_bare : place.bare.after = place.after := rfl

@[simp] theorem offset_bare : place.bare.offset = place.offset := rfl

@[simp] theorem finish_bare : place.bare.finish = place.finish := rfl

theorem bare_step : place.step.bare = place.bare.step := by
  obtain ⟨before, after, offset, groups⟩ := place
  cases after <;> rfl

theorem bare_advance (n : Nat) : (place.advance n).bare = place.bare.advance n := by
  induction n generalizing place with
  | zero => rfl
  | succ n ih => rw [advance_succ, ih, bare_step, ← advance_succ]

theorem offset_le_advance (n : Nat) : place.offset ≤ (place.advance n).offset := by
  induction n generalizing place with
  | zero => exact Nat.le_refl _
  | succ n ih =>
    refine Nat.le_trans ?_ ih
    by_cases h : place.after = []
    · exact Nat.le_of_eq (congrArg Cursor.offset (step_of_nil h).symm)
    · exact Nat.le_of_lt (offset_lt_step h)

def Ahead (place last : Cursor) : Prop :=
  ∃ n ≤ place.after.length, last.bare = (place.advance n).bare

namespace Ahead

variable {last final : Cursor}

theorem refl (place : Cursor) : place.Ahead place := ⟨0, Nat.zero_le _, rfl⟩

theorem after_eq_drop {n : Nat} (h : last.bare = (place.advance n).bare) :
    last.after = place.after.drop n := by
  simpa using congrArg Cursor.after h

theorem trans (h : place.Ahead last) (h' : last.Ahead final) : place.Ahead final := by
  obtain ⟨m, hm, hlast⟩ := h
  obtain ⟨n, hn, hfinal⟩ := h'
  have hafter := after_eq_drop hlast
  rw [hafter, List.length_drop] at hn
  refine ⟨m + n, by omega, ?_⟩
  rw [hfinal, bare_advance, hlast, bare_advance, bare_advance, advance_add]

theorem offset_le (h : place.Ahead last) : place.offset ≤ last.offset := by
  obtain ⟨n, -, hlast⟩ := h
  have : last.offset = (place.advance n).offset := by simpa using congrArg Cursor.offset hlast
  rw [this]
  exact offset_le_advance n

theorem finish_eq (h : place.Ahead last) : last.finish = place.finish := by
  obtain ⟨n, -, hlast⟩ := h
  simpa using congrArg Cursor.finish hlast

end Ahead

end Cursor

-- ---------------------------------------------------------------------------
-- Every match ends ahead
-- ---------------------------------------------------------------------------

namespace Rounds

variable {step : Cursor → List Cursor}

theorem ahead_of_mem_exactly (h : ∀ p, ∀ e ∈ step p, p.Ahead e) {n : Nat} {place last : Cursor}
    (hm : last ∈ exactly step n place) : place.Ahead last := by
  induction n generalizing place with
  | zero =>
    obtain rfl : last = place := by simpa [exactly] using hm
    exact .refl last
  | succ n ih =>
    obtain ⟨next, hnext, hm⟩ := List.mem_flatMap.mp hm
    exact (h place next hnext).trans (ih hm)

theorem mem_prefer {greedy : Bool} {more : List Cursor} {place last : Cursor} :
    last ∈ prefer greedy more place ↔ last ∈ more ∨ last = place := by
  cases greedy
  · simp [prefer, or_comm]
  · simp [prefer]

theorem ahead_of_mem_upTo (h : ∀ p, ∀ e ∈ step p, p.Ahead e) {greedy : Bool} {n : Nat}
    {place last : Cursor} (hm : last ∈ upTo step greedy n place) : place.Ahead last := by
  induction n generalizing place with
  | zero =>
    obtain rfl : last = place := by simpa [upTo] using hm
    exact .refl last
  | succ n ih =>
    rcases mem_prefer.mp hm with hm | rfl
    · obtain ⟨next, hnext, hm⟩ := List.mem_flatMap.mp hm
      exact (h place next hnext).trans (ih hm)
    · exact .refl last

theorem mem_reach {reached : List Cursor} {place last : Cursor}
    (hm : last ∈ reach reached place) : last ∈ reached ∨ last = place := by
  unfold reach at hm
  split at hm
  · exact .inl hm
  · exact (List.mem_cons.mp hm).symm

theorem mem_foldl_or {f : List Cursor → Cursor → List Cursor} {P : Cursor → Cursor → Prop}
    (h : ∀ reached p e, e ∈ f reached p → e ∈ reached ∨ P p e) {places reached : List Cursor}
    {last : Cursor} (hm : last ∈ places.foldl f reached) :
    last ∈ reached ∨ ∃ p ∈ places, P p last := by
  induction places generalizing reached with
  | nil => exact .inl hm
  | cons p rest ih =>
    rcases ih hm with hm | ⟨q, hq, hP⟩
    · rcases h reached p last hm with hm | hP
      · exact .inl hm
      · exact .inr ⟨p, List.mem_cons_self, hP⟩
    · exact .inr ⟨q, List.mem_cons_of_mem _ hq, hP⟩

theorem ahead_of_mem_explore (h : ∀ p, ∀ e ∈ step p, p.Ahead e) {greedy : Bool} {n : Nat}
    {reached : List Cursor} {place last : Cursor}
    (hm : last ∈ explore step greedy n reached place) : last ∈ reached ∨ place.Ahead last := by
  induction n generalizing reached place last with
  | zero =>
    rcases mem_reach hm with hm | rfl
    · exact .inl hm
    · exact .inr (.refl last)
  | succ n ih =>
    have later {seen : List Cursor}
        (hm : last ∈ ((step place).filter fun next => place.offset < next.offset).foldl
          (explore step greedy n) seen) : last ∈ seen ∨ place.Ahead last := by
      rcases mem_foldl_or (P := Cursor.Ahead) (fun reached p e he => ih he) hm with hm | ⟨p, hp, ha⟩
      · exact .inl hm
      · exact .inr ((h place p (List.mem_filter.mp hp).1).trans ha)
    simp only [explore] at hm
    split at hm
    · exact .inl hm
    · split at hm
      · rcases List.mem_cons.mp hm with rfl | hm
        · exact .inr (.refl last)
        · exact later hm
      · rcases later hm with hm | ha
        · rcases List.mem_cons.mp hm with rfl | hm
          · exact .inr (.refl last)
          · exact .inl hm
        · exact .inr ha

theorem ahead_of_mem_atLeastOne (h : ∀ p, ∀ e ∈ step p, p.Ahead e) {greedy : Bool}
    {place last : Cursor} (hm : last ∈ atLeastOne step greedy place) : place.Ahead last := by
  rw [atLeastOne, List.mem_reverse] at hm
  have hround : ∀ reached p e,
      e ∈ (if place.offset < p.offset then explore step greedy p.after.length reached p
        else reach reached p) → e ∈ reached ∨ p.Ahead e := by
    intro reached p e he
    split at he
    · exact ahead_of_mem_explore h he
    · rcases mem_reach he with he | rfl
      · exact .inl he
      · exact .inr (.refl e)
  rcases mem_foldl_or hround hm with hm | ⟨p, hp, ha⟩
  · simp at hm
  · exact (h place p hp).trans ha

end Rounds

namespace Pattern

theorem ahead_of_mem_ends {pattern : Pattern} {place last : Cursor}
    (h : last ∈ pattern.ends place) : place.Ahead last := by
  induction pattern generalizing place last with
  | empty =>
    obtain rfl : last = place := by simpa [ends] using h
    exact .refl last
  | char set =>
    simp only [ends] at h
    split at h
    · simp at h
    · next c rest hafter =>
      split at h
      · obtain rfl := List.mem_singleton.mp h
        refine ⟨1, by simp [hafter], ?_⟩
        simp [Cursor.advance, Cursor.step, hafter]
      · simp at h
  | look condition =>
    simp only [ends] at h
    split at h
    · obtain rfl := List.mem_singleton.mp h
      exact .refl last
    · simp at h
  | seq a b iha ihb =>
    obtain ⟨middle, hm, h⟩ := List.mem_flatMap.mp h
    exact (iha hm).trans (ihb h)
  | alt a b iha ihb =>
    rcases List.mem_append.mp h with h | h
    · exact iha h
    · exact ihb h
  | group name a ih =>
    obtain ⟨inner, hi, rfl⟩ := List.mem_map.mp h
    obtain ⟨n, hn, hb⟩ := ih hi
    exact ⟨n, hn, hb⟩
  | rounds a low high greedy ih =>
    have hstep : ∀ p, ∀ e ∈ a.ends p, p.Ahead e := fun p e he => ih he
    cases high with
    | some high =>
      obtain ⟨middle, hm, h⟩ := List.mem_flatMap.mp h
      exact (Rounds.ahead_of_mem_exactly hstep hm).trans (Rounds.ahead_of_mem_upTo hstep h)
    | none =>
      cases low with
      | zero =>
        rcases Rounds.mem_prefer.mp h with h | rfl
        · exact Rounds.ahead_of_mem_atLeastOne hstep h
        · exact .refl last
      | succ low =>
        obtain ⟨middle, hm, h⟩ := List.mem_flatMap.mp h
        exact (Rounds.ahead_of_mem_exactly hstep hm).trans
          (Rounds.ahead_of_mem_atLeastOne hstep h)

end Pattern

-- ---------------------------------------------------------------------------
-- Repeating a character
-- ---------------------------------------------------------------------------

namespace Cursor

def sees (place : Cursor) (set : CharSet) : Bool := place.after.head?.any set.contains

def skip (place : Cursor) (set : CharSet) : Cursor :=
  place.advance (place.after.takeWhile set.contains).length

variable {place : Cursor} {set : CharSet}

theorem sees_iff : place.sees set = true ↔
    ∃ c rest, place.after = c :: rest ∧ set.contains c = true := by
  unfold sees
  cases place.after <;> simp

theorem sees_of_cons {c : Char} {rest : Text} (h : place.after = c :: rest) :
    place.sees set = set.contains c := by
  rw [sees, h]
  rfl

theorem skip_of_sees (h : place.sees set = true) : place.skip set = place.step.skip set := by
  obtain ⟨c, rest, hafter, hc⟩ := sees_iff.mp h
  simp [skip, hafter, hc, advance_succ]

theorem skip_of_not_sees (h : place.sees set = false) : place.skip set = place := by
  unfold sees at h
  unfold skip
  cases hafter : place.after with
  | nil => rfl
  | cons c rest => simp_all

theorem induction_after {P : Cursor → Prop} (stop : ∀ p : Cursor, p.after = [] → P p)
    (more : ∀ p : Cursor, p.after ≠ [] → P p.step → P p) (place : Cursor) : P place := by
  induction h : place.after generalizing place with
  | nil => exact stop place h
  | cons c rest ih => exact more place (by simp [h]) (ih _ (by simp [h]))

end Cursor

namespace Pattern

variable {set : CharSet} {place : Cursor}

def star (set : CharSet) : Pattern := .rounds (.char set) 0 none true

theorem ends_char (set : CharSet) (place : Cursor) :
    (Pattern.char set).ends place = if place.sees set then [place.step] else [] := by
  obtain ⟨before, after, offset, groups⟩ := place
  cases after with
  | nil => rfl
  | cons c rest => rfl

theorem atLeastOne_char_of_sees (h : place.sees set = true) :
    Rounds.atLeastOne (Pattern.char set).ends true place =
      (Rounds.explore (Pattern.char set).ends true place.step.after.length []
        place.step).reverse := by
  obtain ⟨c, rest, hafter, -⟩ := Cursor.sees_iff.mp h
  have hlt : place.offset < place.step.offset := Cursor.offset_lt_step (by simp [hafter])
  simp [Rounds.atLeastOne, ends_char, h, hlt]

/-- Exploring lists the places along the run of characters; more steps than
the text has characters change nothing. -/
theorem explore_char (set : CharSet) (place : Cursor) (n : Nat) (hn : place.after.length ≤ n) :
    Rounds.explore (Pattern.char set).ends true n [] place =
      place :: (Rounds.atLeastOne (Pattern.char set).ends true place).reverse := by
  induction place using Cursor.induction_after generalizing n with
  | stop place h =>
    have hs : place.sees set = false := by simp [Cursor.sees, h]
    cases n <;> simp [Rounds.explore, Rounds.reach, Rounds.atLeastOne, ends_char, hs]
  | more place h ih =>
    obtain ⟨c, rest, hafter⟩ := List.exists_cons_of_ne_nil h
    have hlength := Cursor.length_after_step hafter
    obtain ⟨m, rfl⟩ : ∃ m, n = m + 1 := ⟨n - 1, by omega⟩
    by_cases hs : place.sees set = true
    · have hlt := Cursor.offset_lt_step h
      rw [atLeastOne_char_of_sees hs, List.reverse_reverse, ih _ (Nat.le_refl _)]
      simp [Rounds.explore, ends_char, hs, hlt, ih m (by omega)]
    · simp [Rounds.explore, Rounds.atLeastOne, ends_char, hs]

/-- A repetition goes on as long as it can and comes back to each place on the
way. -/
theorem ends_star (set : CharSet) (place : Cursor) :
    (star set).ends place =
      (if place.sees set then (star set).ends place.step else []) ++ [place] := by
  have hends (p : Cursor) : (star set).ends p =
      Rounds.atLeastOne (Pattern.char set).ends true p ++ [p] := rfl
  rw [hends place]
  congr 1
  split
  case isTrue hs =>
    rw [atLeastOne_char_of_sees hs, explore_char set _ _ (Nat.le_refl _), List.reverse_cons,
      List.reverse_reverse, hends]
  case isFalse hs => simp [Rounds.atLeastOne, ends_char, hs]

theorem head?_ends_star (set : CharSet) (place : Cursor) :
    ((star set).ends place).head? = some (place.skip set) := by
  induction place using Cursor.induction_after with
  | stop place h =>
    have hs : place.sees set = false := by simp [Cursor.sees, h]
    rw [ends_star, Cursor.skip_of_not_sees hs]
    simp [hs]
  | more place h ih =>
    rw [ends_star]
    by_cases hs : place.sees set = true
    · rw [if_pos hs, List.head?_append, ih, Cursor.skip_of_sees hs]
      rfl
    · rw [if_neg hs, Cursor.skip_of_not_sees (by simpa using hs)]
      rfl

theorem ends_seq_star {b : Pattern} (hb : ∀ p : Cursor, p.sees set = true → b.ends p = [])
    (place : Cursor) : (Pattern.seq (star set) b).ends place = b.ends (place.skip set) := by
  rw [ends]
  induction place using Cursor.induction_after with
  | stop place h =>
    have hs : place.sees set = false := by simp [Cursor.sees, h]
    rw [ends_star, Cursor.skip_of_not_sees hs]
    simp [hs]
  | more place h ih =>
    rw [ends_star]
    by_cases hs : place.sees set = true
    · rw [if_pos hs, List.flatMap_append, ih, Cursor.skip_of_sees hs]
      simp [hb place hs]
    · rw [if_neg hs, Cursor.skip_of_not_sees (by simpa using hs)]
      simp

theorem head?_flatMap_of_some {α β : Type} {f : α → List β} {g : α → β}
    (h : ∀ x, (f x).head? = some (g x)) (l : List α) : (l.flatMap f).head? = l.head?.map g := by
  cases l with
  | nil => rfl
  | cons x rest => simp [List.flatMap_cons, List.head?_append, h]

theorem head?_ends_seq_star (a : Pattern) (set : CharSet) (place : Cursor) :
    ((Pattern.seq a (star set)).ends place).head? =
      (a.ends place).head?.map fun last => last.skip set :=
  head?_flatMap_of_some (head?_ends_star set) _

-- ---------------------------------------------------------------------------
-- Going through a whole text
-- ---------------------------------------------------------------------------

/-- Every match takes some text. -/
def Consumes (pattern : Pattern) : Prop :=
  ∀ place, ∀ last ∈ pattern.ends place, place.offset < last.offset

variable {pattern : Pattern}

theorem Consumes.length_lt (h : pattern.Consumes) {last : Cursor}
    (hlast : last ∈ pattern.ends place) : last.after.length < place.after.length := by
  obtain ⟨n, hn, heq⟩ := ahead_of_mem_ends hlast
  have hlt := h place last hlast
  rw [Cursor.Ahead.after_eq_drop heq, List.length_drop]
  cases n with
  | zero =>
    have hoffset := congrArg Cursor.offset heq
    simp only [Cursor.advance_zero, Cursor.offset_bare] at hoffset
    omega
  | succ n => omega

theorem nextAt?_of_consumes (h : pattern.Consumes) {previous : Option Nat}
    (hp : ∀ stop ∈ previous, stop ≤ place.offset) :
    pattern.nextAt? previous place = pattern.matchAt? place := by
  have hbehind : previous.any (place.offset < ·) = false := by
    cases previous with
    | none => rfl
    | some stop => simpa using hp stop rfl
  rw [nextAt?, hbehind, if_neg (by simp)]
  cases hfound : pattern.matchAt? place with
  | none => rfl
  | some found =>
    obtain ⟨last, hlast, rfl⟩ := Option.map_eq_some_iff.mp hfound
    have hlt := h place last (List.mem_of_mem_head? hlast)
    have hne : (last.offset == place.offset) = false := by
      rw [beq_eq_false_iff_ne]
      omega
    simp [hne]

def matchesAt (pattern : Pattern) (place : Cursor) : List Match :=
  pattern.matchesFrom none place.before place.offset place.after

theorem matchesAt_bare (place : Cursor) :
    pattern.matchesAt place.bare = pattern.matchesAt place := rfl

theorem matchesFrom_of_le (h : pattern.Consumes) {stop : Nat} {before : Option Char}
    {offset : Nat} {text : Text} (hs : stop ≤ offset) :
    pattern.matchesFrom (some stop) before offset text =
      pattern.matchesFrom none before offset text := by
  induction text generalizing before offset with
  | nil => simp [matchesFrom, nextAt?_of_consumes h, hs]
  | cons c rest ih =>
    have hsame : pattern.nextAt? (some stop) ⟨before, c :: rest, offset, []⟩ =
        pattern.nextAt? none ⟨before, c :: rest, offset, []⟩ := by
      rw [nextAt?_of_consumes h (by simpa using hs), nextAt?_of_consumes h (by simp)]
    simp only [matchesFrom, hsame, ih (Nat.le_trans hs (Nat.le_add_right offset c.utf8Size))]

theorem matchesFrom_stop (h : pattern.Consumes) (n : Nat) (place : Cursor)
    (hn : n ≤ place.after.length) :
    pattern.matchesFrom (some (place.advance n).offset) place.before place.offset place.after =
      pattern.matchesAt (place.advance n) := by
  induction n generalizing place with
  | zero => exact matchesFrom_of_le h (Nat.le_refl _)
  | succ n ih =>
    obtain ⟨before, after, offset, groups⟩ := place
    cases after with
    | nil => simp at hn
    | cons c rest =>
      have hrest := ih (Cursor.step ⟨before, c :: rest, offset, groups⟩)
        (by simpa using hn)
      have hfirst : offset < (Cursor.step ⟨before, c :: rest, offset, groups⟩).offset :=
        Nat.lt_add_of_pos_right (Char.utf8Size_pos c)
      have hlt := Nat.lt_of_lt_of_le hfirst (Cursor.offset_le_advance n)
      have hnone : pattern.nextAt?
          (some ((Cursor.step ⟨before, c :: rest, offset, groups⟩).advance n).offset)
          ⟨before, c :: rest, offset, []⟩ = none := by
        rw [nextAt?, if_pos (by simpa using hlt)]
      rw [Cursor.advance_succ, ← hrest]
      simp only [matchesFrom, hnone]
      rfl

theorem matchesAt_of_nil (h : pattern.Consumes) (hafter : place.after = []) :
    pattern.matchesAt place = [] := by
  have hnone : pattern.ends ⟨place.before, [], place.offset, []⟩ = [] := by
    rw [List.eq_nil_iff_forall_not_mem]
    intro last hlast
    have hlt := h _ last hlast
    have hfinish := (ahead_of_mem_ends hlast).finish_eq
    simp only [Cursor.finish, Text.byteLength, Nat.add_zero] at hlt hfinish
    omega
  simp [matchesAt, hafter, matchesFrom, nextAt?_of_consumes h, matchAt?, hnone]

theorem matchesAt_of_none (h : pattern.Consumes) (hafter : place.after ≠ [])
    (hnone : (pattern.ends place.bare).head? = none) :
    pattern.matchesAt place = pattern.matchesAt place.step := by
  obtain ⟨before, after, offset, groups⟩ := place
  cases after with
  | nil => simp at hafter
  | cons c rest =>
    have hnext : pattern.nextAt? none ⟨before, c :: rest, offset, []⟩ = none := by
      rw [nextAt?_of_consumes h (by simp), matchAt?, Option.map_eq_none_iff]
      exact hnone
    simp only [matchesAt, matchesFrom, hnext, Cursor.step]

theorem matchesAt_of_some (h : pattern.Consumes) {last : Cursor}
    (hsome : (pattern.ends place.bare).head? = some last) :
    pattern.matchesAt place =
      ⟨place.offset, last.offset, last.groups⟩ :: pattern.matchesAt last := by
  obtain ⟨n, hn, hlast⟩ := ahead_of_mem_ends (List.mem_of_mem_head? hsome)
  have hlt := h _ last (List.mem_of_mem_head? hsome)
  -- The match takes a first character and ends `n` characters behind it.
  obtain ⟨n, rfl⟩ : ∃ m, n = m + 1 := by
    refine ⟨n - 1, ?_⟩
    cases n with
    | zero =>
      have := congrArg Cursor.offset hlast
      simp only [Cursor.advance_zero, Cursor.offset_bare] at this hlt
      omega
    | succ n => rfl
  obtain ⟨before, after, offset, groups⟩ := place
  cases after with
  | nil => simp [Cursor.bare] at hn
  | cons c rest =>
    have hnext : pattern.nextAt? none ⟨before, c :: rest, offset, []⟩ =
        some ⟨offset, last.offset, last.groups⟩ := by
      rw [nextAt?_of_consumes h (by simp), matchAt?]
      exact Option.map_eq_some_iff.mpr ⟨last, hsome, rfl⟩
    have hmatches : pattern.matchesAt last =
        pattern.matchesAt ((Cursor.bare ⟨before, c :: rest, offset, groups⟩).advance (n + 1)) := by
      rw [← matchesAt_bare, hlast, matchesAt_bare]
    have hoffset : last.offset =
        ((Cursor.bare ⟨before, c :: rest, offset, groups⟩).advance (n + 1)).offset := by
      simpa using congrArg Cursor.offset hlast
    rw [hmatches, Cursor.advance_succ, ← matchesFrom_stop h n _ (by simpa [Cursor.bare] using hn),
      ← Cursor.advance_succ, ← hoffset]
    simp only [matchesAt, matchesFrom, hnext, Cursor.step, Cursor.bare]

end Pattern

end Reindent
