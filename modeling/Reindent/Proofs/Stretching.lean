import Mathlib.Data.List.Forall2
import Reindent.Proofs.Blanks
import Reindent.Proofs.DefaultRules

/-!
# Stretched runs of blanks

Other indents for the lines of a statement stretch the runs of blanks in its
text, and with them move all that stands behind. Two such texts are followed
side by side: a place in one has a twin in the other, and a step over a
blank of a stretched run leaves the twin where it is. A pattern that takes no
white space goes the same ways from twins that see no blank.
-/

namespace Reindent

abbrev Marks := List (Char × Attribute)

/-- The two texts differ in the length of runs of blanks only. The flag tells
that blanks may be missing on one side right at the start. -/
inductive Stretch : Bool → Marks → Marks → Prop
  | nil {gap : Bool} : Stretch gap [] []
  | same {gap : Bool} (c : Char) (kind : Attribute) {s t : Marks} :
      Stretch (Text.isBlank c) s t → Stretch gap ((c, kind) :: s) ((c, kind) :: t)
  | left {c : Char} {kind : Attribute} {s t : Marks} :
      Text.isBlank c = true → Stretch true s t → Stretch true ((c, kind) :: s) t
  | right {c : Char} {kind : Attribute} {s t : Marks} :
      Text.isBlank c = true → Stretch true s t → Stretch true s ((c, kind) :: t)

namespace Stretch

variable {gap : Bool} {s t : Marks}

theorem loosen (h : Stretch false s t) : Stretch gap s t := by
  cases h with
  | nil => exact .nil
  | same c kind h => exact .same c kind h

theorem append_left (h : Stretch false s t) (front : Marks) (gap : Bool) :
    Stretch gap (front ++ s) (front ++ t) := by
  induction front generalizing gap with
  | nil => exact h.loosen
  | cons x rest ih => exact .same x.1 x.2 (ih _)

theorem refl (gap : Bool) (s : Marks) : Stretch gap s s := by
  simpa using append_left .nil s gap

theorem blanks_left (h : Stretch true s t) {blanks : Marks}
    (hb : ∀ x ∈ blanks, Text.isBlank x.1 = true) : Stretch true (blanks ++ s) t := by
  induction blanks with
  | nil => exact h
  | cons x rest ih =>
    exact .left (hb x List.mem_cons_self) (ih fun y hy => hb y (List.mem_cons_of_mem x hy))

theorem blanks_right (h : Stretch true s t) {blanks : Marks}
    (hb : ∀ x ∈ blanks, Text.isBlank x.1 = true) : Stretch true s (blanks ++ t) := by
  induction blanks with
  | nil => exact h
  | cons x rest ih =>
    exact .right (hb x List.mem_cons_self) (ih fun y hy => hb y (List.mem_cons_of_mem x hy))

end Stretch

-- ---------------------------------------------------------------------------
-- Twin places
-- ---------------------------------------------------------------------------

def marksFrom (kinds : Nat → Attribute) : Nat → Text → Marks
  | _, [] => []
  | offset, c :: rest => (c, kinds offset) :: marksFrom kinds (offset + c.utf8Size) rest

theorem marksFrom_append (kinds : Nat → Attribute) (offset : Nat) (s t : Text) :
    marksFrom kinds offset (s ++ t) =
      marksFrom kinds offset s ++ marksFrom kinds (offset + Text.byteLength s) t := by
  induction s generalizing offset with
  | nil => rfl
  | cons c rest ih =>
    simp only [List.cons_append, marksFrom, ih, Text.byteLength, Nat.add_assoc]

theorem marksFrom_congr {α β : Nat → Attribute} {m n : Nat} {text : Text}
    (h : ∀ i < Text.byteLength text, α (m + i) = β (n + i)) :
    marksFrom α m text = marksFrom β n text := by
  induction text generalizing m n with
  | nil => rfl
  | cons c rest ih =>
    have hpos := Char.utf8Size_pos c
    rw [marksFrom, marksFrom, ih (m := m + c.utf8Size) (n := n + c.utf8Size)]
    · congr 2
      exact h 0 (by rw [Text.byteLength]; omega)
    · intro i hi
      rw [Nat.add_assoc, Nat.add_assoc]
      exact h _ (by rw [Text.byteLength]; omega)

theorem AllBlank.marksFrom {blanks : Text} (h : AllBlank blanks) (kinds : Nat → Attribute)
    (offset : Nat) : ∀ x ∈ marksFrom kinds offset blanks, Text.isBlank x.1 = true := by
  induction blanks generalizing offset with
  | nil => simp [Reindent.marksFrom]
  | cons c rest ih =>
    intro x hx
    rcases List.mem_cons.mp hx with rfl | hx
    · exact h c List.mem_cons_self
    · exact ih (fun d hd => h d (List.mem_cons_of_mem c hd)) _ x hx

theorem Stretch.blanks {α β : Nat → Attribute} {s t a b : Text} {m n : Nat} (hs : AllBlank s)
    (ht : AllBlank t)
    (h : Stretch true (marksFrom α (m + Text.byteLength s) a)
      (marksFrom β (n + Text.byteLength t) b)) :
    Stretch true (marksFrom α m (s ++ a)) (marksFrom β n (t ++ b)) := by
  rw [marksFrom_append, marksFrom_append]
  exact (h.blanks_right (ht.marksFrom β n)).blanks_left (hs.marksFrom α m)

namespace Cursor

def marks (kinds : Nat → Attribute) (place : Cursor) : Marks :=
  marksFrom kinds place.offset place.after

theorem marks_of_nil {kinds : Nat → Attribute} {place : Cursor} (h : place.after = []) :
    place.marks kinds = [] := by
  rw [marks, h]
  rfl

theorem marks_of_cons {kinds : Nat → Attribute} {place : Cursor} {c : Char} {rest : Text}
    (h : place.after = c :: rest) :
    place.marks kinds = (c, kinds place.offset) :: place.step.marks kinds := by
  rw [marks, marks, h, after_step, offset_step h, h]
  rfl

theorem after_of_marks_nil {kinds : Nat → Attribute} {place : Cursor}
    (h : place.marks kinds = []) : place.after = [] := by
  cases hafter : place.after with
  | nil => rfl
  | cons c rest => simp [marks_of_cons hafter] at h

theorem after_of_marks_cons {kinds : Nat → Attribute} {place : Cursor} {c : Char}
    {kind : Attribute} {s : Marks} (h : place.marks kinds = (c, kind) :: s) :
    ∃ rest, place.after = c :: rest ∧ kinds place.offset = kind ∧ place.step.marks kinds = s := by
  cases hafter : place.after with
  | nil => simp [marks_of_nil hafter] at h
  | cons d rest =>
    rw [marks_of_cons hafter] at h
    obtain ⟨hhead, htail⟩ := List.cons.inj h
    obtain ⟨rfl, hkind⟩ := Prod.mk.inj hhead
    exact ⟨rest, rfl, hkind, htail⟩

end Cursor

section
variable {α β : Nat → Attribute} {gap : Bool} {p q : Cursor} {c : Char}

theorem isWord_of_isBlank (h : Text.isBlank c = true) : Cursor.isWordChar false c = false := by
  rcases Text.isBlank_iff.mp h with rfl | rfl <;> decide +kernel

/-- Places with stretched texts after them and the same to the left as far as
words go. Where blanks may be missing no word ends. -/
structure Twin (α β : Nat → Attribute) (gap : Bool) (p q : Cursor) : Prop where
  stretch : Stretch gap (p.marks α) (q.marks β)
  wordBefore_eq : p.wordBefore false = q.wordBefore false
  wordBefore_of_gap : gap = true → p.wordBefore false = false

namespace Twin

theorem bare (h : Twin α β gap p q) : Twin α β gap p.bare q.bare :=
  ⟨h.stretch, h.wordBefore_eq, h.wordBefore_of_gap⟩

theorem wordBefore_step {rest : Text} (h : p.after = c :: rest) :
    p.step.wordBefore false = Cursor.isWordChar false c := by
  simp [Cursor.step, h, Cursor.wordBefore]

theorem cases {P : Prop} (h : Twin α β gap p q)
    (stop : p.after = [] → q.after = [] → P)
    (same : ∀ c s t, p.after = c :: s → q.after = c :: t → α p.offset = β q.offset →
      Twin α β (Text.isBlank c) p.step q.step → P)
    (left : ∀ c s, p.after = c :: s → Text.isBlank c = true → gap = true →
      Twin α β true p.step q → P)
    (right : ∀ c t, q.after = c :: t → Text.isBlank c = true → gap = true →
      Twin α β true p q.step → P) : P := by
  obtain ⟨hs, hw, hgap⟩ := h
  generalize hm : p.marks α = m at hs
  generalize hn : q.marks β = n at hs
  cases hs with
  | nil => exact stop (Cursor.after_of_marks_nil hm) (Cursor.after_of_marks_nil hn)
  | same c kind hs =>
    obtain ⟨s, hp, hkind, rfl⟩ := Cursor.after_of_marks_cons hm
    obtain ⟨t, hq, hkind', rfl⟩ := Cursor.after_of_marks_cons hn
    refine same c s t hp hq (hkind.trans hkind'.symm) ⟨hs, ?_, ?_⟩
    · rw [wordBefore_step hp, wordBefore_step hq]
    · intro hc
      rw [wordBefore_step hp, isWord_of_isBlank hc]
  | left hc hs =>
    -- The twin stays behind a place where no word ends, and a blank ends none.
    obtain ⟨s, hp, -, rfl⟩ := Cursor.after_of_marks_cons hm
    have hnew := (wordBefore_step hp).trans (isWord_of_isBlank hc)
    refine left _ s hp hc rfl ⟨hn ▸ hs, ?_, fun _ => hnew⟩
    rw [hnew, ← hw, hgap rfl]
  | right hc hs =>
    obtain ⟨t, hq, -, rfl⟩ := Cursor.after_of_marks_cons hn
    have hnew := (wordBefore_step hq).trans (isWord_of_isBlank hc)
    refine right _ t hq hc rfl ⟨hm ▸ hs, ?_, fun _ => hgap rfl⟩
    rw [hnew, hgap rfl]

/-- Twins that see no blank on either side stand where no blanks are missing. -/
theorem settle (h : Twin α β gap p q) (hp : p.after.head?.any Text.isBlank = false)
    (hq : q.after.head?.any Text.isBlank = false) : Twin α β false p q := by
  refine ⟨?_, h.wordBefore_eq, by simp⟩
  refine h.cases ?_ ?_ ?_ ?_
  · intro hp hq
    rw [Cursor.marks_of_nil hp, Cursor.marks_of_nil hq]
    exact .nil
  · intro c s t hp hq hkind hstep
    rw [Cursor.marks_of_cons hp, Cursor.marks_of_cons hq, hkind]
    exact .same c _ hstep.stretch
  · intro c s hc hblank
    simp [hc, hblank] at hp
  · intro c t hc hblank
    simp [hc, hblank] at hq

theorem induction {P : Cursor → Cursor → Prop}
    (stop : ∀ gap p q, Twin α β gap p q → p.after = [] → q.after = [] → P p q)
    (same : ∀ gap p q c s t, Twin α β gap p q → p.after = c :: s → q.after = c :: t →
      Twin α β (Text.isBlank c) p.step q.step → P p.step q.step → P p q)
    (left : ∀ p q c s, p.after = c :: s → Text.isBlank c = true → P p.step q → P p q)
    (right : ∀ p q c t, q.after = c :: t → Text.isBlank c = true → P p q.step → P p q)
    (h : Twin α β gap p q) : P p q := by
  induction hn : p.after.length + q.after.length using Nat.strong_induction_on
    generalizing gap p q with
  | h n ih =>
    refine h.cases ?_ ?_ ?_ ?_
    · exact stop gap p q h
    · intro c s t hp hq _ hstep
      have hp' := Cursor.length_after_step hp
      have hq' := Cursor.length_after_step hq
      exact same gap p q c s t h hp hq hstep (ih _ (by omega) hstep rfl)
    · intro c s hp hc _ hstep
      have hp' := Cursor.length_after_step hp
      exact left p q c s hp hc (ih _ (by omega) hstep rfl)
    · intro c t hq hc _ hstep
      have hq' := Cursor.length_after_step hq
      exact right p q c t hq hc (ih _ (by omega) hstep rfl)

theorem head?_eq (h : Twin α β false p q) : p.after.head? = q.after.head? := by
  refine h.cases ?_ ?_ ?_ ?_
  · intro hp hq
    rw [hp, hq]
  · intro c s t hp hq _ _
    rw [hp, hq]
    rfl
  · simp
  · simp

theorem sees_eq (h : Twin α β false p q) (set : CharSet) : p.sees set = q.sees set := by
  rw [Cursor.sees, Cursor.sees, h.head?_eq]

theorem skip (h : Twin α β gap p q) :
    Twin α β false (p.skip .whiteSpace) (q.skip .whiteSpace) := by
  have past {p : Cursor} {c : Char} {s : Text} (hp : p.after = c :: s)
      (hc : Unicode.isWhiteSpace c = true) : p.skip .whiteSpace = p.step.skip .whiteSpace :=
    Cursor.skip_of_sees (Cursor.sees_iff.mpr ⟨c, s, hp, hc⟩)
  refine Twin.induction (P := fun p q => Twin α β false (p.skip .whiteSpace) (q.skip .whiteSpace))
    ?_ ?_ ?_ ?_ h
  · intro gap p q h hp hq
    rw [Cursor.skip_of_not_sees (by simp [Cursor.sees, hp]),
      Cursor.skip_of_not_sees (by simp [Cursor.sees, hq])]
    exact h.settle (by simp [hp]) (by simp [hq])
  · intro gap p q c s t h hp hq _ ih
    by_cases hc : Unicode.isWhiteSpace c = true
    · rwa [past hp hc, past hq hc]
    · have hblank : Text.isBlank c = false := by
        by_contra hblank
        exact hc (Text.isWhiteSpace_of_isBlank (by simpa using hblank))
      have hset : CharSet.whiteSpace.contains c = false := Bool.eq_false_iff.mpr hc
      rw [Cursor.skip_of_not_sees (by simp [Cursor.sees, hp, hset]),
        Cursor.skip_of_not_sees (by simp [Cursor.sees, hq, hset])]
      exact h.settle (by simp [hp, hblank]) (by simp [hq, hblank])
  · intro p q c s hp hc ih
    rwa [past hp (Text.isWhiteSpace_of_isBlank hc)]
  · intro p q c t hq hc ih
    rwa [past hq (Text.isWhiteSpace_of_isBlank hc)]

end Twin

end

-- ---------------------------------------------------------------------------
-- Patterns without white space
-- ---------------------------------------------------------------------------

def CharSet.isSolid : CharSet → Bool
  | .ranges table => table.all fun (low, high) =>
    Unicode.whiteSpace.all fun (first, last) => high < first || last < low
  | .union a b => a.isSolid && b.isSolid
  | _ => false

theorem Unicode.Ranges.exists_of_contains {table : Ranges} {n : Nat}
    (h : table.contains n = true) : ∃ range ∈ table, range.1 ≤ n ∧ n ≤ range.2 := by
  induction table with
  | nil => simp [contains] at h
  | cons range rest ih =>
    simp only [contains, Bool.and_eq_true, Bool.or_eq_true, decide_eq_true_eq] at h
    obtain ⟨hlow, hhigh | hrest⟩ := h
    · exact ⟨range, List.mem_cons_self, hlow, hhigh⟩
    · obtain ⟨found, hmem, hfound⟩ := ih hrest
      exact ⟨found, List.mem_cons_of_mem _ hmem, hfound⟩

theorem CharSet.contains_single {c d : Char} : (single c).contains d = true ↔ d = c := by
  rw [← Char.toNat_inj]
  simp only [contains, single, interval, Unicode.Ranges.containsChar, Unicode.Ranges.contains,
    Bool.or_false, Bool.and_eq_true, decide_eq_true_eq]
  omega

theorem CharSet.contains_notLineFeed (c : Char) :
    (CharSet.complement (.single '\n')).contains c = (c != '\n') := by
  rw [Bool.eq_iff_iff, contains, Bool.not_eq_true', bne_iff_ne, ne_eq, ← contains_single,
    Bool.not_eq_true]

theorem CharSet.isWhiteSpace_of_isSolid {set : CharSet} (h : set.isSolid = true) {c : Char}
    (hc : set.contains c = true) : Unicode.isWhiteSpace c = false := by
  induction set with
  | ranges table =>
    by_contra hw
    have hw : Unicode.whiteSpace.contains c.toNat = true := by
      rwa [Bool.not_eq_false] at hw
    obtain ⟨range, hmem, hlow, hhigh⟩ := Unicode.Ranges.exists_of_contains hc
    obtain ⟨space, hspace, hfirst, hlast⟩ := Unicode.Ranges.exists_of_contains hw
    have happart := List.all_eq_true.mp (List.all_eq_true.mp h range hmem) space hspace
    simp only [Bool.or_eq_true, decide_eq_true_eq] at happart
    omega
  | union a b iha ihb =>
    simp only [isSolid, Bool.and_eq_true] at h
    rcases Bool.or_eq_true_iff.mp hc with hc | hc
    · exact iha h.1 hc
    · exact ihb h.2 hc
  | _ => simp [isSolid] at h

theorem CharSet.isBlank_of_isSolid {set : CharSet} (h : set.isSolid = true) {c : Char}
    (hc : set.contains c = true) : Text.isBlank c = false := by
  by_contra hblank
  have hw := Text.isWhiteSpace_of_isBlank (Bool.not_eq_false _ ▸ hblank)
  rw [isWhiteSpace_of_isSolid h hc] at hw
  exact Bool.false_ne_true hw

section
variable {α β : Nat → Attribute} {p q : Cursor}

theorem Twin.step {set : CharSet} (h : Twin α β false p q) (hset : set.isSolid = true)
    (hs : p.sees set = true) : Twin α β false p.step q.step := by
  obtain ⟨c, s, hp, hc⟩ := Cursor.sees_iff.mp hs
  refine h.cases ?_ ?_ ?_ ?_
  · simp [hp]
  · intro d s t hd hq _ hstep
    obtain rfl : c = d := (List.cons.inj (hp.symm.trans hd)).1
    rwa [CharSet.isBlank_of_isSolid hset hc] at hstep
  · simp
  · simp

namespace Pattern

/-- A pattern that takes no white space and asks for nothing around it but the
edge of a word. -/
def isSolid : Pattern → Bool
  | .empty | .look (.wordBoundary false) => true
  | .char set => set.isSolid
  | .seq a b | .alt a b => a.isSolid && b.isSolid
  | _ => false

/-- A pattern whose matches begin with a character that is no white space. -/
def leads : Pattern → Bool
  | .char set => set.isSolid
  | .seq (.look _) b => b.leads
  | .seq a _ => a.leads
  | .alt a b => a.leads && b.leads
  | _ => false

variable {pattern : Pattern}

theorem forall₂_ends (hsolid : pattern.isSolid = true) (h : Twin α β false p q) :
    List.Forall₂ (Twin α β false) (pattern.ends p) (pattern.ends q) := by
  induction pattern generalizing p q with
  | empty => exact .cons h .nil
  | char set =>
    rw [ends_char, ends_char, h.sees_eq set]
    split
    case isTrue hs => exact .cons (h.step hsolid (h.sees_eq set ▸ hs)) .nil
    case isFalse => exact .nil
  | look condition =>
    have hholds : condition.holds p = condition.holds q := by
      match condition, hsolid with
      | .wordBoundary false, _ =>
        simp only [Look.holds, h.wordBefore_eq, Cursor.wordAfter, h.head?_eq]
    simp only [ends, hholds]
    split
    · exact .cons h .nil
    · exact .nil
  | seq a b iha ihb =>
    simp only [isSolid, Bool.and_eq_true] at hsolid
    exact List.rel_flatMap (iha hsolid.1 h) fun _ _ h => ihb hsolid.2 h
  | alt a b iha ihb =>
    simp only [isSolid, Bool.and_eq_true] at hsolid
    exact List.rel_append (iha hsolid.1 h) (ihb hsolid.2 h)
  | group name a => simp [isSolid] at hsolid
  | rounds a low high greedy => simp [isSolid] at hsolid

theorem ends_of_leads (hleads : pattern.leads = true) (hs : p.sees .whiteSpace = true) :
    pattern.ends p = [] := by
  fun_induction leads pattern with
  | case1 set =>
    obtain ⟨c, s, hp, hc⟩ := Cursor.sees_iff.mp hs
    have hnot : p.sees set = false := by
      by_contra hsees
      simp only [Cursor.sees, hp, List.head?_cons, Option.any_some, Bool.not_eq_false] at hsees
      have hw := CharSet.isWhiteSpace_of_isSolid hleads hsees
      exact Bool.false_ne_true (hw.symm.trans hc)
    rw [ends_char, if_neg (by simp [hnot])]
  | case2 condition b ih =>
    simp only [ends]
    split
    · simpa using ih hleads
    · rfl
  | case3 a b _ ih => simp [ends, ih hleads]
  | case4 a b iha ihb =>
    simp only [Bool.and_eq_true] at hleads
    simp [ends, iha hleads.1, ihb hleads.2]
  | case5 => simp at hleads

theorem ends_spaces_seq {b : Pattern} (hleads : b.leads = true) (place : Cursor) :
    (Pattern.seq spaces b).ends place = b.ends (place.skip .whiteSpace) :=
  ends_seq_star (fun _ hs => ends_of_leads hleads hs) place

theorem consumes_of_leads (hleads : pattern.leads = true) : pattern.Consumes := by
  intro place last hlast
  fun_induction leads pattern generalizing place last with
  | case1 set =>
    rw [ends_char] at hlast
    split at hlast
    case isTrue hs =>
      obtain rfl := List.mem_singleton.mp hlast
      obtain ⟨c, rest, hafter, -⟩ := Cursor.sees_iff.mp hs
      exact Cursor.offset_lt_step (by simp [hafter])
    case isFalse => simp at hlast
  | case2 condition b ih =>
    obtain ⟨middle, hm, hlast⟩ := List.mem_flatMap.mp hlast
    exact Nat.lt_of_le_of_lt (ahead_of_mem_ends hm).offset_le (ih hleads middle last hlast)
  | case3 a b _ ih =>
    obtain ⟨middle, hm, hlast⟩ := List.mem_flatMap.mp hlast
    exact Nat.lt_of_lt_of_le (ih hleads place middle hm) (ahead_of_mem_ends hlast).offset_le
  | case4 a b iha ihb =>
    simp only [Bool.and_eq_true] at hleads
    rcases List.mem_append.mp hlast with hlast | hlast
    · exact iha hleads.1 place last hlast
    · exact ihb hleads.2 place last hlast
  | case5 => simp at hleads

end Pattern

end

end Reindent
