import Mathlib.Data.List.TakeWhile
import Mathlib.Tactic.Common
import Reindent.Indenter

/-!
# Leading blanks

A line is its leading blanks followed by its body. The lemmas here say what
becomes of the two parts when other blanks are put before the body, which is
all that an indenter ever does to a line.
-/

namespace Reindent

def AllBlank (text : Text) : Prop := ∀ c ∈ text, Text.isBlank c = true

instance : DecidablePred AllBlank := fun _ => decidable_of_iff _ List.all_eq_true

namespace Text

variable {blanks text : Text} {c : Char}

theorem isBlank_iff : isBlank c = true ↔ c = ' ' ∨ c = '\t' := by
  simp [isBlank]

theorem allBlank_leadingBlanks (text : Text) : AllBlank (leadingBlanks text) := by
  intro c hc
  exact List.mem_takeWhile_imp hc

theorem leadingBlanks_append (h : AllBlank blanks) (text : Text) :
    leadingBlanks (blanks ++ text) = blanks ++ leadingBlanks text :=
  List.takeWhile_append_of_pos h

theorem body_append (h : AllBlank blanks) (text : Text) : body (blanks ++ text) = body text :=
  List.dropWhile_append_of_pos h

@[simp] theorem leadingBlanks_body (text : Text) : leadingBlanks (body text) = [] := by
  induction text with
  | nil => rfl
  | cons c rest ih =>
    by_cases hc : isBlank c = true
    · simpa [leadingBlanks, body, hc] using ih
    · simp [leadingBlanks, body, hc]

@[simp] theorem body_body (text : Text) : body (body text) = body text := by
  have h := leadingBlanks_append_body (body text)
  rwa [leadingBlanks_body, List.nil_append] at h

theorem leadingBlanks_blanks_body (h : AllBlank blanks) (text : Text) :
    leadingBlanks (blanks ++ body text) = blanks := by
  rw [leadingBlanks_append h, leadingBlanks_body, List.append_nil]

theorem body_blanks_body (h : AllBlank blanks) (text : Text) :
    body (blanks ++ body text) = body text := by
  rw [body_append h, body_body]

theorem isWhiteSpace_of_isBlank (h : isBlank c = true) : Unicode.isWhiteSpace c = true := by
  rcases isBlank_iff.mp h with rfl | rfl <;> decide

end Text

namespace AllBlank

variable {blanks : Text}

theorem isAllWhiteSpace (h : AllBlank blanks) : Text.isAllWhiteSpace blanks = true :=
  List.all_eq_true.mpr fun c hc => Text.isWhiteSpace_of_isBlank (h c hc)

theorem byteLength (h : AllBlank blanks) : Text.byteLength blanks = blanks.length := by
  induction blanks with
  | nil => rfl
  | cons c rest ih =>
    have hsize : c.utf8Size = 1 := by
      rcases Text.isBlank_iff.mp (h c List.mem_cons_self) with rfl | rfl <;> rfl
    rw [Text.byteLength, hsize, ih fun d hd => h d (List.mem_cons_of_mem c hd), List.length_cons,
      Nat.add_comm]

end AllBlank

namespace Text

variable {text : Text}

theorem isAllWhiteSpace_body (text : Text) :
    isAllWhiteSpace (body text) = isAllWhiteSpace text := by
  conv_rhs => rw [← leadingBlanks_append_body text]
  rw [isAllWhiteSpace, isAllWhiteSpace, List.all_append]
  have h := (allBlank_leadingBlanks text).isAllWhiteSpace
  rw [isAllWhiteSpace] at h
  rw [h, Bool.true_and]

theorem byteLength_append (s t : Text) : byteLength (s ++ t) = byteLength s + byteLength t := by
  induction s with
  | nil => simp [byteLength]
  | cons c rest ih => simp [byteLength, ih, Nat.add_assoc]

theorem byteLength_pos (h : text ≠ []) : 0 < byteLength text := by
  cases text with
  | nil => exact absurd rfl h
  | cons c rest => exact Nat.lt_of_lt_of_le (Char.utf8Size_pos c) (Nat.le_add_right _ _)

end Text

end Reindent
