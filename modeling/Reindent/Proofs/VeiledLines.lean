import Reindent.Proofs.BracketStack
import Reindent.Proofs.VeiledMatches

/-!
# Lines that differ in hidden text

Two lines may have different comments behind the same code, or both belong to
a here document. In the first case all that is read off one of them up to its
comment is read off the other: where it begins, its brackets and what follows
on these. In the second case there is nothing to read but whether the line is
blank. The texts of statements that are made of such lines differ in hidden
pieces only.
-/

namespace Reindent

-- ---------------------------------------------------------------------------
-- The text before a comment
-- ---------------------------------------------------------------------------

namespace Text

variable {front t u : Text}

theorem leadingBlanks_comment (front t : Text) :
    leadingBlanks (front ++ '#' :: t) = leadingBlanks front := by
  rw [leadingBlanks, List.takeWhile_append, leadingBlanks]
  split
  case isTrue h =>
    have hhash : ('#' :: t).takeWhile isBlank = [] := rfl
    rw [hhash, List.append_nil]
    exact ((List.takeWhile_sublist _).eq_of_length h).symm
  case isFalse => rfl

theorem body_comment_ne_nil (front t : Text) : body (front ++ '#' :: t) ≠ [] := by
  rw [body, ne_eq, List.dropWhile_eq_nil_iff]
  intro hall
  exact absurd (hall '#' (by simp)) (by decide)

theorem length_leadingBlanks_le (text : Text) : (leadingBlanks text).length ≤ byteLength text := by
  rw [← (allBlank_leadingBlanks text).byteLength]
  conv_rhs => rw [← leadingBlanks_append_body text]
  rw [byteLength_append]
  exact Nat.le_add_right _ _

theorem endsInBackslash_comment (front : Text) (h : endsInBackslash t = false) :
    endsInBackslash (front ++ '#' :: t) = false := by
  rw [endsInBackslash, List.getLast?_append_of_ne_nil _ (by simp), List.getLast?_cons]
  cases hlast : t.getLast? with
  | none => rfl
  | some c => rwa [endsInBackslash, hlast] at h

theorem virtualColumnFrom_comment (tabWidth : Nat) {column offset : Nat} (position : Nat)
    (h : column ≤ offset + byteLength front) :
    virtualColumnFrom tabWidth column offset position (front ++ '#' :: t) =
      virtualColumnFrom tabWidth column offset position (front ++ '#' :: u) := by
  induction front generalizing offset position with
  | nil =>
    have hstop : ¬ offset < column := by simpa [byteLength] using h
    simp only [List.nil_append, virtualColumnFrom, if_neg hstop]
  | cons c front ih =>
    rw [byteLength] at h
    simp only [List.cons_append, virtualColumnFrom]
    rw [ih _ (by omega)]

theorem virtualColumn_comment (tabWidth : Nat) {column : Nat} (h : column ≤ byteLength front) :
    virtualColumn tabWidth (front ++ '#' :: t) column =
      virtualColumn tabWidth (front ++ '#' :: u) column :=
  virtualColumnFrom_comment tabWidth 0 (by omega)

theorem bytes_comment (front t : Text) :
    bytes (front ++ '#' :: t) = bytes front ++ '#'.toUInt8 :: bytes t := by
  rw [bytes_append]
  rfl

theorem nextNonBlankColumn_comment {column : Nat} (h : column ≤ byteLength front) :
    nextNonBlankColumn (front ++ '#' :: t) column =
        nextNonBlankColumn (front ++ '#' :: u) column ∧
      ∃ next ≤ byteLength front, nextNonBlankColumn (front ++ '#' :: t) column = some next := by
  have hdrop (t : Text) : (bytes (front ++ '#' :: t)).drop column =
      (bytes front).drop column ++ '#'.toUInt8 :: bytes t := by
    rw [bytes_comment, List.drop_append_of_le_length (by rwa [length_bytes])]
  have hfind (t : Text) :
      ((bytes front).drop column ++ '#'.toUInt8 :: bytes t).findIdx? (!isBlankByte ·) =
        (((bytes front).drop column).findIdx? (!isBlankByte ·)).or
          (some (byteLength front - column)) := by
    have hhash : ('#'.toUInt8 :: bytes t).findIdx? (!isBlankByte ·) = some 0 := rfl
    rw [List.findIdx?_append, hhash, Option.map_some, Nat.zero_add, List.length_drop, length_bytes]
  rw [nextNonBlankColumn, nextNonBlankColumn, hdrop, hdrop, hfind, hfind]
  refine ⟨rfl, ?_⟩
  cases hfound : ((bytes front).drop column).findIdx? (!isBlankByte ·) with
  | none => exact ⟨column + (byteLength front - column), by omega, rfl⟩
  | some i =>
    have hi := (List.findIdx?_eq_some_iff_getElem.mp hfound).1
    rw [List.length_drop, length_bytes] at hi
    exact ⟨column + i, by omega, rfl⟩

theorem lastColumn_comment (front t : Text) :
    ∃ last, lastColumn (front ++ '#' :: t) = some last ∧ byteLength front ≤ last := by
  have hreverse : (front ++ '#' :: t).reverse = t.reverse ++ '#' :: front.reverse := by simp
  obtain ⟨kept, hkept⟩ : ∃ kept, (t.reverse ++ '#' :: front.reverse).dropWhile isBlank =
      kept ++ '#' :: front.reverse := by
    rw [List.dropWhile_append]
    split
    · exact ⟨[], rfl⟩
    · exact ⟨_, rfl⟩
  have hlength : byteLength (kept ++ '#' :: front.reverse) =
      byteLength kept + (1 + byteLength front) := by
    have hback (s : Text) : byteLength s.reverse = byteLength s := by
      induction s with
      | nil => rfl
      | cons c s ih =>
        rw [List.reverse_cons, byteLength_append, ih, byteLength, byteLength, byteLength]
        omega
    rw [byteLength_append, byteLength, hback]
    rfl
  rw [lastColumn, hreverse, hkept]
  cases hnil : kept ++ '#' :: front.reverse with
  | nil => simp at hnil
  | cons c rest => exact ⟨_, rfl, by rw [← hnil, hlength]; omega⟩

end Text

-- ---------------------------------------------------------------------------
-- Lines with comments
-- ---------------------------------------------------------------------------

namespace SourceLine

/-- Two lines with quiet comments behind the same text, which has the same
attributes in both. -/
structure Commented (front t u : Text) (row : Row) (x y : SourceLine) : Prop where
  text_left : x.text = front ++ '#' :: t
  text_right : y.text = front ++ '#' :: u
  row_left : x.row = row ++ List.replicate (Text.byteLength t + 1) .comment
  row_right : y.row = row ++ List.replicate (Text.byteLength u + 1) .comment
  length_row : row.length = Text.byteLength front
  quiet_left : t.Quiet
  quiet_right : u.Quiet

/-- The two lines are the same up to a column, and further on except for their
comments. -/
def AgreeTo (column : Nat) (x y : SourceLine) : Prop :=
  x.text = y.text ∧ x.row = y.row ∨
    ∃ front t u row, Commented front t u row x y ∧ column ≤ Text.byteLength front

def Kept (x y : SourceLine) : Prop := AgreeTo 0 x y

theorem Kept.of_eq {x y : SourceLine} (htext : x.text = y.text) (hrow : x.row = y.row) :
    Kept x y := .inl ⟨htext, hrow⟩

theorem Commented.kept {front t u : Text} {row : Row} {x y : SourceLine}
    (h : Commented front t u row x y) : Kept x y := .inr ⟨front, t, u, row, h, Nat.zero_le _⟩

namespace Commented

variable {front t u : Text} {row : Row} {x y : SourceLine}

theorem symm (h : Commented front t u row x y) : Commented front u t row y x :=
  ⟨h.text_right, h.text_left, h.row_right, h.row_left, h.length_row, h.quiet_right, h.quiet_left⟩

theorem byteLength_eq (h : Commented front t u row x y) :
    Text.byteLength x.text = Text.byteLength front + (Text.byteLength t + 1) := by
  have hsize : '#'.utf8Size = 1 := rfl
  rw [h.text_left, Text.byteLength_append, Text.byteLength, hsize, Nat.add_comm 1]

theorem at_of_lt (h : Commented front t u row x y) {column : Nat}
    (hc : column < Text.byteLength front) : Row.at x.row column = Row.at row column := by
  rw [Row.at, Row.at, h.row_left, List.getElem?_append_left (by rw [h.length_row]; exact hc)]

theorem at_of_ge (h : Commented front t u row x y) {column : Nat}
    (hge : Text.byteLength front ≤ column) (hlt : column < Text.byteLength x.text) :
    Row.at x.row column = .comment := by
  rw [h.byteLength_eq] at hlt
  rw [Row.at, h.row_left, List.getElem?_append_right (by rw [h.length_row]; exact hge),
    List.getElem?_replicate, if_pos (by rw [h.length_row]; omega)]
  rfl

theorem at_hash (h : Commented front t u row x y) :
    Row.at x.row (Text.byteLength front) = .comment := by
  refine h.at_of_ge (Nat.le_refl _) ?_
  rw [h.byteLength_eq]
  omega

end Commented

namespace AgreeTo

variable {x y : SourceLine} {column : Nat}

theorem mono (h : AgreeTo column x y) {c : Nat} (hc : c ≤ column) : AgreeTo c x y :=
  h.imp id fun ⟨front, t, u, row, hcomment, hle⟩ =>
    ⟨front, t, u, row, hcomment, Nat.le_trans hc hle⟩

theorem kept (h : AgreeTo column x y) : Kept x y := h.mono (Nat.zero_le column)

theorem at_eq (h : AgreeTo column x y) : Row.at x.row column = Row.at y.row column := by
  rcases h with ⟨-, hrow⟩ | ⟨front, t, u, row, hcomment, hle⟩
  · rw [hrow]
  · rcases Nat.lt_or_eq_of_le hle with hlt | rfl
    · rw [hcomment.at_of_lt hlt, hcomment.symm.at_of_lt hlt]
    · rw [hcomment.at_hash, hcomment.symm.at_hash]

theorem virtualColumn_eq (h : AgreeTo column x y) (tabWidth : Nat) :
    Text.virtualColumn tabWidth x.text column = Text.virtualColumn tabWidth y.text column := by
  rcases h with ⟨htext, -⟩ | ⟨front, t, u, row, hcomment, hle⟩
  · rw [htext]
  · rw [hcomment.text_left, hcomment.text_right]
    exact Text.virtualColumn_comment tabWidth hle

theorem nextNonBlankColumn_eq (h : AgreeTo column x y) :
    Text.nextNonBlankColumn x.text column = Text.nextNonBlankColumn y.text column ∧
      ∀ next, Text.nextNonBlankColumn x.text column = some next → AgreeTo next x y := by
  rcases h with ⟨htext, hrow⟩ | ⟨front, t, u, row, hcomment, hle⟩
  · exact ⟨by rw [htext], fun _ _ => .inl ⟨htext, hrow⟩⟩
  · obtain ⟨hsame, found, hfound, hnext⟩ := Text.nextNonBlankColumn_comment (u := u) (t := t) hle
    rw [← hcomment.text_left] at hsame hnext
    rw [← hcomment.text_right] at hsame
    refine ⟨hsame, fun next h => .inr ⟨front, t, u, row, hcomment, ?_⟩⟩
    obtain rfl : found = next := Option.some.inj (hnext.symm.trans h)
    exact hfound

end AgreeTo

namespace Kept

variable {x y : SourceLine}

theorem leadingBlanks_eq (h : Kept x y) :
    Text.leadingBlanks x.text = Text.leadingBlanks y.text := by
  rcases h with ⟨htext, -⟩ | ⟨front, t, u, row, hcomment, -⟩
  · rw [htext]
  · rw [hcomment.text_left, hcomment.text_right, Text.leadingBlanks_comment,
      Text.leadingBlanks_comment]

theorem isEmpty_body_eq (h : Kept x y) :
    (Text.body x.text).isEmpty = (Text.body y.text).isEmpty := by
  rcases h with ⟨htext, -⟩ | ⟨front, t, u, row, hcomment, -⟩
  · rw [htext]
  · rw [hcomment.text_left, hcomment.text_right,
      List.isEmpty_eq_false_iff.mpr (Text.body_comment_ne_nil front t),
      List.isEmpty_eq_false_iff.mpr (Text.body_comment_ne_nil front u)]

theorem agreeTo_margin (h : Kept x y) : AgreeTo (Text.leadingBlanks x.text).length x y := by
  refine h.imp id fun ⟨front, t, u, row, hcomment, _⟩ => ⟨front, t, u, row, hcomment, ?_⟩
  rw [hcomment.text_left, Text.leadingBlanks_comment]
  exact Text.length_leadingBlanks_le front

theorem endsInBackslash_eq (h : Kept x y) :
    Text.endsInBackslash x.text = Text.endsInBackslash y.text := by
  rcases h with ⟨htext, -⟩ | ⟨front, t, u, row, hcomment, -⟩
  · rw [htext]
  · rw [hcomment.text_left, hcomment.text_right,
      Text.endsInBackslash_comment front hcomment.quiet_left.backslash,
      Text.endsInBackslash_comment front hcomment.quiet_right.backslash]

theorem at_last_eq (h : Kept x y) : Row.at x.row (Text.byteLength x.text - 1) =
    Row.at y.row (Text.byteLength y.text - 1) := by
  rcases h with ⟨htext, hrow⟩ | ⟨front, t, u, row, hcomment, -⟩
  · rw [htext, hrow]
  · have hlength {x y : SourceLine} {t u : Text} (h : Commented front t u row x y) :
        Text.byteLength front ≤ Text.byteLength x.text - 1 ∧
          Text.byteLength x.text - 1 < Text.byteLength x.text := by
      rw [h.byteLength_eq]
      omega
    obtain ⟨hx, hx'⟩ := hlength hcomment
    obtain ⟨hy, hy'⟩ := hlength hcomment.symm
    rw [hcomment.at_of_ge hx hx', hcomment.symm.at_of_ge hy hy']

theorem at_end_eq (h : Kept x y) : Row.at x.row (Text.byteLength x.text) =
    Row.at y.row (Text.byteLength y.text) := by
  rcases h with ⟨htext, hrow⟩ | ⟨front, t, u, row, hcomment, -⟩
  · rw [htext, hrow]
  · have hend {x y : SourceLine} {t u : Text} (h : Commented front t u row x y) :
        Row.at x.row (Text.byteLength x.text) = .normal := by
      rw [Row.at, List.getElem?_eq_none]
      · rfl
      · rw [h.row_left, h.byteLength_eq, List.length_append, List.length_replicate, h.length_row]
    rw [hend hcomment, hend hcomment.symm]

end Kept

end SourceLine

-- ---------------------------------------------------------------------------
-- Brackets
-- ---------------------------------------------------------------------------

theorem bracketSites_eq_of_row (line : Nat) (text : Text) (row : Row) :
    bracketSites line 0 text row = (Text.bytes text).zipIdx.filterMap fun (b, i) =>
      if (Row.at row i).isCode then bracketSite? (⟨line, i⟩, b) else none :=
  bracketSites_eq_filterMap line fun i => by rw [Nat.zero_add]

theorem isCode_of_mem_bracketSites {line : Nat} {text : Text} {row : Row} {site : BracketSite}
    (h : site ∈ bracketSites line 0 text row) :
    (Row.at row site.position.column).isCode = true ∧
      site.position.column < Text.byteLength text := by
  rw [bracketSites_eq_of_row] at h
  obtain ⟨⟨b, i⟩, hmem, hsite⟩ := List.mem_filterMap.mp h
  dsimp only at hsite
  split at hsite
  case isTrue hcode =>
    have hposition : site.position = ⟨line, i⟩ := by
      have hbyte := (bracketSite?_eq_some hsite).1
      exact (Prod.mk.inj hbyte).1.symm
    have hlt := List.snd_lt_of_mem_zipIdx hmem
    rw [Text.length_bytes, Nat.add_zero] at hlt
    rw [hposition]
    exact ⟨hcode, hlt⟩
  case isFalse => simp at hsite

theorem bracketSites_eq_nil_of_margin {text : Text} {row : Row}
    (h : ∀ i, (Text.leadingBlanks text).length ≤ i → i < Text.byteLength text →
      (Row.at row i).isCode = false) (line : Nat) :
    bracketSites line 0 text row = [] := by
  rw [bracketSites_eq_of_row, List.filterMap_eq_nil_iff]
  rintro ⟨b, i⟩ hmem
  have hlt := List.snd_lt_of_mem_zipIdx hmem
  rw [Text.length_bytes, Nat.add_zero] at hlt
  dsimp only
  by_cases hi : i < (Text.leadingBlanks text).length
  · obtain ⟨hblanks, hlength⟩ := Text.bytes_of_allBlank (Text.allBlank_leadingBlanks text)
    have hbyte : (Text.bytes text)[i]? = some b := by
      simpa using List.mem_zipIdx_iff_getElem?.mp hmem
    rw [← Text.leadingBlanks_append_body text, Text.bytes_append,
      List.getElem?_append_left (by rwa [hlength])] at hbyte
    have hblank : b = ' '.toUInt8 ∨ b = '\t'.toUInt8 := by
      simpa [Text.isBlankByte] using hblanks b (List.mem_of_getElem? hbyte)
    have hnone : bracketSite? (⟨line, i⟩, b) = none := by rcases hblank with rfl | rfl <;> rfl
    rw [hnone, ite_self]
  · rw [h i (Nat.not_lt.mp hi) hlt]
    rfl

namespace SourceLine

theorem Commented.bracketSites_eq {front t u : Text} {row : Row} {x y : SourceLine}
    (h : Commented front t u row x y) (line : Nat) :
    bracketSites line 0 x.text x.row = bracketSites line 0 front row := by
  have hcomment : (('#'.toUInt8 :: Text.bytes t).zipIdx (0 + (Text.bytes front).length)).filterMap
      (fun (b, i) => if (Row.at x.row i).isCode then bracketSite? (⟨line, i⟩, b) else none) =
        [] := by
    rw [List.filterMap_eq_nil_iff]
    rintro ⟨b, i⟩ hmem
    have hge := List.le_snd_of_mem_zipIdx hmem
    have hlt := List.snd_lt_of_mem_zipIdx hmem
    rw [Nat.zero_add, Text.length_bytes] at hge hlt
    rw [List.length_cons, Text.length_bytes] at hlt
    have hlength : i < Text.byteLength x.text := by
      rw [h.byteLength_eq, Nat.add_comm]
      exact hlt
    dsimp only
    rw [h.at_of_ge hge hlength]
    rfl
  rw [bracketSites_eq_of_row, h.text_left, Text.bytes_comment, List.zipIdx_append,
    List.filterMap_append, hcomment, List.append_nil, bracketSites_eq_of_row]
  refine List.filterMap_congr ?_
  rintro ⟨b, i⟩ hmem
  have hlt := List.snd_lt_of_mem_zipIdx hmem
  rw [Text.length_bytes, Nat.add_zero] at hlt
  dsimp only
  rw [h.at_of_lt hlt]

namespace Kept

variable {x y : SourceLine}

theorem bracketSites_eq (h : Kept x y) (line : Nat) :
    bracketSites line 0 x.text x.row = bracketSites line 0 y.text y.row := by
  rcases h with ⟨htext, hrow⟩ | ⟨front, t, u, row, hcomment, -⟩
  · rw [htext, hrow]
  · rw [hcomment.bracketSites_eq, hcomment.symm.bracketSites_eq]

theorem agreeTo_of_isCode (h : Kept x y) {column : Nat}
    (hcode : (Row.at x.row column).isCode = true) (hlt : column < Text.byteLength x.text) :
    AgreeTo (column + 1) x y := by
  refine h.imp id fun ⟨front, t, u, row, hcomment, _⟩ => ⟨front, t, u, row, hcomment, ?_⟩
  by_contra hge
  rw [hcomment.at_of_ge (by omega) hlt] at hcode
  exact Bool.false_ne_true hcode

end Kept

-- ---------------------------------------------------------------------------
-- Lines of here documents
-- ---------------------------------------------------------------------------

end SourceLine

/-- Two lines that are read alike in here documents: both are tame and idle, and
they are blank or white together. -/
structure Text.Alike (s t : Text) : Prop where
  tame_left : s.Tame
  tame_right : t.Tame
  idle_left : s.Idle
  idle_right : t.Idle
  blank_eq : s.body.isEmpty = t.body.isEmpty
  white_eq : s.isAllWhiteSpace = t.isAllWhiteSpace

instance (s t : Text) : Decidable (s.Alike t) :=
  decidable_of_iff ((s.Tame ∧ t.Tame) ∧ (s.Idle ∧ t.Idle) ∧
      s.body.isEmpty = t.body.isEmpty ∧ s.isAllWhiteSpace = t.isAllWhiteSpace)
    ⟨fun ⟨⟨h₁, h₂⟩, ⟨h₃, h₄⟩, h₅, h₆⟩ => ⟨h₁, h₂, h₃, h₄, h₅, h₆⟩,
      fun ⟨h₁, h₂, h₃, h₄, h₅, h₆⟩ => ⟨⟨h₁, h₂⟩, ⟨h₃, h₄⟩, h₅, h₆⟩⟩

theorem Text.Alike.symm {s t : Text} (h : s.Alike t) : t.Alike s :=
  ⟨h.tame_right, h.tame_left, h.idle_right, h.idle_left, h.blank_eq.symm, h.white_eq.symm⟩

namespace SourceLine

structure Masked (x y : SourceLine) : Prop extends x.text.Alike y.text where
  row_left : x.row = List.replicate (Text.byteLength x.text) .hereDocument
  row_right : y.row = List.replicate (Text.byteLength y.text) .hereDocument

namespace Masked

variable {x y : SourceLine}

theorem symm (h : Masked x y) : Masked y x := ⟨h.toAlike.symm, h.row_right, h.row_left⟩

theorem at_of_lt (h : Masked x y) {column : Nat} (hlt : column < Text.byteLength x.text) :
    Row.at x.row column = .hereDocument := by
  rw [h.row_left]
  exact Row.at_replicate hlt

theorem at_margin (h : Masked x y) (hne : Text.body x.text ≠ []) :
    Row.at x.row (Text.leadingBlanks x.text).length = .hereDocument := by
  refine h.at_of_lt ?_
  conv_rhs => rw [← Text.leadingBlanks_append_body x.text]
  rw [Text.byteLength_append, (Text.allBlank_leadingBlanks x.text).byteLength]
  exact Nat.lt_add_of_pos_right (Text.byteLength_pos hne)

theorem at_last (h : Masked x y) (hne : Text.body x.text ≠ []) :
    Row.at x.row (Text.byteLength x.text - 1) = .hereDocument := by
  refine h.at_of_lt (Nat.sub_lt (Text.byteLength_pos ?_) Nat.one_pos)
  rintro hnil
  exact hne (by rw [hnil]; rfl)

theorem at_end (h : Masked x y) : Row.at x.row (Text.byteLength x.text) = .normal := by
  rw [Row.at, h.row_left, List.getElem?_eq_none (by rw [List.length_replicate])]
  rfl

theorem bracketSites_eq_nil (h : Masked x y) (line : Nat) :
    bracketSites line 0 x.text x.row = [] :=
  bracketSites_eq_nil_of_margin (fun _ _ hlt => by rw [h.at_of_lt hlt]; rfl) line

end Masked

-- ---------------------------------------------------------------------------
-- Lines in the text of a statement
-- ---------------------------------------------------------------------------

def marks (x : SourceLine) : Marks := marksFrom (Row.at x.row) 0 (Statement.joined x.text)

end SourceLine

theorem marksFrom_kind {kinds : Nat → Attribute} {kind : Attribute} {offset : Nat} {text : Text}
    (h : ∀ i < Text.byteLength text, kinds (offset + i) = kind) :
    ∀ m ∈ marksFrom kinds offset text, m.2 = kind := by
  have hsame : marksFrom kinds offset text = marksFrom (fun _ => kind) offset text :=
    marksFrom_congr h
  rw [hsame]
  clear h hsame
  induction text generalizing offset with
  | nil => simp [marksFrom]
  | cons c rest ih =>
    intro m hm
    rcases List.mem_cons.mp hm with rfl | hm
    · rfl
    · exact ih m hm

theorem Statement.joined_of_not_endsInBackslash {text : Text}
    (h : Text.endsInBackslash text = false) : joined text = text := by
  rw [joined, h]
  rfl

theorem Statement.mem_joined {text : Text} {c : Char} (h : c ∈ text) (hc : c ≠ '\\') :
    c ∈ joined text := by
  rw [joined]
  split
  case isTrue hlast =>
    obtain ⟨front, rfl⟩ := List.getLast?_eq_some_iff.mp (beq_iff_eq.mp hlast)
    rw [List.dropLast_concat]
    exact List.mem_append_left _ (by simpa [hc] using h)
  case isFalse => exact h

theorem Statement.mem_textFrom {doc : Document} {lines line below : Nat} {c : Char}
    (hge : line ≤ below) (hle : below ≤ line + lines) (h : c ∈ joined (doc.line below)) :
    c ∈ textFrom doc lines line := by
  induction lines generalizing line with
  | zero =>
    obtain rfl : below = line := by omega
    rwa [textFrom_zero]
  | succ lines ih =>
    rw [textFrom_succ]
    rcases Nat.eq_or_lt_of_le hge with rfl | hlt
    · exact List.mem_append_left _ h
    · exact List.mem_append_right _ (List.mem_cons_of_mem _ (ih hlt (by omega)))

namespace SourceLine

variable {x y : SourceLine} {s t : Marks}

theorem Commented.marks_eq {front t u : Text} {row : Row} (h : Commented front t u row x y) :
    x.marks = marksFrom (Row.at row) 0 front ++
      ('#', .comment) :: marksFrom (Row.at x.row) (Text.byteLength front + 1) t := by
  have hjoined := Statement.joined_of_not_endsInBackslash
    (Text.endsInBackslash_comment front h.quiet_left.backslash)
  have hfront : marksFrom (Row.at x.row) 0 front = marksFrom (Row.at row) 0 front := by
    refine marksFrom_congr fun i hi => ?_
    rw [Nat.zero_add, h.at_of_lt hi]
  have hsize : '#'.utf8Size = 1 := rfl
  rw [SourceLine.marks, h.text_left, hjoined, marksFrom_append, hfront, Nat.zero_add, marksFrom,
    h.at_hash, hsize]

theorem Commented.kind_of_mem {front t u : Text} {row : Row} (h : Commented front t u row x y) :
    ∀ m ∈ marksFrom (Row.at x.row) (Text.byteLength front + 1) t, m.2 = .comment := by
  refine marksFrom_kind fun i hi => h.at_of_ge (by omega) ?_
  rw [h.byteLength_eq]
  omega

theorem Kept.veiled (h : Kept x y) (hs : Text.Detached (plainText s)) (hst : Veiled s t) :
    Veiled (x.marks ++ s) (y.marks ++ t) := by
  rcases h with ⟨htext, hrow⟩ | ⟨front, tail, other, row, hcomment, -⟩
  · rw [SourceLine.marks, SourceLine.marks, htext, hrow]
    exact hst.append_left _
  · rw [hcomment.marks_eq, hcomment.symm.marks_eq, List.append_assoc, List.append_assoc]
    refine .append_left (.veil ⟨rfl, hcomment.kind_of_mem, hcomment.symm.kind_of_mem, ?_, ?_,
      .inl rfl⟩ hs hst) _
    · rw [plainText_marksFrom]
      exact hcomment.quiet_left.tame
    · rw [plainText_marksFrom]
      exact hcomment.quiet_right.tame

theorem Kept.isMatch_blockEnd (h : Kept x y) :
    Rules.default.blockEnd.isMatch x.text = Rules.default.blockEnd.isMatch y.text := by
  have hmarks := h.veiled (s := []) rfl .nil
  rw [List.append_nil, List.append_nil] at hmarks
  have hjoined := hmarks.isMatch_blockEnd
  rcases h with ⟨htext, -⟩ | ⟨front, t, u, row, hcomment, -⟩
  · rw [htext]
  · rw [hcomment.text_left, hcomment.text_right] at hjoined ⊢
    rwa [Statement.joined_of_not_endsInBackslash
        (Text.endsInBackslash_comment front hcomment.quiet_left.backslash),
      Statement.joined_of_not_endsInBackslash
        (Text.endsInBackslash_comment front hcomment.quiet_right.backslash)] at hjoined

theorem Kept.endsLoose_eq (h : Kept x y) :
    endsLoose (Statement.joined x.text) = endsLoose (Statement.joined y.text) := by
  rcases h with ⟨htext, -⟩ | ⟨front, t, u, row, hcomment, -⟩
  · rw [htext]
  · have hcommented {x y : SourceLine} {t u : Text} (h : Commented front t u row x y) :
        endsLoose (Statement.joined x.text) = false := by
      rw [h.text_left, Statement.joined_of_not_endsInBackslash
        (Text.endsInBackslash_comment front h.quiet_left.backslash), endsLoose_append, endsLoose,
        h.quiet_left.endsLoose]
      simp [Text.isAllWhiteSpace, show Unicode.isWhiteSpace '#' = false by decide +kernel]
    rw [hcommented hcomment, hcommented hcomment.symm]

theorem Masked.endsLoose_of_white (h : Masked x y) (hwhite : Text.isAllWhiteSpace x.text = true) :
    endsLoose (Statement.joined x.text) = false := by
  rw [Statement.joined_of_not_endsInBackslash h.tame_left.backslash]
  exact endsLoose_of_isAllWhiteSpace hwhite

theorem Masked.marks_eq (h : Masked x y) : x.marks = marksFrom (Row.at x.row) 0 x.text := by
  rw [SourceLine.marks, Statement.joined_of_not_endsInBackslash h.tame_left.backslash]

theorem Masked.kind_of_mem (h : Masked x y) :
    ∀ m ∈ marksFrom (Row.at x.row) 0 x.text, m.2 = .hereDocument :=
  marksFrom_kind fun i hi => by rw [Nat.zero_add, h.at_of_lt hi]

theorem Masked.veil (h : Masked x y) : Veil ' ' .hereDocument x.marks y.marks := by
  rw [h.marks_eq, h.symm.marks_eq]
  refine ⟨rfl, h.kind_of_mem, h.symm.kind_of_mem, ?_, ?_, .inr ⟨rfl, ?_⟩⟩
  all_goals simp only [plainText_marksFrom]
  · exact h.tame_left
  · exact h.tame_right
  · exact ⟨h.idle_left, h.idle_right, h.white_eq⟩

end SourceLine

end Reindent
