import Mathlib.Algebra.GroupWithZero.Nat
import Reindent.Proofs.BracketStack

/-!
# Offsets and positions correspond

A pattern is matched against the text of a statement, and what it finds is
judged by the attributes of the document. Three walks over the lines have to
agree for that: one joins the texts of the lines, one takes an offset apart
and one adds a position up. Here it is shown that offsets and positions are in
one-to-one correspondence and that the text has at each offset the byte of the
line at the position. A joining space counts as the column behind the end
of the line above it.
-/

namespace Reindent

-- ---------------------------------------------------------------------------
-- The bytes of one line
-- ---------------------------------------------------------------------------

theorem eq_of_mem_utf8EncodeChar {c : Char} {b : UInt8} (hb : b ∈ String.utf8EncodeChar c)
    (hlow : b.toNat < 128) : c = Char.ofNat b.toNat := by
  have hsize : c.utf8Size = 1 := by
    by_contra hne
    exact absurd (le_of_mem_utf8EncodeChar hne hb) (Nat.not_le.mpr hlow)
  simp only [String.utf8EncodeChar_eq_singleton hsize, List.mem_singleton] at hb
  rw [hb, ofNat_byte_of_utf8Size hsize]

/-- The byte that stands for a column of a line in the text of a statement: a
space behind the end of the line and in place of a backslash that ends it, and
the byte of the line in every other column. -/
def Text.joinedByte? (line : Text) (column : Nat) : Option UInt8 :=
  if column = byteLength line ∨
      column + 1 = byteLength line ∧ (bytes line)[column]? = some '\\'.toUInt8 then
    some ' '.toUInt8
  else (bytes line)[column]?

theorem Text.joinedByte?_byteLength (line : Text) :
    joinedByte? line (byteLength line) = some ' '.toUInt8 := by
  simp [joinedByte?]

theorem Text.joinedByte?_of_lt {line : Text} {column : Nat} (h : column + 1 < byteLength line) :
    joinedByte? line column = (bytes line)[column]? := by
  rw [joinedByte?, if_neg (by omega)]

namespace Statement

theorem getElem?_bytes_joined {line : Text} {column : Nat} (h : column < Text.byteLength line) :
    (Text.bytes (joined line))[column]? = Text.joinedByte? line column := by
  rcases List.eq_nil_or_concat' line with rfl | ⟨front, c, rfl⟩
  · simp [Text.byteLength] at h
  have hbytes (d : Char) : Text.bytes (front ++ [d]) =
      Text.bytes front ++ String.utf8EncodeChar d := by
    simp [Text.bytes]
  have hlength : Text.byteLength (front ++ [c]) = (Text.bytes front).length + c.utf8Size := by
    rw [← Text.length_bytes, hbytes]
    simp
  by_cases hc : c = '\\'
  · subst hc
    have hjoined : joined (front ++ ['\\']) = front ++ [' '] := by
      simp [joined, Text.endsInBackslash]
    have hsize : '\\'.utf8Size = 1 := rfl
    rcases Nat.lt_or_ge column (Text.bytes front).length with hlt | hge
    · rw [Text.joinedByte?_of_lt (by omega), hjoined, hbytes, hbytes,
        List.getElem?_append_left hlt, List.getElem?_append_left hlt]
    · obtain rfl : column = (Text.bytes front).length := by omega
      have hlast : String.utf8EncodeChar '\\' = ['\\'.toUInt8] := by decide
      have hspace : String.utf8EncodeChar ' ' = [' '.toUInt8] := by decide
      simp [Text.joinedByte?, hjoined, hbytes, hlength, hsize, hlast, hspace]
  · have hjoined : joined (front ++ [c]) = front ++ [c] := by
      simp [joined, Text.endsInBackslash, hc]
    rw [hjoined, Text.joinedByte?, if_neg]
    rintro (hend | ⟨hlast, hbyte⟩)
    · omega
    · have hpos := Char.utf8Size_pos c
      rw [hbytes, List.getElem?_append_right (by omega)] at hbyte
      exact hc (eq_of_mem_utf8EncodeChar (List.mem_of_getElem? hbyte) (by decide))

-- ---------------------------------------------------------------------------
-- Several lines
-- ---------------------------------------------------------------------------

def offsetFrom (doc : Document) (line : Nat) (position : Position) : Nat :=
  (List.range' line (position.line - line)).foldr
    (fun l offset => doc.lineLength l + 1 + offset) position.column

variable {doc : Document} {lines line offset : Nat} {position : Position}

theorem offsetFrom_self (doc : Document) (line column : Nat) :
    offsetFrom doc line ⟨line, column⟩ = column := by
  simp [offsetFrom]

theorem offsetFrom_of_lt (h : line < position.line) :
    offsetFrom doc line position =
      doc.lineLength line + 1 + offsetFrom doc (line + 1) position := by
  obtain ⟨more, hmore⟩ := Nat.exists_eq_add_of_lt h
  have hfirst : position.line - line = more + 1 := by omega
  have hrest : position.line - (line + 1) = more := by omega
  simp [offsetFrom, hfirst, hrest, List.range'_succ]

theorem byteLength_textFrom_zero (doc : Document) (line : Nat) :
    Text.byteLength (textFrom doc 0 line) = doc.lineLength line := by
  rw [textFrom_zero, byteLength_joined, Document.lineLength]

theorem byteLength_textFrom_succ (doc : Document) (lines line : Nat) :
    Text.byteLength (textFrom doc (lines + 1) line) =
      doc.lineLength line + 1 + Text.byteLength (textFrom doc lines (line + 1)) := by
  have hsize : ' '.utf8Size = 1 := rfl
  rw [textFrom_succ, Text.byteLength_append, byteLength_joined, Text.byteLength, hsize,
    Document.lineLength, Nat.add_assoc]

theorem byteLength_textFrom (doc : Document) (lines line : Nat) :
    Text.byteLength (textFrom doc lines line) =
      ((List.range' line (lines + 1)).map doc.lineLength).sum + lines := by
  induction lines generalizing line with
  | zero => simp [byteLength_textFrom_zero]
  | succ lines ih =>
    rw [byteLength_textFrom_succ, ih, List.range'_succ (n := lines + 1), List.map_cons,
      List.sum_cons]
    omega

structure Reaches (doc : Document) (line lines : Nat) (position : Position) : Prop where
  first : line ≤ position.line
  last : position.line ≤ line + lines
  column : position.column ≤ doc.lineLength position.line

/-- An offset in the text is taken apart into a position on the lines, which adds
up to it again. -/
theorem reaches_walk (h : offset ≤ Text.byteLength (textFrom doc lines line)) :
    Reaches doc line lines (walk doc lines line offset) ∧
      offsetFrom doc line (walk doc lines line offset) = offset := by
  induction lines generalizing line offset with
  | zero =>
    rw [byteLength_textFrom_zero] at h
    exact ⟨⟨Nat.le_refl _, Nat.le_refl _, h⟩, offsetFrom_self doc line offset⟩
  | succ lines ih =>
    simp only [walk]
    split
    case isTrue hbelow =>
      rw [byteLength_textFrom_succ] at h
      have hrest : offset - (doc.lineLength line + 1) ≤
          Text.byteLength (textFrom doc lines (line + 1)) := by omega
      obtain ⟨⟨hfirst, hlast, hcolumn⟩, hoffset⟩ := ih hrest
      refine ⟨⟨by omega, by omega, hcolumn⟩, ?_⟩
      rw [offsetFrom_of_lt hfirst, hoffset]
      omega
    case isFalse hhere =>
      exact ⟨⟨Nat.le_refl _, Nat.le_add_right _ _, Nat.le_of_not_lt hhere⟩,
        offsetFrom_self doc line offset⟩

theorem Reaches.cases (h : Reaches doc line lines position) :
    (∃ column ≤ doc.lineLength line, position = ⟨line, column⟩) ∨
      ∃ fewer, lines = fewer + 1 ∧ Reaches doc (line + 1) fewer position := by
  obtain ⟨l, column⟩ := position
  obtain ⟨hfirst, hlast, hcolumn⟩ := h
  dsimp only at hfirst hlast hcolumn
  rcases Nat.eq_or_lt_of_le hfirst with rfl | hbelow
  · exact .inl ⟨column, hcolumn, rfl⟩
  · obtain ⟨fewer, rfl⟩ := Nat.exists_eq_add_one.mpr (show 0 < lines by omega)
    exact .inr ⟨fewer, rfl, hbelow, by dsimp only; omega, hcolumn⟩

theorem walk_offsetFrom (h : Reaches doc line lines position) :
    offsetFrom doc line position ≤ Text.byteLength (textFrom doc lines line) ∧
      walk doc lines line (offsetFrom doc line position) = position := by
  induction lines generalizing line with
  | zero =>
    obtain ⟨column, hcolumn, rfl⟩ | ⟨fewer, hfewer, -⟩ := h.cases
    · rw [offsetFrom_self, byteLength_textFrom_zero]
      exact ⟨hcolumn, rfl⟩
    · simp at hfewer
  | succ lines ih =>
    rw [byteLength_textFrom_succ]
    obtain ⟨column, hcolumn, rfl⟩ | ⟨fewer, hfewer, hbelow⟩ := h.cases
    · rw [offsetFrom_self]
      refine ⟨by omega, ?_⟩
      simp [walk, Nat.not_lt.mpr hcolumn]
    · obtain rfl := Nat.succ.inj hfewer
      obtain ⟨hle, hwalk⟩ := ih hbelow
      rw [offsetFrom_of_lt hbelow.first]
      refine ⟨by omega, ?_⟩
      rw [walk, if_pos (by omega), Nat.add_sub_cancel_left, hwalk]

theorem getElem?_bytes_textFrom (h : offset < Text.byteLength (textFrom doc lines line)) :
    (Text.bytes (textFrom doc lines line))[offset]? =
      Text.joinedByte? (doc.line (walk doc lines line offset).line)
        (walk doc lines line offset).column := by
  induction lines generalizing line offset with
  | zero =>
    rw [byteLength_textFrom_zero] at h
    rw [textFrom_zero]
    exact getElem?_bytes_joined h
  | succ lines ih =>
    have hbytes : Text.bytes (textFrom doc (lines + 1) line) =
        Text.bytes (joined (doc.line line)) ++
          ' '.toUInt8 :: Text.bytes (textFrom doc lines (line + 1)) := by
      rw [textFrom_succ, Text.bytes_append]
      rfl
    have hlength : (Text.bytes (joined (doc.line line))).length = doc.lineLength line := by
      rw [Text.length_bytes, byteLength_joined, Document.lineLength]
    rw [byteLength_textFrom_succ] at h
    rw [hbytes, walk]
    rcases Nat.lt_trichotomy offset (doc.lineLength line) with hlt | rfl | hgt
    · rw [List.getElem?_append_left (hlength ▸ hlt), if_neg (Nat.lt_asymm hlt)]
      exact getElem?_bytes_joined hlt
    · -- The joining space.
      rw [List.getElem?_append_right (Nat.le_of_eq hlength), hlength, Nat.sub_self,
        if_neg (Nat.lt_irrefl _)]
      exact (Text.joinedByte?_byteLength (doc.line line)).symm
    · obtain ⟨more, rfl⟩ := Nat.exists_eq_add_of_le (Nat.succ_le_of_lt hgt)
      have hnext : doc.lineLength line + 1 + more - doc.lineLength line = more + 1 := by omega
      rw [List.getElem?_append_right (by omega), hlength, hnext, List.getElem?_cons_succ,
        if_pos hgt, Nat.add_sub_cancel_left]
      exact ih (by omega)

end Statement

/-- The text of a statement and the positions on its lines correspond exactly. The
text is as long as the lines and the spaces that join them. Every offset, the
end of the text included, has a position on the lines, and the two lead back to
each other. The byte at an offset is the byte at its position, with spaces
where lines are joined and for the backslashes that end lines. -/
theorem content_corresponds_to_positions (doc : Document) (stmt : Statement)
    (h : stmt.start ≤ stmt.stop) :
    let content := stmt.content doc
    let length := (Text.bytes content).length
    length = (stmt.lineNumbers.map doc.lineLength).sum + (stmt.stop - stmt.start) ∧
    (∀ offset ≤ length,
      let position := stmt.positionAt doc offset
      stmt.start ≤ position.line ∧ position.line ≤ stmt.stop ∧
        position.column ≤ doc.lineLength position.line ∧
        stmt.offsetAt doc position = offset) ∧
    (∀ position : Position, stmt.start ≤ position.line → position.line ≤ stmt.stop →
      position.column ≤ doc.lineLength position.line →
        stmt.offsetAt doc position ≤ length ∧
        stmt.positionAt doc (stmt.offsetAt doc position) = position) ∧
    ∀ offset < length,
      let position := stmt.positionAt doc offset
      (Text.bytes content)[offset]? =
        Text.joinedByte? (doc.line position.line) position.column := by
  intro content length
  have hcontent : content = Statement.textFrom doc (stmt.stop - stmt.start) stmt.start :=
    Statement.content_eq_textFrom h doc
  have hlength : length =
      Text.byteLength (Statement.textFrom doc (stmt.stop - stmt.start) stmt.start) := by
    rw [← hcontent]
    exact Text.length_bytes content
  have hlast : stmt.start + (stmt.stop - stmt.start) = stmt.stop := Nat.add_sub_of_le h
  rw [hlength]
  refine ⟨?_, fun offset hle => ?_, fun position hfirst hstop hcolumn => ?_, fun offset hlt => ?_⟩
  · rw [Statement.byteLength_textFrom, Statement.lineNumbers, Nat.sub_add_comm h]
  · obtain ⟨⟨hfirst, hbelow, hcolumn⟩, hoffset⟩ := Statement.reaches_walk hle
    exact ⟨hfirst, hlast ▸ hbelow, hcolumn, hoffset⟩
  · exact Statement.walk_offsetFrom ⟨hfirst, hlast.symm ▸ hstop, hcolumn⟩
  · rw [hcontent]
    exact Statement.getElem?_bytes_textFrom hlt

/-- A statement with a character of two bytes, a backslash and an empty line, which
reaches past the end of the document. -/
theorem content_corresponds_to_positions_backslash :
    let doc := Document.ofLines ["é = 1 \\".toList, [], "+ 2".toList] 8
    let stmt : Statement := ⟨0, 3⟩
    stmt.content doc = "é = 1    + 2 ".toList ∧
      (Text.bytes (stmt.content doc)).length = 14 ∧
      stmt.positionAt doc 9 = ⟨1, 0⟩ ∧ stmt.offsetAt doc ⟨1, 0⟩ = 9 ∧
      stmt.offsetAt doc (stmt.positionAt doc 14) = 14 ∧
      (Text.bytes (stmt.content doc))[7]? = some ' '.toUInt8 := by
  intro doc stmt
  obtain ⟨hlength, hoffsets, -, hbytes⟩ :=
    content_corresponds_to_positions doc stmt (by decide)
  have htotal : (Text.bytes (stmt.content doc)).length = 14 := hlength.trans (by decide)
  refine ⟨by decide, htotal, by decide, by decide, ?_, ?_⟩
  · exact (hoffsets 14 (Nat.le_of_eq htotal.symm)).2.2.2
  · rw [hbytes 7 (by rw [htotal]; decide)]
    decide

end Reindent
