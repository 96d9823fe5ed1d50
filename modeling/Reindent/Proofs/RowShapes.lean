import Reindent.Proofs.StatementEnds

/-!
# The shapes of a row

A row of the lexer is here document throughout, or embedded documentation
throughout, or code and literals with at most one comment behind them. So one
byte is enough to know more: a line that begins with a comment is nothing else,
a line that ends in a here document belongs to it, and of what follows a
bracket the first byte that is no blank tells whether code follows at all.
-/

namespace Reindent

-- ---------------------------------------------------------------------------
-- Rows
-- ---------------------------------------------------------------------------

/-- The rows that the lexer makes. -/
inductive Row.Shaped : Row → Prop
  | hereDocument (n : Nat) : Shaped (List.replicate n .hereDocument)
  | blockComment (n : Nat) : Shaped (List.replicate n .blockComment)
  /-- Code and literals, then a comment. Either may be missing. -/
  | program (front : Row) (n : Nat) (hfront : ∀ kind ∈ front, kind.isProgram = true) :
    Shaped (front ++ List.replicate n .comment)

namespace Attribute

variable {kind : Attribute}

theorem isEmbedded_iff : kind.isEmbedded = true ↔ kind = .hereDocument ∨ kind = .blockComment := by
  cases kind <;> simp [isEmbedded]

theorem isEmbedded_of_isProgram (h : kind.isProgram = true) : kind.isEmbedded = false := by
  cases kind <;> simp_all [isEmbedded, isProgram]

end Attribute

theorem LexState.shaped_lexLine (state : LexState) (line : Text) :
    Row.Shaped (state.lexLine line).1 := by
  by_cases hscans : state.Scans line
  · obtain ⟨front, n, hrow, hfront⟩ := exists_scan_eq hscans.2.1 (.inl rfl) [] (Text.bytes line)
    rw [lexLine_of_scans hscans, hrow]
    exact .program front n hfront
  · obtain ⟨kind, hkind, hrow⟩ := row_of_not_scans hscans
    rw [hrow]
    rcases Attribute.isEmbedded_iff.mp hkind with rfl | rfl
    · exact .hereDocument _
    · exact .blockComment _

theorem Row.Shaped.eq_replicate {row : Row} (h : row.Shaped) {kind : Attribute}
    (hmem : kind ∈ row) (hkind : kind.isEmbedded = true) :
    row = List.replicate row.length kind := by
  cases h with
  | hereDocument n | blockComment n =>
    obtain rfl := List.eq_of_mem_replicate hmem
    rw [List.length_replicate]
  | program front n hfront =>
    exfalso
    rcases List.mem_append.mp hmem with hmem | hmem
    · simp [Attribute.isEmbedded_of_isProgram (hfront kind hmem)] at hkind
    · obtain rfl := List.eq_of_mem_replicate hmem
      simp [Attribute.isEmbedded] at hkind

-- ---------------------------------------------------------------------------
-- The last byte that is no blank
-- ---------------------------------------------------------------------------

namespace Text

variable {text : Text}

theorem exists_utf8EncodeChar_eq_concat {c : Char} (h : isBlank c = false) :
    ∃ front b, String.utf8EncodeChar c = front ++ [b] ∧ isBlankByte b = false := by
  rcases List.eq_nil_or_concat' (String.utf8EncodeChar c) with hnil | ⟨front, b, hlast⟩
  · exact absurd hnil String.utf8EncodeChar_ne_nil
  · refine ⟨front, b, hlast, ?_⟩
    rw [← Bool.not_eq_true]
    intro hb
    have hmem : b ∈ String.utf8EncodeChar c := by simp [hlast]
    have hvalue : b = ' '.toUInt8 ∨ b = '\t'.toUInt8 := by simpa [isBlankByte] using hb
    rcases hvalue with rfl | rfl
    · obtain rfl := eq_of_mem_utf8EncodeChar hmem (by decide)
      exact absurd h (by decide)
    · obtain rfl := eq_of_mem_utf8EncodeChar hmem (by decide)
      exact absurd h (by decide)

theorem byteLength_reverse (text : Text) : byteLength text.reverse = byteLength text := by
  induction text with
  | nil => rfl
  | cons c rest ih => simp [byteLength_append, byteLength, ih, Nat.add_comm]

theorem allBlankBytes_of_lastColumn_none (h : lastColumn text = none) :
    AllBlankBytes (bytes text) := by
  have hblank : AllBlank text := by
    intro c hc
    unfold lastColumn at h
    split at h
    next hkept => exact List.dropWhile_eq_nil_iff.mp hkept c (List.mem_reverse.mpr hc)
    next => simp at h
  exact (bytes_of_allBlank hblank).1

theorem bytes_of_lastColumn {last : Nat} (h : lastColumn text = some last) :
    ∃ front b blanks, bytes text = front ++ b :: blanks ∧ front.length = last ∧
      isBlankByte b = false ∧ AllBlankBytes blanks := by
  have hblanks : AllBlank (text.reverse.takeWhile isBlank).reverse := by
    intro c hc
    exact List.mem_takeWhile_imp (List.mem_reverse.mp hc)
  unfold lastColumn at h
  cases hkept : text.reverse.dropWhile isBlank with
  | nil => simp [hkept] at h
  | cons c kept =>
    have hc : isBlank c = false := by
      have hhead := List.head?_dropWhile_not isBlank text.reverse
      simpa [hkept] using hhead
    obtain ⟨front, b, hchar, hb⟩ := exists_utf8EncodeChar_eq_concat hc
    have htext : text = kept.reverse ++ c :: (text.reverse.takeWhile isBlank).reverse := by
      calc text = (text.reverse.takeWhile isBlank ++ text.reverse.dropWhile isBlank).reverse := by
            rw [List.takeWhile_append_dropWhile, List.reverse_reverse]
        _ = kept.reverse ++ c :: (text.reverse.takeWhile isBlank).reverse := by simp [hkept]
    have hlast : byteLength kept + front.length = last := by
      have hsize : c.utf8Size = front.length + 1 := by
        rw [← String.length_utf8EncodeChar, hchar, List.length_append]
        rfl
      simp only [hkept, byteLength, hsize, Option.some.injEq] at h
      omega
    refine ⟨bytes kept.reverse ++ front, b, _, ?_, ?_, hb, (bytes_of_allBlank hblanks).1⟩
    · conv_lhs => rw [htext]
      simp [bytes, hchar]
    · rw [List.length_append, length_bytes, byteLength_reverse, hlast]

theorem nextNonBlankColumn_eq_none_iff {column : Nat} : nextNonBlankColumn text column = none ↔
    ∀ last, lastColumn text = some last → last < column := by
  rw [nextNonBlankColumn, Option.map_eq_none_iff, List.findIdx?_eq_none_iff]
  cases hlast : lastColumn text with
  | none =>
    have hblank := allBlankBytes_of_lastColumn_none hlast
    simp only [reduceCtorEq, false_implies, implies_true, iff_true]
    intro b hb
    simp [hblank b (List.mem_of_mem_drop hb)]
  | some last =>
    obtain ⟨front, b, blanks, hbytes, rfl, hb, hblanks⟩ := bytes_of_lastColumn hlast
    simp only [Option.some.injEq, forall_eq', hbytes]
    constructor
    · intro hall
      by_contra hle
      have hmem : b ∈ (front ++ b :: blanks).drop column := by
        rw [List.drop_append_of_le_length (Nat.le_of_not_lt hle)]
        simp
      simpa [hb] using hall b hmem
    · intro hlt x hx
      have hbehind : (front ++ b :: blanks).drop column =
          blanks.drop (column - (front.length + 1)) := by
        have hpassed : (front ++ [b]).length ≤ column := by
          rw [List.length_append]
          exact hlt
        rw [List.append_cons, List.drop_append, List.drop_eq_nil_of_le hpassed]
        simp
      rw [hbehind] at hx
      simp [hblanks x (List.mem_of_mem_drop hx)]

theorem nextNonBlankColumn_eq_some {column next : Nat}
    (h : nextNonBlankColumn text column = some next) :
    column ≤ next ∧ (∃ b, (bytes text)[next]? = some b ∧ isBlankByte b = false) ∧
      ∀ i b, column ≤ i → i < next → (bytes text)[i]? = some b → isBlankByte b = true := by
  obtain ⟨k, hk, rfl⟩ := Option.map_eq_some_iff.mp h
  obtain ⟨hlt, hfound, hbefore⟩ := List.findIdx?_eq_some_iff_getElem.mp hk
  refine ⟨Nat.le_add_right column k, ⟨((bytes text).drop column)[k], ?_, ?_⟩, ?_⟩
  · rw [← List.getElem?_drop, List.getElem?_eq_getElem hlt]
  · simpa using hfound
  · intro i b hle hi hb
    have hskipped := hbefore (i - column) (by omega)
    rw [← Nat.add_sub_cancel' hle, ← List.getElem?_drop] at hb
    obtain ⟨_, hvalue⟩ := List.getElem?_eq_some_iff.mp hb
    simpa [hvalue] using hskipped

end Text

-- ---------------------------------------------------------------------------
-- One byte tells
-- ---------------------------------------------------------------------------

namespace Document

theorem isLastCodeColumn_eq (doc : Document) (line column : Nat) :
    doc.isLastCodeColumn line column =
      (doc.nextNonBlankColumn line (column + 1)).all (doc.isComment line) := by
  have hnone : doc.nextNonBlankColumn line (column + 1) = none ↔
      ∀ last, doc.lastColumn line = some last → last < column + 1 :=
    Text.nextNonBlankColumn_eq_none_iff
  unfold isLastCodeColumn
  cases hlast : doc.lastColumn line with
  | none =>
    rw [hnone.mpr (by simp [hlast])]
    rfl
  | some last =>
    dsimp only
    split
    case isTrue hlt =>
      cases hnext : doc.nextNonBlankColumn line (column + 1) with
      | none => exact absurd (hnone.mp hnext last hlast) (Nat.not_lt.mpr hlt)
      | some next => rfl
    case isFalse hge =>
      rw [hnone.mpr (by simpa [hlast] using Nat.lt_succ_of_le (Nat.le_of_not_lt hge))]
      rfl

section
variable {texts : List Text} {tabWidth line : Nat}

theorem row_ofLines {x : SourceLine} (h : (ofLines texts tabWidth).lines[line]? = some x) :
    x.row = (x.start.lexLine x.text).1 :=
  ((Lexed.lexAll (fun _ => False) 0 .start texts).of_getElem? h).2 id

theorem attributeAt_of_isEmbedded {last column : Nat} {kind : Attribute}
    (h : (ofLines texts tabWidth).attributeAt line last = kind) (hkind : kind.isEmbedded = true)
    (hlt : column < (ofLines texts tabWidth).lineLength line) :
    (ofLines texts tabWidth).attributeAt line column = kind := by
  cases hx : (ofLines texts tabWidth).lines[line]? with
  | none => simp [lineLength, Document.line, hx, Text.byteLength] at hlt
  | some x =>
    rw [lineLength, line_eq hx, ← LexState.length_lexLine x.start] at hlt
    rw [attributeAt_eq hx, row_ofLines hx] at h ⊢
    have hne : kind ≠ .normal := by
      rintro rfl
      exact absurd hkind (by decide)
    have hmem := List.mem_of_getElem? (Row.getElem?_of_at h hne)
    rw [(x.start.shaped_lexLine x.text).eq_replicate hmem hkind, Row.at_replicate hlt]

theorem isLastCodeColumn_ofLines_iff {column : Nat} :
    (ofLines texts tabWidth).isLastCodeColumn line column = true ↔
      ∀ later b, column < later →
        (Text.bytes ((ofLines texts tabWidth).line line))[later]? = some b →
        Text.isBlankByte b = true ∨ (ofLines texts tabWidth).isComment line later = true := by
  rw [isLastCodeColumn_eq]
  cases hnext : (ofLines texts tabWidth).nextNonBlankColumn line (column + 1) with
  | none =>
    refine iff_of_true rfl fun later b hlt hb => .inl ?_
    rw [nextNonBlankColumn, Text.nextNonBlankColumn, Option.map_eq_none_iff,
      List.findIdx?_eq_none_iff] at hnext
    have hmem : b ∈ (Text.bytes ((ofLines texts tabWidth).line line)).drop (column + 1) := by
      rw [← Nat.add_sub_cancel' (Nat.succ_le_of_lt hlt), ← List.getElem?_drop] at hb
      exact List.mem_of_getElem? hb
    simpa using hnext b hmem
  | some next =>
    obtain ⟨hle, ⟨b, hb, hblank⟩, hskipped⟩ := Text.nextNonBlankColumn_eq_some hnext
    rw [Option.all_some]
    constructor
    · intro hcomment later c hlt hc
      rcases Nat.lt_or_ge later next with hbefore | hbehind
      · exact .inl (hskipped later c hlt hbefore hc)
      · have hend : later < (ofLines texts tabWidth).lineLength line := by
          rw [lineLength, ← Text.length_bytes]
          exact (List.getElem?_eq_some_iff.mp hc).1
        exact .inr (isComment_of_le hcomment hbehind hend)
    · intro hfiller
      exact (hfiller next b hle hb).resolve_left (by simp [hblank])

end

end Document

/-- Every row of the lexer has one of three shapes. So in a document as it was lexed a line
that begins with a comment is nothing else, a line whose last byte is here document or
embedded documentation is that throughout, and a column is the last one of code exactly if
blanks and comment bytes are all that follows it. -/
theorem rows_have_three_shapes :
    (∀ (state : LexState) (line : Text), Row.Shaped (state.lexLine line).1) ∧
    ∀ (texts : List Text) (tabWidth line : Nat),
      let doc := Document.ofLines texts tabWidth
      (∀ first, doc.firstColumn line = some first → doc.isComment line first = true →
        ∀ later, first ≤ later → later < doc.lineLength line → doc.isComment line later = true) ∧
      (∀ kind : Attribute, kind = .hereDocument ∨ kind = .blockComment →
        doc.lineLength line ≠ 0 → doc.attributeAt line (doc.lineLength line - 1) = kind →
        ∀ column < doc.lineLength line, doc.attributeAt line column = kind) ∧
      ∀ column, doc.isLastCodeColumn line column = true ↔
        ∀ later b, column < later → (Text.bytes (doc.line line))[later]? = some b →
          Text.isBlankByte b = true ∨ doc.isComment line later = true := by
  refine ⟨LexState.shaped_lexLine, fun texts tabWidth line => ⟨?_, ?_, ?_⟩⟩
  · intro first _ hcomment later hle hlt
    exact Document.isComment_of_le hcomment hle hlt
  · intro kind hkind _ hlast column hlt
    exact Document.attributeAt_of_isEmbedded hlast (Attribute.isEmbedded_iff.mpr hkind) hlt
  · intro column
    exact Document.isLastCodeColumn_ofLines_iff

/-- A comment behind a literal that has a `#` of its own, a line that is all comment, and a
here document whose terminator is indented. -/
theorem rows_have_three_shapes_hereDocument :
    let texts := ["f(\"#\", <<-A) # (", "\t A", "  # x"].map String.toList
    let doc := Document.ofLines texts 8
    (∀ later b, 11 < later → (Text.bytes (doc.line 0))[later]? = some b →
        Text.isBlankByte b = true ∨ doc.isComment 0 later = true) ∧
      doc.isLastCodeColumn 0 1 = false ∧
      (∀ column < 3, doc.attributeAt 1 column = .hereDocument) ∧
      ∀ later, 2 ≤ later → later < 5 → doc.isComment 2 later = true := by
  intro texts doc
  obtain ⟨hfirst, -, -⟩ := rows_have_three_shapes.2 texts 8 2
  obtain ⟨-, hlast, -⟩ := rows_have_three_shapes.2 texts 8 1
  obtain ⟨-, -, hcode⟩ := rows_have_three_shapes.2 texts 8 0
  refine ⟨(hcode 11).mp (by decide +kernel), ?_, ?_, ?_⟩
  · rw [← Bool.not_eq_true, hcode]
    intro hall
    exact absurd (hall 2 '"'.toUInt8 (by decide) (by decide +kernel)) (by decide +kernel)
  · exact hlast .hereDocument (.inl rfl) (by decide +kernel) (by decide +kernel)
  · exact hfirst 2 (by decide +kernel) (by decide +kernel)

end Reindent
