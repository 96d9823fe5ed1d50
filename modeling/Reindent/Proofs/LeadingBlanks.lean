import Reindent.Proofs.Blanks

/-!
# Leading blanks and the lexer

Blanks at the start of a line change neither the state behind the line nor
the attributes of the bytes after them, as long as the line is scanned for
code and literals: the recognisers skip blanks when they look back, and no
literal is delimited by a blank. Lines of here documents and of embedded
documentation are not scanned. There the blanks can matter, and a `=begin`
counts at the very start of a line only.
-/

namespace Reindent

def AllBlankBytes (bytes : List UInt8) : Prop := ∀ b ∈ bytes, Text.isBlankByte b = true

theorem AllBlankBytes.nil : AllBlankBytes [] := nofun

theorem AllBlankBytes.cons {b : UInt8} {bytes : List UInt8} (hb : Text.isBlankByte b = true)
    (h : AllBlankBytes bytes) : AllBlankBytes (b :: bytes) := by
  intro x hx
  rcases List.mem_cons.mp hx with rfl | hx
  · exact hb
  · exact h x hx

theorem Text.bytes_append (a b : Text) : bytes (a ++ b) = bytes a ++ bytes b :=
  List.flatMap_append

theorem Text.bytes_of_allBlank {blanks : Text} (h : AllBlank blanks) :
    AllBlankBytes (bytes blanks) ∧ (bytes blanks).length = blanks.length := by
  induction blanks with
  | nil => exact ⟨.nil, rfl⟩
  | cons c rest ih =>
    obtain ⟨hbytes, hlength⟩ := ih fun x hx => h x (List.mem_cons_of_mem _ hx)
    have hone : ∃ b, String.utf8EncodeChar c = [b] ∧ isBlankByte b = true := by
      rcases isBlank_iff.mp (h c List.mem_cons_self) with rfl | rfl
      · exact ⟨' '.toUInt8, by decide, by decide⟩
      · exact ⟨'\t'.toUInt8, by decide, by decide⟩
    obtain ⟨b, hc, hb⟩ := hone
    have hcons : bytes (c :: rest) = b :: bytes rest := by
      rw [bytes, List.flatMap_cons, hc]
      rfl
    rw [hcons]
    exact ⟨hbytes.cons hb, by simp [hlength]⟩

-- ---------------------------------------------------------------------------
-- Looking back
-- ---------------------------------------------------------------------------

namespace Literal

variable {blanks : List UInt8}

theorem isBlankByte_eq_false_of_isOneOf {set : String} {b : UInt8}
    (hset : (asciiBytes set).all (fun b => !Text.isBlankByte b) = true)
    (h : isOneOf set b = true) : Text.isBlankByte b = false := by
  simpa using List.all_eq_true.mp hset b (by simpa [isOneOf] using h)

theorem isIdentifier_of_isBlankByte {b : UInt8} (h : Text.isBlankByte b = true) :
    isIdentifier b = false := by
  have hb : b = ' '.toUInt8 ∨ b = '\t'.toUInt8 := by simpa [Text.isBlankByte] using h
  rcases hb with rfl | rfl <;> decide

theorem takeWhile_isIdentifier_append (h : AllBlankBytes blanks) (bytes : List UInt8) :
    (bytes ++ blanks).takeWhile isIdentifier = bytes.takeWhile isIdentifier := by
  induction bytes with
  | nil =>
    cases blanks with
    | nil => rfl
    | cons b rest =>
      simp [isIdentifier_of_isBlankByte (h b List.mem_cons_self)]
  | cons b rest ih => simp only [List.cons_append, List.takeWhile_cons, ih]

theorem operandBefore_append (h : AllBlankBytes blanks) (before : List UInt8) :
    operandBefore (before ++ blanks) = operandBefore before := by
  have hdrop : (before ++ blanks).dropWhile Text.isBlankByte =
      if (before.dropWhile Text.isBlankByte).isEmpty then []
      else before.dropWhile Text.isBlankByte ++ blanks := by
    rw [List.dropWhile_append, List.dropWhile_eq_nil_iff.mpr h]
  rw [operandBefore, operandBefore, hdrop]
  cases before.dropWhile Text.isBlankByte with
  | nil => rfl
  | cons last rest =>
    have := takeWhile_isIdentifier_append h (last :: rest)
    simp only [List.cons_append] at this
    simp only [List.isEmpty_cons, Bool.false_eq_true, if_false, List.cons_append, this]

theorem percent_append (h : AllBlankBytes blanks) (before after : List UInt8) :
    percent (before ++ blanks) after = percent before after := by
  have htouching : (before ++ blanks).head?.any (fun b => !Text.isBlankByte b) =
      before.head?.any fun b => !Text.isBlankByte b := by
    cases before with
    | nil =>
      cases blanks with
      | nil => rfl
      | cons b rest => simp [h b List.mem_cons_self]
    | cons b rest => rfl
  simp only [percent, operandBefore_append h, htouching]

theorem character_append (h : AllBlankBytes blanks) (before after : List UInt8) :
    character (before ++ blanks) after = character before after := by
  simp only [character, operandBefore_append h]

theorem isOneOf_of_percent {before after : List UInt8} {delimiter : UInt8} {extra : Nat}
    (h : percent before after = some (delimiter, extra)) :
    isOneOf "([\x7b<|!/^" delimiter = true := by
  simp only [percent] at h
  split at h
  · simp at h
  · split at h
    · next hone =>
      obtain ⟨rfl, -⟩ := Prod.mk.inj (Option.some.inj h)
      simp only [Bool.and_eq_true] at hone
      exact hone.1
    · simp at h

end Literal

namespace LexState

variable {state : LexState} {blanks : List UInt8}

theorem lexeme_append (h : AllBlankBytes blanks) (before : List UInt8) (b : UInt8)
    (after : List UInt8) :
    state.lexeme (before ++ blanks) b after = state.lexeme before b after := by
  rw [lexeme, lexeme]
  cases state.context with
  | code =>
    simp only [codeLexeme, Literal.percent_append h, Literal.operandBefore_append h,
      Literal.character_append h]
  | quoted | blockComment => rfl

theorem scan_append (h : AllBlankBytes blanks) (covered : Nat) (current : Attribute)
    (before bytes : List UInt8) :
    state.scan covered current (before ++ blanks) bytes =
      state.scan covered current before bytes := by
  induction bytes generalizing state covered current before with
  | nil => rfl
  | cons b after ih =>
    cases covered with
    | zero => simp only [scan, lexeme_append h, ← List.cons_append, ih]
    | succ covered => simp only [scan, ← List.cons_append, ih]

end LexState

-- ---------------------------------------------------------------------------
-- Lines that are scanned
-- ---------------------------------------------------------------------------

def Attribute.isEmbedded : Attribute → Bool
  | .hereDocument | .blockComment => true
  | _ => false

/-- Contexts in which bytes are scanned. No delimiter is a blank. -/
def LexContext.Scanning : LexContext → Prop
  | .code => True
  | .quoted close opening _ =>
    Text.isBlankByte close = false ∧ ∀ o ∈ opening, Text.isBlankByte o = false
  | .blockComment => False

/-- States that the lexer can be in at the start of a line. -/
def LexState.Proper (state : LexState) : Prop :=
  state.context.Scanning ∨ state.context = .blockComment

namespace LexState

variable {state : LexState}

theorem isBlankByte_closingDelimiter {b : UInt8} (h : Text.isBlankByte b = false) :
    Text.isBlankByte (Literal.closingDelimiter b) = false := by
  unfold Literal.closingDelimiter
  repeat' split
  all_goals first | decide | exact h

theorem codeLexeme_scanning (hs : state.context.Scanning) (before : List UInt8) (b : UInt8)
    (after : List UInt8) :
    (state.codeLexeme before b after).state.context.Scanning ∧
      (state.codeLexeme before b after).kind.isEmbedded = false := by
  unfold codeLexeme
  split
  · exact ⟨hs, rfl⟩
  split
  case isTrue hquote =>
    exact ⟨⟨Literal.isBlankByte_eq_false_of_isOneOf (by decide) hquote, by simp⟩, rfl⟩
  split
  · split
    · exact ⟨hs, rfl⟩
    · next delimiter extra hp =>
      have hd : Text.isBlankByte delimiter = false :=
        Literal.isBlankByte_eq_false_of_isOneOf (by decide) (Literal.isOneOf_of_percent hp)
      refine ⟨⟨isBlankByte_closingDelimiter hd, ?_⟩, rfl⟩
      intro o ho
      split at ho
      · simp at ho
      · obtain rfl : delimiter = o := by simpa using ho
        exact hd
  split
  case isTrue hslash =>
    split
    · exact ⟨hs, rfl⟩
    · obtain rfl : b = '/'.toUInt8 := by simpa using hslash
      exact ⟨⟨by decide, by simp⟩, rfl⟩
  split
  · split
    · exact ⟨hs, rfl⟩
    · exact ⟨hs, rfl⟩
  split
  · split
    · exact ⟨hs, rfl⟩
    · exact ⟨hs, rfl⟩
  · exact ⟨hs, rfl⟩

theorem lexeme_scanning (hs : state.context.Scanning) (before : List UInt8) (b : UInt8)
    (after : List UInt8) :
    (state.lexeme before b after).state.context.Scanning ∧
      (state.lexeme before b after).kind.isEmbedded = false := by
  unfold lexeme
  cases hc : state.context with
  | code => exact codeLexeme_scanning hs before b after
  | quoted close opening depth =>
    have hq : (LexContext.quoted close opening depth).Scanning := hc ▸ hs
    simp only [quotedLexeme]
    split
    · exact ⟨hs, rfl⟩
    split
    · exact ⟨hq, rfl⟩
    split
    · cases depth with
      | zero => exact ⟨trivial, rfl⟩
      | succ depth => exact ⟨hq, rfl⟩
    · exact ⟨hs, rfl⟩
  | blockComment => simp [hc, LexContext.Scanning] at hs

theorem scan_scanning (hs : state.context.Scanning) (covered : Nat) {current : Attribute}
    (hcur : current.isEmbedded = false) (before bytes : List UInt8) :
    (state.scan covered current before bytes).2.context.Scanning ∧
      ∀ a ∈ (state.scan covered current before bytes).1, a.isEmbedded = false := by
  induction bytes generalizing state covered current before with
  | nil => exact ⟨hs, by simp [scan]⟩
  | cons b after ih =>
    cases covered with
    | zero =>
      obtain ⟨hnext, hkind⟩ := lexeme_scanning hs before b after
      obtain ⟨hend, hrow⟩ := ih hnext (state.lexeme before b after).extra hkind (b :: before)
      refine ⟨hend, ?_⟩
      intro a ha
      rcases List.mem_cons.mp ha with rfl | ha
      · exact hkind
      · exact hrow a ha
    | succ covered =>
      obtain ⟨hend, hrow⟩ := ih hs covered hcur (b :: before)
      refine ⟨hend, ?_⟩
      intro a ha
      rcases List.mem_cons.mp ha with rfl | ha
      · exact hcur
      · exact hrow a ha

theorem lexeme_blank (hs : state.context.Scanning) {b : UInt8} (hb : Text.isBlankByte b = true)
    (before after : List UInt8) :
    (state.lexeme before b after).state = state ∧ (state.lexeme before b after).extra = 0 := by
  have hvalue : b = ' '.toUInt8 ∨ b = '\t'.toUInt8 := by simpa [Text.isBlankByte] using hb
  unfold lexeme
  cases hc : state.context with
  | code =>
    have hplain : state.codeLexeme before b after = ⟨.normal, 0, state⟩ := by
      rcases hvalue with rfl | rfl <;> rfl
    simp [hplain]
  | quoted close opening depth =>
    rw [hc] at hs
    obtain ⟨hclose, hopening⟩ := hs
    have hb1 : (b == '\\'.toUInt8) = false := by rcases hvalue with rfl | rfl <;> decide
    have hb2 : (opening == some b) = false := by
      rw [beq_eq_false_iff_ne]
      rintro rfl
      simp [hopening b rfl] at hb
    have hb3 : (b == close) = false := by
      rw [beq_eq_false_iff_ne]
      rintro rfl
      simp [hclose] at hb
    simp [quotedLexeme, hb1, hb2, hb3]
  | blockComment => simp [hc, LexContext.Scanning] at hs

/-- What blanks at the start of a line do: they take their own attributes and
nothing else changes. -/
theorem scan_leadingBlanks (hs : state.context.Scanning) {blanks before : List UInt8}
    (hblanks : AllBlankBytes blanks) (hbefore : AllBlankBytes before) (current : Attribute)
    (bytes : List UInt8) :
    (state.scan 0 current before (blanks ++ bytes)).1.drop blanks.length =
        (state.scan 0 .normal [] bytes).1 ∧
      (state.scan 0 current before (blanks ++ bytes)).2 = (state.scan 0 .normal [] bytes).2 := by
  induction blanks generalizing before current with
  | nil =>
    have hcurrent : state.scan 0 current before bytes = state.scan 0 .normal [] bytes := by
      rw [← scan_append hbefore 0 .normal [] bytes, List.nil_append]
      cases bytes <;> rfl
    simp [hcurrent]
  | cons b rest ih =>
    have hb := hblanks b List.mem_cons_self
    obtain ⟨hstate, hextra⟩ := lexeme_blank hs hb before (rest ++ bytes)
    simp only [List.cons_append, scan, hstate, hextra, List.length_cons, List.drop_succ_cons]
    exact ih (fun x hx => hblanks x (List.mem_cons_of_mem _ hx)) (hbefore.cons hb) _

/-- The line is scanned: it belongs neither to a here document nor to embedded
documentation. -/
def Scans (state : LexState) (line : Text) : Prop :=
  state.pending = [] ∧ state.context ≠ .blockComment ∧
    ¬ (state.context = .code ∧ "=begin".toList <+: line)

theorem lexLine_of_scans {line : Text} (h : state.Scans line) :
    state.lexLine line = state.scan 0 .normal [] (Text.bytes line) := by
  obtain ⟨hpending, hcontext, hbegin⟩ := h
  simp only [lexLine, hpending]
  cases hc : state.context with
  | blockComment => exact absurd hc hcontext
  | quoted => rfl
  | code =>
    have : "=begin".toList.isPrefixOf line = false := by
      rw [← Bool.not_eq_true, List.isPrefixOf_iff_prefix]
      exact fun hp => hbegin ⟨hc, hp⟩
    simp only [this, Bool.false_eq_true, if_false]

theorem row_of_not_scans {line : Text} (h : ¬ state.Scans line) :
    ∃ kind : Attribute, kind.isEmbedded = true ∧
      (state.lexLine line).1 = List.replicate (Text.byteLength line) kind := by
  rw [lexLine]
  cases hpending : state.pending with
  | cons document later => exact ⟨.hereDocument, rfl, rfl⟩
  | nil =>
    cases hc : state.context with
    | blockComment => exact ⟨.blockComment, rfl, rfl⟩
    | quoted => exact absurd ⟨hpending, by simp [hc], by simp [hc]⟩ h
    | code =>
      by_cases hbegin : "=begin".toList <+: line
      · refine ⟨.blockComment, rfl, ?_⟩
        rw [if_pos (List.isPrefixOf_iff_prefix.mpr hbegin)]
      · exact absurd ⟨hpending, by simp [hc], fun hb => hbegin hb.2⟩ h

theorem Proper.scanning {line : Text} (hp : state.Proper) (h : state.Scans line) :
    state.context.Scanning :=
  hp.resolve_right h.2.1

theorem proper_lexLine (hp : state.Proper) (line : Text) : (state.lexLine line).2.Proper := by
  by_cases h : state.Scans line
  · rw [lexLine_of_scans h]
    exact .inl (scan_scanning (hp.scanning h) 0 rfl [] _).1
  · rw [lexLine]
    cases hpending : state.pending with
    | cons document later =>
      dsimp only
      split <;> exact hp
    | nil =>
      cases hc : state.context with
      | blockComment =>
        dsimp only
        split
        · exact .inl trivial
        · exact hp
      | quoted => exact absurd ⟨hpending, by simp [hc], by simp [hc]⟩ h
      | code =>
        have hbegin : "=begin".toList <+: line := by
          by_contra hbegin
          exact h ⟨hpending, by simp [hc], fun hb => hbegin hb.2⟩
        dsimp only
        rw [if_pos (List.isPrefixOf_iff_prefix.mpr hbegin)]
        exact .inr rfl

/-- Other leading blanks leave the state behind a scanned line and the
attributes of its body as they are. -/
theorem lexLine_reblanked (hp : state.Proper) {s t : Text} (hs : state.Scans s)
    (ht : state.Scans t) (hbody : Text.body s = Text.body t) :
    (state.lexLine s).2 = (state.lexLine t).2 ∧
      (state.lexLine s).1.drop (Text.leadingBlanks s).length =
        (state.lexLine t).1.drop (Text.leadingBlanks t).length := by
  have split_scan {u : Text} (hu : state.Scans u) :
      (state.lexLine u).1.drop (Text.leadingBlanks u).length =
          (state.scan 0 .normal [] (Text.bytes (Text.body u))).1 ∧
        (state.lexLine u).2 = (state.scan 0 .normal [] (Text.bytes (Text.body u))).2 := by
    obtain ⟨hblank, hlength⟩ := Text.bytes_of_allBlank (Text.allBlank_leadingBlanks u)
    have hbytes : Text.bytes u =
        Text.bytes (Text.leadingBlanks u) ++ Text.bytes (Text.body u) := by
      rw [← Text.bytes_append, Text.leadingBlanks_append_body]
    rw [lexLine_of_scans hu, hbytes, ← hlength]
    exact scan_leadingBlanks (hp.scanning hu) hblank .nil .normal _
  obtain ⟨hs1, hs2⟩ := split_scan hs
  obtain ⟨ht1, ht2⟩ := split_scan ht
  rw [hs1, hs2, ht1, ht2, hbody]
  exact ⟨rfl, rfl⟩

end LexState

end Reindent
