import Reindent.Proofs.VeiledDocuments

/-!
# Comments do not move code

A comment takes the rest of its line, so other words in it leave the state of
the lexer and all other attributes as they are. With the default rules two
documents that differ in quiet comments only are indented alike. A comment that
is not quiet can be taken for code: a backslash at its end continues the line.
-/

namespace Reindent

-- ---------------------------------------------------------------------------
-- Lexing up to a comment
-- ---------------------------------------------------------------------------

namespace Literal

variable {before front t u : List UInt8} {extra : Nat}

theorem getElem?_comment {i : Nat} (h : i ≤ front.length) (t u : List UInt8) :
    (front ++ '#'.toUInt8 :: t)[i]? = (front ++ '#'.toUInt8 :: u)[i]? := by
  rcases Nat.lt_or_eq_of_le h with hlt | rfl
  · rw [List.getElem?_append_left hlt, List.getElem?_append_left hlt]
  · rw [List.getElem?_append_right (Nat.le_refl _), List.getElem?_append_right (Nat.le_refl _),
      Nat.sub_self]
    rfl

theorem percent_comment (before front t u : List UInt8) :
    percent before (front ++ '#'.toUInt8 :: t) = percent before (front ++ '#'.toUInt8 :: u) := by
  match front with
  | [] => rfl
  | [first] => cases htyped : isOneOf "qQwWiIrsx" first <;> simp [percent, htyped]
  | first :: second :: rest =>
    cases htyped : isOneOf "qQwWiIrsx" first <;> simp [percent, htyped]

theorem character_comment (h : character before (front ++ '#'.toUInt8 :: t) = some extra)
    (hle : extra ≤ front.length) (u : List UInt8) :
    character before (front ++ '#'.toUInt8 :: u) = some extra := by
  have hnext := getElem?_comment hle t u
  cases front with
  | nil =>
    have hhash : '#'.toUInt8 ≠ '\\'.toUInt8 := by decide
    obtain rfl : extra = 0 := Nat.le_zero.mp hle
    simp [character, hhash] at h
  | cons first rest =>
    have htwo (w : List UInt8) : min 2 (first :: rest ++ '#'.toUInt8 :: w).length = 2 := by
      rw [List.length_append, List.length_cons, List.length_cons]
      omega
    simp only [character, htwo] at h ⊢
    simp only [List.cons_append] at h ⊢ hnext
    generalize (if first == '\\'.toUInt8 then 2 else 1) = taken at h ⊢
    split at h
    case isTrue => simp at h
    case isFalse hoperand =>
      rw [if_neg hoperand]
      split at h
      case isTrue => simp at h
      case isFalse hblank =>
        rw [if_neg hblank]
        split at h
        case isTrue => simp at h
        case isFalse hend =>
          obtain rfl := Option.some.inj h
          rw [hnext] at hend
          exact if_neg hend

theorem takeWhile_isIdentifier_comment (front t : List UInt8) :
    (front ++ '#'.toUInt8 :: t).takeWhile isIdentifier = front.takeWhile isIdentifier := by
  have hhash : ('#'.toUInt8 :: t).takeWhile isIdentifier = [] := rfl
  rw [List.takeWhile_append, hhash, List.append_nil]
  split
  case isTrue h => exact ((List.takeWhile_sublist _).eq_of_length h).symm
  case isFalse => rfl

def terminatedBy (indented : Bool) (marks : Nat) : List UInt8 → Option (HereDocument × Nat)
  | [] => none
  | first :: rest =>
    if isOneOf "\"'`" first then
      let terminator := rest.takeWhile (· != first)
      if terminator.isEmpty || terminator.length == rest.length then none
      else some (⟨terminator, indented⟩, marks + terminator.length + 2)
    else if isUpper first || (indented && (isLetter first || first == '_'.toUInt8)) then
      let terminator := (first :: rest).takeWhile isIdentifier
      some (⟨terminator, indented⟩, marks + terminator.length)
    else none

theorem hereDocument_cons (first : UInt8) (rest : List UInt8) :
    hereDocument (first :: rest) =
      if isOneOf "-~" first then terminatedBy true 1 rest
      else terminatedBy false 0 (first :: rest) := by
  cases hmark : isOneOf "-~" first with
  | true => cases rest <;> simp [hereDocument, hmark, terminatedBy]
  | false => simp [hereDocument, hmark, terminatedBy]

theorem takeWhile_quote_comment {quote : UInt8} (hquote : ('#'.toUInt8 != quote) = true)
    (front t : List UInt8) :
    front.length < ((front ++ '#'.toUInt8 :: t).takeWhile (· != quote)).length ∨
      (front.takeWhile (· != quote)).length < front.length ∧ ∀ u,
        (front ++ '#'.toUInt8 :: u).takeWhile (· != quote) = front.takeWhile (· != quote) := by
  by_cases hall : (front.takeWhile (· != quote)).length = front.length
  · refine .inl ?_
    rw [List.takeWhile_append, if_pos hall, List.takeWhile_cons, if_pos hquote, List.length_append,
      List.length_cons]
    omega
  · have hle := (List.takeWhile_sublist (· != quote) (l := front)).length_le
    refine .inr ⟨by omega, fun u => ?_⟩
    rw [List.takeWhile_append, if_neg hall]

theorem terminatedBy_comment {document : HereDocument} {indented : Bool} {marks : Nat}
    (h : terminatedBy indented marks (front ++ '#'.toUInt8 :: t) = some (document, extra))
    (hle : extra ≤ marks + front.length) (u : List UInt8) :
    terminatedBy indented marks (front ++ '#'.toUInt8 :: u) = some (document, extra) := by
  cases front with
  | nil =>
    have hnone : terminatedBy indented marks ('#'.toUInt8 :: t) = none := by
      cases indented <;> rfl
    simp [hnone] at h
  | cons first rest =>
    rw [List.length_cons] at hle
    rw [List.cons_append, terminatedBy] at h ⊢
    split at h
    case isTrue hquote =>
      rw [if_pos hquote]
      dsimp only at h ⊢
      have hhash : ('#'.toUInt8 != first) = true := by
        rw [bne_iff_ne]
        rintro rfl
        exact absurd hquote (by decide)
      rcases takeWhile_quote_comment hhash rest t with hlong | ⟨hshort, hterminator⟩
      · split at h
        case isTrue => simp at h
        case isFalse =>
          obtain ⟨-, rfl⟩ := Prod.mk.inj (Option.some.inj h)
          omega
      · have hclosed (w : List UInt8) : ((rest.takeWhile (· != first)).length ==
            (rest ++ '#'.toUInt8 :: w).length) = false := by
          rw [beq_eq_false_iff_ne, List.length_append]
          omega
        rw [hterminator, hclosed] at h
        rw [hterminator, hclosed]
        exact h
    case isFalse hquote =>
      rw [if_neg hquote]
      rw [← List.cons_append, takeWhile_isIdentifier_comment] at h ⊢
      exact h

theorem hereDocument_comment {document : HereDocument}
    (h : hereDocument (front ++ '#'.toUInt8 :: t) = some (document, extra))
    (hle : extra ≤ front.length) (u : List UInt8) :
    hereDocument (front ++ '#'.toUInt8 :: u) = some (document, extra) := by
  cases front with
  | nil =>
    have hnone : hereDocument ('#'.toUInt8 :: t) = none := rfl
    simp [hnone] at h
  | cons first rest =>
    rw [List.length_cons] at hle
    rw [List.cons_append, hereDocument_cons] at h ⊢
    split at h
    case isTrue hmark =>
      rw [if_pos hmark]
      exact terminatedBy_comment h (by omega) u
    case isFalse hmark =>
      rw [if_neg hmark]
      rw [← List.cons_append] at h ⊢
      exact terminatedBy_comment h (by rw [List.length_cons]; omega) u

end Literal

namespace LexState

variable {state : LexState} {before front t u : List UInt8} {b : UInt8}

theorem lexeme_of_kind_comment {after : List UInt8}
    (h : (state.lexeme before b after).kind = .comment) (rest : List UInt8) :
    state.lexeme before b rest = ⟨.comment, rest.length, state⟩ := by
  rw [lexeme] at h ⊢
  cases hcontext : state.context with
  | code =>
    rw [hcontext] at h
    dsimp only at h ⊢
    rw [codeLexeme] at h ⊢
    split at h
    case isTrue hhash => rw [if_pos hhash]
    case isFalse =>
      exfalso
      revert h
      repeat' split
      all_goals simp
  | quoted close opening depth =>
    exfalso
    rw [hcontext] at h
    dsimp only [quotedLexeme] at h
    revert h
    repeat' split
    all_goals simp
  | blockComment => simp [hcontext] at h

theorem codeLexeme_character (state : LexState) (before after : List UInt8) :
    state.codeLexeme before '?'.toUInt8 after =
      match Literal.character before after with
      | none => ⟨.normal, 0, state⟩
      | some extra => ⟨.string, extra, state⟩ := rfl

theorem codeLexeme_hereDocument (state : LexState) (before after : List UInt8) :
    state.codeLexeme before '<'.toUInt8 ('<'.toUInt8 :: after) =
      match Literal.hereDocument after with
      | none => ⟨.normal, 1, state⟩
      | some (document, extra) =>
        ⟨.normal, extra + 1, { state with pending := state.pending ++ [document] }⟩ := rfl

theorem codeLexeme_comment
    (ht : (state.codeLexeme before b (front ++ '#'.toUInt8 :: t)).extra ≤ front.length)
    (hu : (state.codeLexeme before b (front ++ '#'.toUInt8 :: u)).extra ≤ front.length) :
    state.codeLexeme before b (front ++ '#'.toUInt8 :: t) =
      state.codeLexeme before b (front ++ '#'.toUInt8 :: u) := by
  -- Only character literals and here documents look ahead without a limit.
  by_cases hquestion : b = '?'.toUInt8
  · subst hquestion
    rw [codeLexeme_character] at ht hu
    have hsame : Literal.character before (front ++ '#'.toUInt8 :: t) =
        Literal.character before (front ++ '#'.toUInt8 :: u) := by
      refine Option.ext fun extra => ⟨fun h => ?_, fun h => ?_⟩
      · rw [h] at ht
        exact Literal.character_comment h ht u
      · rw [h] at hu
        exact Literal.character_comment h hu t
    rw [codeLexeme_character, codeLexeme_character, hsame]
  by_cases hless : b = '<'.toUInt8 ∧ front.head? = some '<'.toUInt8
  · obtain ⟨rfl, hhead⟩ := hless
    obtain ⟨rest, rfl⟩ := List.head?_eq_some_iff.mp hhead
    rw [List.cons_append, List.length_cons, codeLexeme_hereDocument] at ht hu
    have hsame : Literal.hereDocument (rest ++ '#'.toUInt8 :: t) =
        Literal.hereDocument (rest ++ '#'.toUInt8 :: u) := by
      refine Option.ext fun ⟨document, extra⟩ => ⟨fun h => ?_, fun h => ?_⟩
      · rw [h] at ht
        exact Literal.hereDocument_comment h (Nat.le_of_succ_le_succ ht) u
      · rw [h] at hu
        exact Literal.hereDocument_comment h (Nat.le_of_succ_le_succ hu) t
    rw [List.cons_append, List.cons_append, codeLexeme_hereDocument, codeLexeme_hereDocument, hsame]
  by_cases hhash : b = '#'.toUInt8
  · have hextra : (state.codeLexeme before b (front ++ '#'.toUInt8 :: t)).extra =
        (front ++ '#'.toUInt8 :: t).length := by
      rw [hhash]
      rfl
    rw [hextra, List.length_append, List.length_cons] at ht
    omega
  have hopener (w : List UInt8) : (b == '<'.toUInt8 &&
      (front ++ '#'.toUInt8 :: w).head? == some '<'.toUInt8) = false := by
    rw [← Bool.not_eq_true, Bool.and_eq_true, beq_iff_eq, beq_iff_eq]
    rintro ⟨hb, hhead⟩
    cases front with
    | nil => exact absurd (Option.some.inj hhead) (by decide)
    | cons first rest => exact hless ⟨hb, hhead⟩
  simp only [codeLexeme, Literal.percent_comment before front t u, hopener, beq_iff_eq, hhash,
    hquestion, Bool.false_eq_true, if_false]

theorem lexeme_comment
    (ht : (state.lexeme before b (front ++ '#'.toUInt8 :: t)).extra ≤ front.length)
    (hu : (state.lexeme before b (front ++ '#'.toUInt8 :: u)).extra ≤ front.length) :
    state.lexeme before b (front ++ '#'.toUInt8 :: t) =
      state.lexeme before b (front ++ '#'.toUInt8 :: u) := by
  rw [lexeme] at ht hu
  rw [lexeme, lexeme]
  cases hcontext : state.context with
  | code =>
    rw [hcontext] at ht hu
    exact codeLexeme_comment ht hu
  | quoted | blockComment => rfl

theorem getElem?_scan_of_lt {covered i : Nat} {current : Attribute} {bytes : List UInt8}
    (hi : i < covered) (hlt : i < bytes.length) :
    (state.scan covered current before bytes).1[i]? = some current := by
  induction bytes generalizing covered i before with
  | nil => simp at hlt
  | cons b after ih =>
    obtain ⟨n, rfl⟩ : ∃ n, covered = n + 1 := ⟨covered - 1, by omega⟩
    cases i with
    | zero => rfl
    | succ i => exact ih (Nat.lt_of_succ_lt_succ hi) (Nat.lt_of_succ_lt_succ hlt)

theorem scan_covered {covered : Nat} {current : Attribute} {bytes : List UInt8}
    (h : bytes.length ≤ covered) :
    state.scan covered current before bytes = (List.replicate bytes.length current, state) := by
  induction bytes generalizing covered before with
  | nil => rfl
  | cons b after ih =>
    obtain ⟨n, rfl⟩ : ∃ n, covered = n + 1 := ⟨covered - 1, by rw [List.length_cons] at h; omega⟩
    rw [scan, ih (Nat.le_of_succ_le_succ h)]
    rfl

theorem scan_of_kind_comment {current : Attribute} {rest after : List UInt8}
    (h : (state.lexeme before b rest).kind = .comment) :
    state.scan 0 current before (b :: after) =
      (List.replicate (after.length + 1) .comment, state) := by
  rw [scan, lexeme_of_kind_comment h, scan_covered (Nat.le_refl _)]
  rfl

/-- A lexeme that would cover the `#` of a comment is that comment. -/
theorem extra_le_of_comment {current : Attribute}
    (h : (state.scan 0 current before (b :: (front ++ '#'.toUInt8 :: t))).1[front.length + 1]? =
      some .comment)
    (hkind : (state.lexeme before b (front ++ '#'.toUInt8 :: t)).kind ≠ .comment) :
    (state.lexeme before b (front ++ '#'.toUInt8 :: t)).extra ≤ front.length := by
  by_contra hlong
  rw [scan, List.getElem?_cons_succ, getElem?_scan_of_lt (by omega) (by simp)] at h
  exact hkind (Option.some.inj h)

/-- Two lines that agree up to a `#`, which is part of a comment in both: they have
the same attributes up to there and leave the lexer in the same state. -/
theorem scan_comment {covered : Nat} {current : Attribute}
    (hcurrent : covered = 0 ∨ current ≠ .comment)
    (ht : (state.scan covered current before (front ++ '#'.toUInt8 :: t)).1[front.length]? =
      some .comment)
    (hu : (state.scan covered current before (front ++ '#'.toUInt8 :: u)).1[front.length]? =
      some .comment) :
    ∃ row next, row.length = front.length ∧
      state.scan covered current before (front ++ '#'.toUInt8 :: t) =
        (row ++ List.replicate (t.length + 1) .comment, next) ∧
      state.scan covered current before (front ++ '#'.toUInt8 :: u) =
        (row ++ List.replicate (u.length + 1) .comment, next) := by
  -- The induction is on what stands before the `#`. A lexeme that begins and ends there is
  -- the same in both lines; one that reaches the `#` is the comment itself.
  induction front generalizing state covered current before with
  | nil =>
    cases covered with
    | zero =>
      have hkind : (state.lexeme before '#'.toUInt8 t).kind = .comment := by
        simpa [scan] using ht
      exact ⟨[], state, rfl, scan_of_kind_comment hkind, scan_of_kind_comment hkind⟩
    | succ covered =>
      exfalso
      exact hcurrent.resolve_left (Nat.succ_ne_zero _) (by simpa [scan] using ht)
  | cons b front ih =>
    rw [List.cons_append, List.length_cons] at ht hu
    rw [List.cons_append, List.cons_append]
    cases covered with
    | zero =>
      by_cases hkind : (state.lexeme before b (front ++ '#'.toUInt8 :: t)).kind = .comment
      · have hsplit (w : List UInt8) : (front ++ '#'.toUInt8 :: w).length + 1 =
            front.length + 1 + (w.length + 1) := by
          rw [List.length_append, List.length_cons]
          omega
        refine ⟨List.replicate (front.length + 1) .comment, state, List.length_replicate, ?_, ?_⟩
        all_goals rw [scan_of_kind_comment hkind, hsplit, List.replicate_append_replicate]
      · have hkind' : (state.lexeme before b (front ++ '#'.toUInt8 :: u)).kind ≠ .comment := by
          intro h
          rw [lexeme_of_kind_comment h] at hkind
          exact hkind rfl
        have hsame := lexeme_comment (extra_le_of_comment ht hkind) (extra_le_of_comment hu hkind')
        rw [scan, ← hsame] at hu
        rw [scan] at ht
        obtain ⟨row, next, hlength, hrow, hrow'⟩ := ih (.inr hkind) ht hu
        refine ⟨(state.lexeme before b (front ++ '#'.toUInt8 :: t)).kind :: row, next,
          congrArg Nat.succ hlength, ?_, ?_⟩
        · rw [scan, hrow]
          rfl
        · rw [scan, ← hsame, hrow']
          rfl
    | succ covered =>
      have hcurrent := hcurrent.resolve_left (Nat.succ_ne_zero _)
      obtain ⟨row, next, hlength, hrow, hrow'⟩ := ih (.inr hcurrent) ht hu
      refine ⟨current :: row, next, congrArg Nat.succ hlength, ?_, ?_⟩
      · rw [scan, hrow]
        rfl
      · rw [scan, hrow']
        rfl

theorem drop_lexLine_of_comment (hproper : state.Proper) {text : Text} (hscans : state.Scans text)
    (h : (Row.at (state.lexLine text).1 (Text.leadingBlanks text).length).isComment = true) :
    (state.lexLine text).1.drop (Text.leadingBlanks text).length =
      List.replicate (Text.byteLength (Text.body text)) .comment := by
  have hscanning := hproper.scanning hscans
  obtain ⟨hblank, hlength⟩ := Text.bytes_of_allBlank (Text.allBlank_leadingBlanks text)
  have hdrop : (state.lexLine text).1.drop (Text.leadingBlanks text).length =
      (state.scan 0 .normal [] (Text.bytes (Text.body text))).1 := by
    conv_lhs => rw [lexLine_of_scans hscans, ← Text.leadingBlanks_append_body text,
      Text.bytes_append, Text.leadingBlanks_append_body, ← hlength]
    exact (scan_leadingBlanks hscanning hblank .nil .normal _).1
  rw [← Nat.add_zero (Text.leadingBlanks text).length, ← Row.at_drop, hdrop] at h
  rw [hdrop, ← Text.length_bytes]
  cases hbytes : Text.bytes (Text.body text) with
  | nil => rfl
  | cons b after =>
    have hkind : (state.lexeme [] b after).kind = .comment := by
      have hscan := (lexeme_scanning hscanning [] b after).2
      have hhead : (state.lexeme [] b after).kind.isComment = true := by
        rwa [hbytes] at h
      revert hscan hhead
      cases (state.lexeme [] b after).kind <;> decide
    rw [scan_of_kind_comment hkind]
    rfl

theorem scans_of_comment {line : Text} {column : Nat}
    (h : (state.lexLine line).1[column]? = some .comment) : state.Scans line := by
  by_contra hnot
  obtain ⟨kind, hkind, hrow⟩ := row_of_not_scans hnot
  rw [hrow] at h
  obtain rfl := List.eq_of_mem_replicate (List.mem_of_getElem? h)
  exact absurd hkind (by decide)

theorem lexLine_comment {front t u : Text}
    (ht : (state.lexLine (front ++ '#' :: t)).1[Text.byteLength front]? = some .comment)
    (hu : (state.lexLine (front ++ '#' :: u)).1[Text.byteLength front]? = some .comment) :
    ∃ row next, row.length = Text.byteLength front ∧
      state.lexLine (front ++ '#' :: t) =
        (row ++ List.replicate (Text.byteLength t + 1) .comment, next) ∧
      state.lexLine (front ++ '#' :: u) =
        (row ++ List.replicate (Text.byteLength u + 1) .comment, next) := by
  have hlex {w : Text}
      (h : (state.lexLine (front ++ '#' :: w)).1[Text.byteLength front]? = some .comment) :
      state.lexLine (front ++ '#' :: w) =
        state.scan 0 .normal [] (Text.bytes front ++ '#'.toUInt8 :: Text.bytes w) := by
    rw [lexLine_of_scans (scans_of_comment h), Text.bytes_comment]
  have hleft := hlex ht
  have hright := hlex hu
  simp only [← Text.length_bytes] at ht hu ⊢
  rw [hleft] at ht
  rw [hright] at hu
  rw [hleft, hright]
  exact scan_comment (.inl rfl) ht hu

end LexState

-- ---------------------------------------------------------------------------
-- Documents
-- ---------------------------------------------------------------------------

theorem Attribute.isCode_of_isEmbedded {kind : Attribute} (h : kind.isEmbedded = true) :
    kind.isCode = false := by
  revert h
  cases kind <;> decide

theorem Document.bracketsInCode_ofLines (texts : List Text) (tabWidth : Nat) :
    (ofLines texts tabWidth).BracketsInCode := by
  intro line x hx hcode
  obtain ⟨hstart, hrow⟩ := (Lexed.lexAll (fun _ => False) 0 .start texts).of_getElem? hx
  have hproper : x.start.Proper := hstart ▸ LexState.proper_after LexState.proper_start _
  refine bracketSites_eq_nil_of_margin (fun i hge hlt => ?_) line
  by_cases hscans : x.start.Scans x.text
  · have hbody : Text.byteLength x.text =
        (Text.leadingBlanks x.text).length + Text.byteLength (Text.body x.text) := by
      conv_lhs => rw [← Text.leadingBlanks_append_body x.text]
      rw [Text.byteLength_append, (Text.allBlank_leadingBlanks x.text).byteLength]
    have hcomment : (Row.at x.row (Text.leadingBlanks x.text).length).isComment = true := by
      have hne : (Text.body x.text).isEmpty = false := by
        rw [List.isEmpty_eq_false_iff]
        intro hnil
        rw [hbody, hnil] at hlt
        exact absurd hlt (Nat.not_lt.mpr hge)
      rw [isCodeLine_eq, margin, attributeAt_eq hx, line_eq hx, hne] at hcode
      simpa using hcode
    rw [hrow id] at hcomment ⊢
    have hrest := LexState.drop_lexLine_of_comment hproper hscans hcomment
    obtain ⟨k, rfl⟩ := Nat.exists_eq_add_of_le hge
    rw [← Row.at_drop, hrest, Row.at_replicate (by omega)]
    rfl
  · obtain ⟨kind, hkind, hfilled⟩ := LexState.row_of_not_scans hscans
    rw [hrow id, hfilled, Row.at_replicate hlt, Attribute.isCode_of_isEmbedded hkind]

namespace SourceLine

theorem length_lexAll (state : LexState) (texts : List Text) :
    (lexAll state texts).length = texts.length := by
  rw [← List.length_map (·.text), map_text_lexAll]

theorem forall₂_lexAll {R : SourceLine → SourceLine → Prop} {xs ys : List Text}
    (hlength : xs.length = ys.length)
    (h : ∀ i < xs.length, ∀ x y, (lexAll .start xs)[i]? = some x →
      (lexAll .start ys)[i]? = some y → R x y) :
    List.Forall₂ R (lexAll .start xs) (lexAll .start ys) := by
  have hcount : (lexAll .start xs).length = (lexAll .start ys).length := by
    rw [length_lexAll, length_lexAll, hlength]
  refine List.forall₂_of_length_eq_of_get hcount fun i hx hy => ?_
  rw [length_lexAll] at hx
  exact h i hx _ _ (List.getElem?_eq_getElem _) (List.getElem?_eq_getElem hy)

/-- Two lines with the same text, or with quiet comments behind the same text. -/
def Recommented (x y : SourceLine) : Prop :=
  x.text = y.text ∨ ∃ front t u : Text, x.text = front ++ '#' :: t ∧ y.text = front ++ '#' :: u ∧
    x.row[Text.byteLength front]? = some .comment ∧ y.row[Text.byteLength front]? = some .comment ∧
    t.Quiet ∧ u.Quiet

theorem recommented_lexLine {state : LexState} {x y : Text}
    (h : Recommented ⟨x, state, (state.lexLine x).1⟩ ⟨y, state, (state.lexLine y).1⟩) :
    Kept ⟨x, state, (state.lexLine x).1⟩ ⟨y, state, (state.lexLine y).1⟩ ∧
      (state.lexLine x).2 = (state.lexLine y).2 := by
  rcases h with rfl | ⟨front, t, u, rfl, rfl, hx, hy, ht, hu⟩
  · exact ⟨.of_eq rfl rfl, rfl⟩
  · obtain ⟨row, next, hlength, hleft, hright⟩ := LexState.lexLine_comment hx hy
    rw [hleft, hright]
    exact ⟨Commented.kept ⟨rfl, rfl, rfl, rfl, hlength, ht, hu⟩, rfl⟩

theorem kept_lexAll {state : LexState} {xs ys : List Text}
    (h : List.Forall₂ Recommented (lexAll state xs) (lexAll state ys)) :
    List.Forall₂ Kept (lexAll state xs) (lexAll state ys) := by
  induction xs generalizing state ys with
  | nil =>
    cases ys with
    | nil => exact .nil
    | cons y ys => simp [lexAll] at h
  | cons x xs ih =>
    cases ys with
    | nil => simp [lexAll] at h
    | cons y ys =>
      rw [lexAll, lexAll] at h ⊢
      obtain ⟨hline, hrest⟩ := List.forall₂_cons.mp h
      obtain ⟨hkept, hnext⟩ := recommented_lexLine hline
      rw [← hnext] at hrest ⊢
      exact .cons hkept (ih hrest)

end SourceLine

namespace Document

/-- A line of the two documents is the same up to the `#` of a comment and with it.
In one document `t` is the rest of the comment and in the other `u`. -/
def SharesCode (a b : Document) (line : Nat) (t u : Text) : Prop :=
  ∃ front, a.line line = front ++ '#' :: t ∧ b.line line = front ++ '#' :: u ∧
    a.attributeAt line (Text.byteLength front) = .comment ∧
    b.attributeAt line (Text.byteLength front) = .comment

theorem SharesCode.recommented {a b : Document} {line : Nat} {x y : SourceLine} {t u : Text}
    (h : a.SharesCode b line t u) (ha : a.lines[line]? = some x) (hb : b.lines[line]? = some y)
    (ht : t.Quiet) (hu : u.Quiet) : x.Recommented y := by
  obtain ⟨front, hx, hy, hcomment, hcomment'⟩ := h
  rw [line_eq ha] at hx
  rw [line_eq hb] at hy
  rw [attributeAt_eq ha] at hcomment
  rw [attributeAt_eq hb] at hcomment'
  exact .inr ⟨front, t, u, hx, hy, Row.getElem?_of_at hcomment (by decide),
    Row.getElem?_of_at hcomment' (by decide), ht, hu⟩

end Document

/-- With the default rules, documents that differ in quiet comments only are
indented alike. -/
theorem indent_ignores_quiet_comments (rules : Rules) (hrules : Config.default.compile = .ok rules)
    (xs ys : List Text) (tabWidth : Nat) (hlength : xs.length = ys.length)
    (hlines : ∀ line < xs.length,
      (Document.ofLines xs tabWidth).line line = (Document.ofLines ys tabWidth).line line ∨
        ∃ t u, (Document.ofLines xs tabWidth).SharesCode (Document.ofLines ys tabWidth) line t u ∧
          t.Quiet ∧ u.Quiet)
    (line indentWidth : Nat) (trigger : Trigger) :
    (Document.ofLines xs tabWidth).indent rules line indentWidth trigger =
      (Document.ofLines ys tabWidth).indent rules line indentWidth trigger := by
  obtain rfl := Rules.eq_default hrules
  have hkept : List.Forall₂ SourceLine.Kept (SourceLine.lexAll .start xs)
      (SourceLine.lexAll .start ys) := by
    refine SourceLine.kept_lexAll (SourceLine.forall₂_lexAll hlength fun i hlt x y hx hy => ?_)
    rcases hlines i hlt with hsame | ⟨t, u, hshares, ht, hu⟩
    · rw [Document.line_eq hx, Document.line_eq hy] at hsame
      exact .inl hsame
    · exact hshares.recommented hx hy ht hu
  have hveiled : (Document.ofLines xs tabWidth).Veiled (Document.ofLines ys tabWidth) :=
    ⟨rfl, hkept.imp fun _ _ => .inl⟩
  have hkeeps (l : Nat) : (Document.ofLines xs tabWidth).Keeps (Document.ofLines ys tabWidth) l :=
    rel_getElem? hkept l
  exact hveiled.indent_line_eq (Document.bracketsInCode_ofLines xs tabWidth) (hkeeps line)
    (fun l _ => hkeeps l) indentWidth trigger

/-- Comments with keywords, operators and brackets, in a bracket and behind one. -/
theorem indent_ignores_quiet_comments_call :
    let xs := ["if ready # yes", "call(a, # one", "b) # two", "x"].map String.toList
    let ys := ["if ready # end", "call(a, # ) ((", "b) # and +", "x"].map String.toList
    let a := Document.ofLines xs 8
    let b := Document.ofLines ys 8
    (a.SharesCode b 0 " yes".toList " end".toList ∧ a.SharesCode b 1 " one".toList " ) ((".toList ∧
        a.SharesCode b 2 " two".toList " and +".toList ∧ a.line 3 = b.line 3) ∧
      a.indent .default 3 2 .newline = b.indent .default 3 2 .newline := by
  intro xs ys a b
  have hfirst : a.SharesCode b 0 " yes".toList " end".toList :=
    ⟨"if ready ".toList, by decide +kernel⟩
  have hsecond : a.SharesCode b 1 " one".toList " ) ((".toList :=
    ⟨"call(a, ".toList, by decide +kernel⟩
  have hthird : a.SharesCode b 2 " two".toList " and +".toList := ⟨"b) ".toList, by decide +kernel⟩
  have hlast : a.line 3 = b.line 3 := by decide +kernel
  refine ⟨⟨hfirst, hsecond, hthird, hlast⟩, ?_⟩
  refine indent_ignores_quiet_comments .default Config.compile_default xs ys 8 (by decide)
    (fun line hline => ?_) 3 2 .newline
  have hcases : line = 0 ∨ line = 1 ∨ line = 2 ∨ line = 3 := by
    have hlt : line < 4 := hline
    omega
  rcases hcases with rfl | rfl | rfl | rfl
  · exact .inr ⟨_, _, hfirst, by decide +kernel, by decide +kernel⟩
  · exact .inr ⟨_, _, hsecond, by decide +kernel, by decide +kernel⟩
  · exact .inr ⟨_, _, hthird, by decide +kernel, by decide +kernel⟩
  · exact .inl hlast

/-- A backslash at the end of a comment is taken for one that continues the line,
so not all comments are without effect. -/
theorem comment_backslash_moves_code :
    let a := Document.ofLines (["x = 1 # see \\", "y"].map String.toList) 8
    let b := Document.ofLines (["x = 1 # see ", "y"].map String.toList) 8
    a.SharesCode b 0 " see \\".toList " see ".toList ∧ a.line 1 = b.line 1 ∧
      a.indent .default 1 2 .newline = .setIndent 4 ∧
      b.indent .default 1 2 .newline = .setIndent 0 := by
  intro a b
  exact ⟨⟨"x = 1 ".toList, by decide +kernel⟩, by decide +kernel, by decide +kernel,
    by decide +kernel⟩

end Reindent
