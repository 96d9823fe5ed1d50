import Reindent.Proofs.HereDocumentQueue
import Reindent.Proofs.HereDocuments
import Reindent.Proofs.Offsets

/-!
# Terminators of here documents

The opener of a here document names its terminator, in quotes or as a bare
identifier. In either case the terminator is a piece of the line that begins and
ends between two characters, since all that delimits it is ASCII. A line is
trimmed before it is compared with the terminator, and the terminator is not. So
the terminator closes its document exactly if it has no white space where lines
are trimmed. A quoted terminator that has some closes nothing, and neither does
any other line: such a document goes on to the end of the text.
-/

namespace Reindent

-- ---------------------------------------------------------------------------
-- Cutting a text at its ASCII bytes
-- ---------------------------------------------------------------------------

namespace Text

theorem bytes_injective : Function.Injective bytes := by
  intro s t h
  have hencode : s.utf8Encode = t.utf8Encode := congrArg List.toByteArray h
  have hdecode : some s.toArray = some t.toArray := by
    rw [← List.utf8Decode?_utf8Encode, ← List.utf8Decode?_utf8Encode, hencode]
  simpa using hdecode

theorem bytes_cons (c : Char) (text : Text) :
    bytes (c :: text) = String.utf8EncodeChar c ++ bytes text :=
  List.flatMap_cons

theorem exists_split_of_ascii {text : Text} {front back : List UInt8} {b : UInt8}
    (h : bytes text = front ++ b :: back) (hb : b.toNat < 128) :
    ∃ s c t, text = s ++ c :: t ∧ bytes s = front ∧ String.utf8EncodeChar c = [b] ∧
      bytes t = back := by
  induction text generalizing front with
  | nil => simp [bytes] at h
  | cons d rest ih =>
    -- Either the byte stands behind the first character or it is among its bytes.
    have hbehind (later : List UInt8) (hfront : front = String.utf8EncodeChar d ++ later)
        (hrest : bytes rest = later ++ b :: back) : ∃ s c t, d :: rest = s ++ c :: t ∧
          bytes s = front ∧ String.utf8EncodeChar c = [b] ∧ bytes t = back := by
      obtain ⟨s, c, t, rfl, rfl, hc, ht⟩ := ih hrest
      exact ⟨d :: s, c, t, rfl, by rw [hfront, bytes_cons], hc, ht⟩
    rw [bytes_cons, List.append_eq_append_iff] at h
    rcases h with ⟨later, hfront, hrest⟩ | ⟨inside, hchar, hrest⟩
    · exact hbehind later hfront hrest
    · cases inside with
      | nil => exact hbehind [] (by simpa using hchar.symm) (by simpa using hrest.symm)
      | cons x inside =>
        obtain ⟨rfl, rfl⟩ := List.cons.inj hrest
        have hsize : d.utf8Size = 1 := by
          by_contra hne
          exact absurd (le_of_mem_utf8EncodeChar hne (by simp [hchar])) (Nat.not_le.mpr hb)
        rw [← String.length_utf8EncodeChar, hchar, List.length_append, List.length_cons] at hsize
        obtain rfl : front = [] := List.length_eq_zero_iff.mp (by omega)
        obtain rfl : inside = [] := List.length_eq_zero_iff.mp (by omega)
        exact ⟨[], d, rest, rfl, rfl, hchar, rfl⟩

theorem exists_split_of_all_ascii {text : Text} {front back : List UInt8}
    (h : bytes text = front ++ back) (hfront : ∀ b ∈ front, b.toNat < 128) :
    ∃ s t, text = s ++ t ∧ bytes s = front ∧ bytes t = back := by
  induction front generalizing text with
  | nil => exact ⟨[], text, rfl, rfl, h⟩
  | cons b front ih =>
    obtain ⟨hb, hfront⟩ := List.forall_mem_cons.mp hfront
    have hhead : bytes text = [] ++ b :: (front ++ back) := h
    obtain ⟨s, c, t, rfl, hs, hc, ht⟩ := exists_split_of_ascii hhead hb
    obtain rfl : s = [] := bytes_injective hs
    obtain ⟨s, u, rfl, rfl, hu⟩ := ih ht hfront
    exact ⟨c :: s, u, rfl, by rw [bytes_cons, hc]; rfl, hu⟩

end Text

-- ---------------------------------------------------------------------------
-- What an opener names
-- ---------------------------------------------------------------------------

namespace Literal

/-- The bytes name a terminator: it stands in quotes, or it is a bare identifier. The
number is that of the bytes it takes with its quotes. -/
inductive Names (terminator : List UInt8) : List UInt8 → Nat → Prop
  | quoted {quote : UInt8} (hquote : isOneOf "\"'`" quote = true) (rest : List UInt8) :
    Names terminator (quote :: (terminator ++ quote :: rest)) (terminator.length + 2)
  | bare (hword : ∀ b ∈ terminator, isIdentifier b = true) (rest : List UInt8) :
    Names terminator (terminator ++ rest) terminator.length

theorem names_of_terminatedBy {indented : Bool} {marks extra : Nat} {bytes : List UInt8}
    {document : HereDocument}
    (h : terminatedBy indented marks bytes = some (document, extra)) :
    ∃ taken, extra = marks + taken ∧ document.indented = indented ∧
      Names document.terminator bytes taken := by
  cases bytes with
  | nil => simp [terminatedBy] at h
  | cons first rest =>
    rw [terminatedBy] at h
    split at h
    case isTrue hquote =>
      dsimp only at h
      split at h
      case isTrue => simp at h
      case isFalse hclosed =>
        obtain ⟨rfl, rfl⟩ := Prod.mk.inj (Option.some.inj h)
        -- The quote that ends the terminator is the first one of the rest.
        have hsplit := List.takeWhile_append_dropWhile (p := (· != first)) (l := rest)
        cases hdrop : rest.dropWhile (· != first) with
        | nil =>
          rw [hdrop, List.append_nil] at hsplit
          simp [hsplit] at hclosed
        | cons quote later =>
          have hend : quote = first := by
            have hhead := List.head?_dropWhile_not (· != first) rest
            simpa [hdrop] using hhead
          rw [hdrop, hend] at hsplit
          refine ⟨_, Nat.add_assoc _ _ _, rfl, ?_⟩
          conv => enter [2]; rw [← hsplit]
          exact .quoted hquote later
    case isFalse =>
      split at h
      case isTrue =>
        obtain ⟨rfl, rfl⟩ := Prod.mk.inj (Option.some.inj h)
        refine ⟨_, rfl, rfl, ?_⟩
        conv => enter [2]; rw [← List.takeWhile_append_dropWhile (p := isIdentifier)
          (l := first :: rest)]
        exact .bare (fun b hb => List.mem_takeWhile_imp hb) _
      case isFalse => simp at h

theorem names_of_hereDocument {after : List UInt8} {document : HereDocument} {extra : Nat}
    (h : hereDocument after = some (document, extra)) :
    ∃ marks named taken, after = marks ++ named ∧ marks.length = document.indented.toNat ∧
      extra = marks.length + taken ∧ Names document.terminator named taken := by
  cases after with
  | nil => simp [hereDocument] at h
  | cons first rest =>
    rw [hereDocument_cons] at h
    split at h
    case isTrue =>
      obtain ⟨taken, hextra, hindented, hnames⟩ := names_of_terminatedBy h
      exact ⟨[first], rest, taken, rfl, by rw [hindented]; rfl, hextra, hnames⟩
    case isFalse =>
      obtain ⟨taken, hextra, hindented, hnames⟩ := names_of_terminatedBy h
      exact ⟨[], first :: rest, taken, rfl, by rw [hindented]; rfl, hextra, hnames⟩

theorem toNat_lt_of_isOneOf {set : String} {b : UInt8}
    (hset : (asciiBytes set).all (·.toNat < 128) = true) (h : isOneOf set b = true) :
    b.toNat < 128 := by
  simpa using List.all_eq_true.mp hset b (by simpa [isOneOf] using h)

theorem toNat_lt_of_isIdentifier {b : UInt8} (h : isIdentifier b = true) : b.toNat < 128 := by
  simp only [isIdentifier, isLetter, isUpper, isDigit, Bool.or_eq_true, Bool.and_eq_true,
    decide_eq_true_eq, beq_iff_eq, UInt8.le_iff_toNat_le, ← UInt8.toNat_inj] at h
  have hvalues : 'Z'.toUInt8.toNat < 128 ∧ 'z'.toUInt8.toNat < 128 ∧ '9'.toUInt8.toNat < 128 ∧
      '_'.toUInt8.toNat < 128 := by decide
  omega

variable {terminator named : List UInt8} {taken : Nat}

theorem Names.taken_le (h : Names terminator named taken) : taken ≤ named.length := by
  cases h with
  | quoted hquote rest =>
    simp only [List.length_cons, List.length_append]
    omega
  | bare hword rest => simp

theorem Names.exists_piece (h : Names terminator named taken) (hne : terminator ≠ [])
    {line : Text} {front : List UInt8} (hline : Text.bytes line = front ++ named) :
    ∃ s piece t, line = s ++ piece ++ t ∧ Text.bytes piece = terminator := by
  cases h with
  | quoted hquote rest =>
    have hascii := toNat_lt_of_isOneOf (by decide) hquote
    obtain ⟨s, c, t, rfl, -, -, ht⟩ := Text.exists_split_of_ascii hline hascii
    obtain ⟨piece, d, u, rfl, hpiece, -, -⟩ := Text.exists_split_of_ascii ht hascii
    exact ⟨s ++ [c], piece, d :: u, by simp, hpiece⟩
  | bare hword rest =>
    obtain ⟨b, more, rfl⟩ := List.exists_cons_of_ne_nil hne
    obtain ⟨hb, hmore⟩ := List.forall_mem_cons.mp hword
    obtain ⟨s, c, t, rfl, -, hc, ht⟩ :=
      Text.exists_split_of_ascii hline (toNat_lt_of_isIdentifier hb)
    obtain ⟨piece, u, rfl, rfl, -⟩ :=
      Text.exists_split_of_all_ascii ht fun b hb => toNat_lt_of_isIdentifier (hmore b hb)
    exact ⟨s, c :: piece, u, by simp, by rw [Text.bytes_cons, hc]; rfl⟩

theorem exists_piece_of_hereDocument {line : Text} {front after : List UInt8}
    {document : HereDocument} {extra : Nat} (hline : Text.bytes line = front ++ after)
    (h : hereDocument after = some (document, extra)) :
    ∃ s piece t, line = s ++ piece ++ t ∧ piece ≠ [] ∧
      Text.bytes piece = document.terminator := by
  obtain ⟨marks, named, taken, rfl, -, -, hnames⟩ := names_of_hereDocument h
  rw [← List.append_assoc] at hline
  obtain ⟨s, piece, t, hpieces, hbytes⟩ := hnames.exists_piece (terminator_ne_nil h) hline
  refine ⟨s, piece, t, hpieces, ?_, hbytes⟩
  rintro rfl
  exact terminator_ne_nil h hbytes.symm

end Literal

-- ---------------------------------------------------------------------------
-- Trimming
-- ---------------------------------------------------------------------------

namespace Unicode

variable {text : Text}

theorem trimStart_eq_self_iff :
    trimStart text = text ↔ ∀ c ∈ text.head?, isWhiteSpace c = false := by
  cases text with
  | nil => simp [trimStart]
  | cons c rest =>
    cases hc : isWhiteSpace c with
    | false => simp [trimStart, hc]
    | true =>
      refine iff_of_false (fun h => ?_) (by simp [hc])
      have hle := (List.dropWhile_sublist isWhiteSpace (l := rest)).length_le
      have hlength := congrArg List.length h
      simp [trimStart, hc] at hlength
      omega

theorem trimEnd_eq_self_iff :
    trimEnd text = text ↔ ∀ c ∈ text.getLast?, isWhiteSpace c = false := by
  have hreverse : trimEnd text = text ↔ trimStart text.reverse = text.reverse := by
    rw [trimEnd, trimStart, ← List.reverse_inj, List.reverse_reverse]
  rw [hreverse, trimStart_eq_self_iff, List.head?_reverse]

theorem trimEnd_prefix (text : Text) : trimEnd text <+: text := by
  rw [← List.reverse_suffix, trimEnd, List.reverse_reverse]
  exact List.dropWhile_suffix _

theorem isWhiteSpace_of_head?_trimStart {c : Char} (h : c ∈ (trimStart text).head?) :
    isWhiteSpace c = false := by
  have hhead := List.head?_dropWhile_not isWhiteSpace text
  rw [trimStart, Option.mem_def] at h
  simpa [h] using hhead

theorem isWhiteSpace_of_getLast?_trimEnd {c : Char} (h : c ∈ (trimEnd text).getLast?) :
    isWhiteSpace c = false := by
  rw [trimEnd, List.getLast?_reverse] at h
  exact isWhiteSpace_of_head?_trimStart h

end Unicode

namespace HereDocument

open Unicode (isWhiteSpace trimStart trimEnd)

def trimmed (document : HereDocument) (line : Text) : Text :=
  trimEnd (if document.indented then trimStart line else line)

/-- There is no white space where lines are trimmed: none at the end and, if the
terminator may be indented, none at the beginning. -/
def IsTrim (document : HereDocument) (text : Text) : Prop :=
  (∀ c ∈ text.getLast?, isWhiteSpace c = false) ∧
    (document.indented = true → ∀ c ∈ text.head?, isWhiteSpace c = false)

variable {document : HereDocument} {terminator line : Text}

theorem isTrim_trimmed (document : HereDocument) (line : Text) :
    document.IsTrim (document.trimmed line) := by
  refine ⟨fun c hc => Unicode.isWhiteSpace_of_getLast?_trimEnd hc, fun hindented c hc => ?_⟩
  rw [trimmed, if_pos hindented, Option.mem_def] at hc
  obtain ⟨rest, hrest⟩ := Unicode.trimEnd_prefix (trimStart line)
  have hhead : c ∈ (trimStart line).head? := by
    rw [← hrest, List.head?_append, hc]
    rfl
  exact Unicode.isWhiteSpace_of_head?_trimStart hhead

theorem trimmed_eq_self_iff : document.trimmed terminator = terminator ↔
    document.IsTrim terminator := by
  constructor
  · intro h
    exact h ▸ isTrim_trimmed document terminator
  · rintro ⟨hend, hstart⟩
    have hkept : (if document.indented then trimStart terminator else terminator) = terminator := by
      split
      case isTrue hindented => exact Unicode.trimStart_eq_self_iff.mpr (hstart hindented)
      case isFalse => rfl
    rw [trimmed, hkept, Unicode.trimEnd_eq_self_iff.mpr hend]

instance (document : HereDocument) (text : Text) : Decidable (document.IsTrim text) :=
  decidable_of_iff _ trimmed_eq_self_iff

theorem closedBy_iff (h : Text.bytes terminator = document.terminator) :
    document.closedBy line = true ↔ document.trimmed line = terminator := by
  rw [closedBy, beq_iff_eq, ← h]
  exact Text.bytes_injective.eq_iff

theorem closedBy_terminator_iff (h : Text.bytes terminator = document.terminator) :
    document.closedBy terminator = true ↔ document.IsTrim terminator := by
  rw [closedBy_iff h, trimmed_eq_self_iff]

theorem isTrim_of_closedBy (h : Text.bytes terminator = document.terminator)
    (hline : document.closedBy line = true) : document.IsTrim terminator := by
  rw [← (closedBy_iff h).mp hline]
  exact isTrim_trimmed document line

theorem isTrim_of_isIdentifier
    (h : ∀ b ∈ Text.bytes terminator, Literal.isIdentifier b = true) :
    document.IsTrim terminator := by
  have hword : ∀ n < 256, Literal.isIdentifier (UInt8.ofNat n) = true →
      isWhiteSpace (Char.ofNat n) = false := by decide +kernel
  have hall (c : Char) (hc : c ∈ terminator) : isWhiteSpace c = false := by
    have hbyte : ∃ b, b ∈ String.utf8EncodeChar c :=
      List.exists_mem_of_ne_nil _ String.utf8EncodeChar_ne_nil
    obtain ⟨b, hb⟩ := hbyte
    have hidentifier := h b (List.mem_flatMap.mpr ⟨c, hc, hb⟩)
    rw [eq_of_mem_utf8EncodeChar hb (Literal.toNat_lt_of_isIdentifier hidentifier)]
    exact hword b.toNat b.toNat_lt (by simpa using hidentifier)
  exact ⟨fun c hc => hall c (List.mem_of_getLast? hc), fun _ c hc => hall c (List.mem_of_head? hc)⟩

end HereDocument

/-- The opener of a here document names a text. A line that is this text closes the document
exactly if the text has no white space where lines are trimmed. A bare terminator has none;
if a quoted one has some, no line closes the document. -/
theorem terminator_closes_iff_isTrim (line : Text) (front after : List UInt8)
    (document : HereDocument) (extra : Nat) (hline : Text.bytes line = front ++ after)
    (hopens : Literal.hereDocument after = some (document, extra)) :
    ∃ terminator, Text.bytes terminator = document.terminator ∧
      ((∀ b ∈ document.terminator, Literal.isIdentifier b = true) →
        document.IsTrim terminator) ∧
      ∀ (state : LexState) (later : List HereDocument), state.pending = document :: later →
        ((state.lexLine terminator).2.pending = later ↔ document.IsTrim terminator) ∧
        (¬ document.IsTrim terminator → ∀ text, (state.lexLine text).2 = state) := by
  obtain ⟨-, terminator, -, -, -, hbytes⟩ := Literal.exists_piece_of_hereDocument hline hopens
  refine ⟨terminator, hbytes, fun hword => ?_, fun state later hpending => ⟨?_, ?_⟩⟩
  · exact HereDocument.isTrim_of_isIdentifier (hbytes ▸ hword)
  · rw [LexState.lexLine_of_pending_cons hpending, ← HereDocument.closedBy_terminator_iff hbytes]
    cases document.closedBy terminator <;> simp
  · intro huntrimmed text
    have hopen : document.closedBy text = false := by
      rw [← Bool.not_eq_true]
      exact fun hclosed => huntrimmed (HereDocument.isTrim_of_closedBy hbytes hclosed)
    rw [LexState.lexLine_of_pending_cons hpending, hopen, if_neg Bool.false_ne_true, ← hpending]

/-- A quoted terminator with a character of three bytes and white space inside. -/
theorem terminator_closes_iff_isTrim_quoted :
    let line := "puts <<~'Ende \u2713'".toList
    let terminator := "Ende \u2713".toList
    let document : HereDocument := ⟨Text.bytes terminator, true⟩
    Literal.hereDocument ((Text.bytes line).drop 7) = some (document, 11) ∧
      document.IsTrim terminator ∧
      (LexState.lexLine ⟨.code, [document]⟩ terminator).2.pending = [] := by
  intro line terminator document
  have hopens : Literal.hereDocument ((Text.bytes line).drop 7) = some (document, 11) := by
    decide +kernel
  have htrim : document.IsTrim terminator := by decide +kernel
  refine ⟨hopens, htrim, ?_⟩
  obtain ⟨found, hfound, -, hcloses⟩ := terminator_closes_iff_isTrim line _ _ document 11
    (List.take_append_drop 7 _).symm hopens
  obtain rfl : terminator = found := Text.bytes_injective hfound.symm
  exact (hcloses ⟨.code, [document]⟩ [] rfl).1.mpr htrim

/-- A space before the closing quote: the line that is the terminator does not close the
document, and with the default rules all that follows is left as it is. -/
theorem terminator_with_space_never_closes :
    let opener := "x = <<\"EOS \"".toList
    let terminator := "EOS ".toList
    let document : HereDocument := ⟨Text.bytes terminator, false⟩
    Literal.hereDocument ((Text.bytes opener).drop 6) = some (document, 6) ∧
      (LexState.start.lexLine opener).2 = ⟨.code, [document]⟩ ∧
      (LexState.lexLine ⟨.code, [document]⟩ terminator).2 = ⟨.code, [document]⟩ ∧
      (Document.ofLines [opener, terminator, "def f".toList, "y".toList] 8).indent .default 3 2
        .newline = .verbatim := by
  decide +kernel

end Reindent
