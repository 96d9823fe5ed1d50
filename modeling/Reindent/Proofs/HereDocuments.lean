import Reindent.Proofs.Comments

/-!
# Here documents and the code around them

The text of a here document changes nothing about the lexing of the code below
it, as long as the same lines belong to it. With the default rules its lines
are statements of their own, so they move code if they look like the start or
the end of a block, if they reach over the ends of their lines, or if code is
measured from one of them: the first line of code below a here document follows
the indent of its terminator.
-/

namespace Reindent

-- ---------------------------------------------------------------------------
-- Terminators
-- ---------------------------------------------------------------------------

namespace Literal

theorem terminator_ne_nil_of_terminatedBy {indented : Bool} {marks extra : Nat}
    {bytes : List UInt8} {document : HereDocument}
    (h : terminatedBy indented marks bytes = some (document, extra)) :
    document.terminator ≠ [] := by
  cases bytes with
  | nil => simp [terminatedBy] at h
  | cons first rest =>
    rw [terminatedBy] at h
    split at h
    case isTrue =>
      dsimp only at h
      split at h
      case isTrue => simp at h
      case isFalse hterminator =>
        obtain ⟨rfl, -⟩ := Prod.mk.inj (Option.some.inj h)
        intro hnil
        dsimp only at hnil
        rw [hnil] at hterminator
        exact hterminator rfl
    case isFalse =>
      split at h
      case isTrue hfirst =>
        obtain ⟨rfl, -⟩ := Prod.mk.inj (Option.some.inj h)
        have hidentifier : isIdentifier first = true := by
          simp only [Bool.or_eq_true, Bool.and_eq_true] at hfirst
          simp only [isIdentifier, isLetter, Bool.or_eq_true] at *
          tauto
        rw [List.takeWhile_cons, if_pos hidentifier]
        simp
      case isFalse => simp at h

theorem terminator_ne_nil {after : List UInt8} {document : HereDocument} {extra : Nat}
    (h : hereDocument after = some (document, extra)) : document.terminator ≠ [] := by
  cases after with
  | nil => simp [hereDocument] at h
  | cons first rest =>
    rw [hereDocument_cons] at h
    split at h
    · exact terminator_ne_nil_of_terminatedBy h
    · exact terminator_ne_nil_of_terminatedBy h

end Literal

namespace LexState

variable {state : LexState}

/-- Every here document that is waited for has a terminator. -/
def Armed (state : LexState) : Prop := ∀ document ∈ state.pending, document.terminator ≠ []

theorem armed_start : start.Armed := nofun

theorem armed_lexeme (h : state.Armed) (before : List UInt8) (b : UInt8) (after : List UInt8) :
    (state.lexeme before b after).state.Armed := by
  rw [lexeme]
  split
  · -- Only the opener of a here document adds to what is waited for.
    rw [codeLexeme]
    repeat' split
    any_goals exact h
    next document extra hdocument =>
      intro d hd
      rcases List.mem_append.mp hd with hd | hd
      · exact h d hd
      · obtain rfl := List.mem_singleton.mp hd
        exact Literal.terminator_ne_nil hdocument
  · dsimp only [quotedLexeme]
    repeat' split
    all_goals exact h
  · exact h

theorem armed_scan (h : state.Armed) (covered : Nat) (current : Attribute)
    (before bytes : List UInt8) : (state.scan covered current before bytes).2.Armed := by
  induction bytes generalizing state covered current before with
  | nil => exact h
  | cons b after ih =>
    cases covered with
    | zero => exact ih (armed_lexeme h before b after) _ _ _
    | succ covered => exact ih h covered current _

theorem armed_lexLine (h : state.Armed) (line : Text) : (state.lexLine line).2.Armed := by
  by_cases hscans : state.Scans line
  · rw [lexLine_of_scans hscans]
    exact armed_scan h 0 .normal [] _
  · rw [lexLine]
    split
    case h_1 document later hpending =>
      have hlater (d : HereDocument) (hd : d ∈ later) : d ∈ state.pending := by
        rw [hpending]
        exact List.mem_cons_of_mem _ hd
      dsimp only
      split
      · exact fun d hd => h d (hlater d hd)
      · exact h
    case h_2 =>
      repeat' split
      all_goals first | exact h | exact armed_scan h 0 .normal [] _

theorem lexLine_nil (h : state.Armed) : state.lexLine [] = ([], state) := by
  rw [lexLine]
  split
  case h_1 document later hpending =>
    have hne : document.terminator ≠ [] := h document (by rw [hpending]; exact List.mem_cons_self)
    have htrimmed : Unicode.trimEnd (if document.indented then Unicode.trimStart [] else []) =
        [] := by
      cases document.indented <;> rfl
    have hopen : document.closedBy [] = false := by
      rw [HereDocument.closedBy, htrimmed, beq_eq_false_iff_ne]
      exact hne.symm
    rw [hopen]
    rfl
  case h_2 => split <;> rfl

theorem lexLine_of_pending (h : state.pending ≠ []) (line : Text) :
    (state.lexLine line).1 = List.replicate (Text.byteLength line) .hereDocument ∧
      (state.lexLine line).2.context = state.context := by
  obtain ⟨document, later, hpending⟩ := List.exists_cons_of_ne_nil h
  rw [lexLine, hpending]
  dsimp only
  split <;> exact ⟨rfl, rfl⟩

theorem at_lexLine_of_pending (h : state.pending ≠ []) {line : Text} (hne : line ≠ []) :
    Row.at (state.lexLine line).1 0 = .hereDocument := by
  rw [(lexLine_of_pending h line).1]
  exact Row.at_replicate (Text.byteLength_pos hne)

theorem at_lexLine_of_pending_nil (hproper : state.Proper) (h : state.pending = []) (line : Text) :
    Row.at (state.lexLine line).1 0 ≠ .hereDocument := by
  intro hat
  have hmem := List.mem_of_getElem? (Row.getElem?_of_at hat (by decide))
  by_cases hscans : state.Scans line
  · rw [lexLine_of_scans hscans] at hmem
    have hnormal : Attribute.normal.isEmbedded = false := rfl
    have hkinds := (scan_scanning (hproper.scanning hscans) 0 hnormal [] (Text.bytes line)).2
    exact absurd (hkinds _ hmem) (by decide)
  · -- What else is not scanned is embedded documentation.
    have hfilled : (state.lexLine line).1 =
        List.replicate (Text.byteLength line) .blockComment := by
      simp only [lexLine, h]
      cases hcontext : state.context with
      | blockComment => rfl
      | quoted => exact absurd ⟨h, by simp [hcontext], by simp [hcontext]⟩ hscans
      | code =>
        have hbegin : "=begin".toList <+: line := by
          by_contra hbegin
          exact hscans ⟨h, by simp [hcontext], fun hb => hbegin hb.2⟩
        simp only [if_pos (List.isPrefixOf_iff_prefix.mpr hbegin)]
    rw [hfilled] at hmem
    exact absurd (List.eq_of_mem_replicate hmem) (by decide)

/-- The lexer is in the same context, and here documents are waited for in both
states or in none. -/
structure Level (s t : LexState) : Prop where
  context_eq : s.context = t.context
  pending_iff : s.pending = [] ↔ t.pending = []

theorem Level.eq_of_pending {s t : LexState} (h : s.Level t) (hs : s.pending = []) : s = t := by
  obtain ⟨context, pending⟩ := s
  obtain ⟨context', pending'⟩ := t
  obtain rfl : context = context' := h.context_eq
  obtain rfl : pending = [] := hs
  obtain rfl : pending' = [] := h.pending_iff.mp rfl
  rfl

end LexState

-- ---------------------------------------------------------------------------
-- Lexing around here documents
-- ---------------------------------------------------------------------------

namespace SourceLine

variable {x y : SourceLine}

/-- Both lines belong to here documents or none does. They have the same text, or
they belong to here documents and are read alike. -/
def Redocumented (x y : SourceLine) : Prop :=
  (Row.at x.row 0 = .hereDocument ↔ Row.at y.row 0 = .hereDocument) ∧
    (x.text = y.text ∨ Row.at x.row 0 = .hereDocument ∧ x.text.Alike y.text)

theorem Redocumented.symm (h : Redocumented x y) : Redocumented y x :=
  ⟨h.1.symm, h.2.imp Eq.symm fun ⟨hx, halike⟩ => ⟨h.1.mp hx, halike.symm⟩⟩

theorem Redocumented.text_eq (h : Redocumented x y) (hx : Row.at x.row 0 ≠ .hereDocument) :
    x.text = y.text := h.2.resolve_right fun hdocument => hx hdocument.1

theorem Kept.symm (h : Kept x y) : Kept y x :=
  h.imp (fun ⟨htext, hrow⟩ => ⟨htext.symm, hrow.symm⟩)
    fun ⟨front, t, u, row, hcomment, hle⟩ => ⟨front, u, t, row, hcomment.symm, hle⟩

/-- If a here document goes on in one buffer and not in the other, there are only
empty lines left. -/
theorem kept_lexAll_of_pending {s t : LexState} (hproper : s.Proper) (hs : s.pending = [])
    (harmed : t.Armed) (ht : t.pending ≠ []) {xs ys : List Text}
    (h : List.Forall₂ Redocumented (lexAll s xs) (lexAll t ys)) :
    List.Forall₂ Kept (lexAll s xs) (lexAll t ys) := by
  induction xs generalizing ys with
  | nil =>
    cases ys with
    | nil => exact .nil
    | cons y ys => simp [lexAll] at h
  | cons x xs ih =>
    cases ys with
    | nil => simp [lexAll] at h
    | cons y ys =>
      rw [lexAll, lexAll] at h ⊢
      obtain ⟨hline, hrest⟩ := List.forall₂_cons.mp h
      have hx : Row.at (s.lexLine x).1 0 ≠ .hereDocument :=
        LexState.at_lexLine_of_pending_nil hproper hs x
      obtain rfl : x = y := hline.text_eq hx
      obtain rfl : x = [] := by
        by_contra hne
        exact hx (hline.1.mpr (LexState.at_lexLine_of_pending ht hne))
      have hnil : s.lexLine [] = ([], s) := LexState.lexLine_nil (by simp [LexState.Armed, hs])
      rw [hnil, LexState.lexLine_nil harmed] at hrest ⊢
      exact .cons (.of_eq rfl rfl) (ih hrest)

theorem redocumented_line {s t : LexState} {x y : Text} (hs : s.pending ≠ []) (ht : t.pending ≠ [])
    (h : Redocumented ⟨x, s, (s.lexLine x).1⟩ ⟨y, t, (t.lexLine y).1⟩) :
    Kept ⟨x, s, (s.lexLine x).1⟩ ⟨y, t, (t.lexLine y).1⟩ ∨
      Masked ⟨x, s, (s.lexLine x).1⟩ ⟨y, t, (t.lexLine y).1⟩ := by
  have hx := (LexState.lexLine_of_pending hs x).1
  have hy := (LexState.lexLine_of_pending ht y).1
  rcases h.2 with htext | ⟨-, halike⟩
  · obtain rfl : x = y := htext
    exact .inl (.of_eq rfl (hx.trans hy.symm))
  · exact .inr ⟨halike, hx, hy⟩

theorem veiled_lexAll {s t : LexState} (hs : s.Proper ∧ s.Armed) (ht : t.Proper ∧ t.Armed)
    (hlevel : s.Level t) {xs ys : List Text}
    (h : List.Forall₂ Redocumented (lexAll s xs) (lexAll t ys)) :
    List.Forall₂ (fun x y => x.Kept y ∨ x.Masked y) (lexAll s xs) (lexAll t ys) := by
  induction xs generalizing s t ys with
  | nil =>
    cases ys with
    | nil => exact .nil
    | cons y ys => simp [lexAll] at h
  | cons x xs ih =>
    cases ys with
    | nil => simp [lexAll] at h
    | cons y ys =>
      rw [lexAll, lexAll] at h ⊢
      obtain ⟨hline, hrest⟩ := List.forall₂_cons.mp h
      have hs' : (s.lexLine x).2.Proper ∧ (s.lexLine x).2.Armed :=
        ⟨LexState.proper_lexLine hs.1 x, LexState.armed_lexLine hs.2 x⟩
      have ht' : (t.lexLine y).2.Proper ∧ (t.lexLine y).2.Armed :=
        ⟨LexState.proper_lexLine ht.1 y, LexState.armed_lexLine ht.2 y⟩
      by_cases hpending : s.pending = []
      · -- Between here documents the states are the same, and so are the lines.
        obtain rfl : s = t := hlevel.eq_of_pending hpending
        obtain rfl : x = y :=
          hline.text_eq (LexState.at_lexLine_of_pending_nil hs.1 hpending x)
        exact .cons (.inl (.of_eq rfl rfl)) (ih hs' ht' ⟨rfl, .rfl⟩ hrest)
      · have hpending' : t.pending ≠ [] := fun hnil => hpending (hlevel.pending_iff.mpr hnil)
        refine .cons (redocumented_line hpending hpending' hline) ?_
        have hcontext : (s.lexLine x).2.context = (t.lexLine y).2.context := by
          rw [(LexState.lexLine_of_pending hpending x).2,
            (LexState.lexLine_of_pending hpending' y).2, hlevel.context_eq]
        by_cases hleft : (s.lexLine x).2.pending = []
        · by_cases hright : (t.lexLine y).2.pending = []
          · exact ih hs' ht' ⟨hcontext, by simp [hleft, hright]⟩ hrest
          · exact (kept_lexAll_of_pending hs'.1 hleft ht'.2 hright hrest).imp fun _ _ => .inl
        · by_cases hright : (t.lexLine y).2.pending = []
          · have hflip := kept_lexAll_of_pending ht'.1 hright hs'.2 hleft
              (hrest.flip.imp fun _ _ => Redocumented.symm)
            exact hflip.flip.imp fun _ _ hkept => .inl (Kept.symm hkept)
          · exact ih hs' ht' ⟨hcontext, by simp [hleft, hright]⟩ hrest

end SourceLine

-- ---------------------------------------------------------------------------
-- Documents
-- ---------------------------------------------------------------------------

namespace Document

/-- A line of a here document, or one that ends it. Empty lines do not count. -/
def InHereDocument (doc : Document) (line : Nat) : Prop := doc.attributeAt line 0 = .hereDocument

instance (doc : Document) (line : Nat) : Decidable (doc.InHereDocument line) :=
  inferInstanceAs (Decidable (doc.attributeAt line 0 = .hereDocument))

theorem Veiled.keeps_of_line_eq {a b : Document} (h : a.Veiled b) {line : Nat}
    (hline : a.line line = b.line line) : a.Keeps b line := by
  rcases h.line_cases line with hkeeps | ⟨x, y, ha, hb, hmasked⟩
  · exact hkeeps
  · rw [line_eq ha, line_eq hb] at hline
    rw [Keeps, ha, hb]
    refine .some (.of_eq hline ?_)
    rw [hmasked.row_left, hmasked.row_right, hline]

end Document

/-- With the default rules, lines of here documents that are read alike place code
alike. A line that is measured from a here document has to be measured from the
same line of it. -/
theorem indent_ignores_hereDocuments (rules : Rules) (hrules : Config.default.compile = .ok rules)
    (xs ys : List Text) (tabWidth : Nat) (hlength : xs.length = ys.length) :
    let a := Document.ofLines xs tabWidth
    let b := Document.ofLines ys tabWidth
    (∀ line < xs.length, (a.InHereDocument line ↔ b.InHereDocument line) ∧
      (a.line line = b.line line ∨ a.InHereDocument line ∧ (a.line line).Alike (b.line line))) →
    ∀ line, ¬ a.InHereDocument line →
      (∀ above, a.codeLineAbove? line = some above → a.line above = b.line above) →
      ∀ indentWidth trigger,
        a.indent rules line indentWidth trigger = b.indent rules line indentWidth trigger := by
  intro a b hlines line hline habove indentWidth trigger
  obtain rfl := Rules.eq_default hrules
  have hrelated : List.Forall₂ SourceLine.Redocumented a.lines b.lines := by
    refine SourceLine.forall₂_lexAll hlength fun i hlt x y hx hy => ?_
    have hi := hlines i hlt
    rw [Document.InHereDocument, Document.InHereDocument, Document.attributeAt_eq hx,
      Document.attributeAt_eq hy, Document.line_eq hx, Document.line_eq hy] at hi
    exact hi
  have hlevel : LexState.start.Level .start := ⟨rfl, .rfl⟩
  have hstart : LexState.start.Proper ∧ LexState.start.Armed :=
    ⟨LexState.proper_start, LexState.armed_start⟩
  have hveiled : a.Veiled b := ⟨rfl, SourceLine.veiled_lexAll hstart hstart hlevel hrelated⟩
  have hkeeps : a.Keeps b line := by
    rcases rel_cases (rel_getElem? hrelated line) with ⟨ha, hb⟩ | ⟨x, y, ha, hb, hline'⟩
    · rw [Document.Keeps, ha, hb]
      exact .none
    · refine hveiled.keeps_of_line_eq ?_
      rw [Document.InHereDocument, Document.attributeAt_eq ha] at hline
      rw [Document.line_eq ha, Document.line_eq hb]
      exact hline'.text_eq hline
  exact hveiled.indent_line_eq (Document.bracketsInCode_ofLines xs tabWidth) hkeeps
    (fun above hfound => hveiled.keeps_of_line_eq (habove above hfound)) indentWidth trigger

-- Code is measured from the terminator above it.
example :
    (Document.ofLines (["def usage", "  text = <<-EOS", "    EOS", "  text"].map String.toList)
      8).indent .default 3 2 .manual = .setIndent 4 := by decide +kernel

/-- The search for the opener of a method passes a here document. -/
theorem indent_ignores_hereDocuments_method :
    let xs := ["def usage", "  text = <<-EOS", "    Hello, all", "  EOS", "  text", "end"].map
      String.toList
    let ys := ["def usage", "  text = <<-EOS", "(to end +", "  EOS", "  text", "end"].map
      String.toList
    let a := Document.ofLines xs 8
    let b := Document.ofLines ys 8
    (∀ line < xs.length, (a.InHereDocument line ↔ b.InHereDocument line) ∧
        (a.line line = b.line line ∨ a.InHereDocument line ∧ (a.line line).Alike (b.line line))) ∧
      a.InHereDocument 2 ∧ a.line 2 ≠ b.line 2 ∧ a.codeLineAbove? 5 = some 4 ∧
      a.indent .default 5 2 .manual = b.indent .default 5 2 .manual := by
  intro xs ys a b
  have hlines : ∀ line < xs.length, (a.InHereDocument line ↔ b.InHereDocument line) ∧
      (a.line line = b.line line ∨ a.InHereDocument line ∧ (a.line line).Alike (b.line line)) := by
    decide +kernel
  have habove : a.codeLineAbove? 5 = some 4 := by decide +kernel
  refine ⟨hlines, by decide +kernel, by decide +kernel, habove, ?_⟩
  refine indent_ignores_hereDocuments .default Config.compile_default xs ys 8 (by decide) hlines 5
    (by decide +kernel) (fun above hfound => ?_) 2 .manual
  obtain rfl : 4 = above := Option.some.inj (habove.symm.trans hfound)
  decide +kernel

/-- A line of prose that begins with the keyword of a block is taken for its opener,
so not all that is in here documents is without effect. -/
theorem hereDocument_prose_moves_code :
    let xs := ["def usage", "  text = <<-EOS", "    if you want", "  EOS", "  text", "end"].map
      String.toList
    let ys := ["def usage", "  text = <<-EOS", "    as you want", "  EOS", "  text", "end"].map
      String.toList
    let a := Document.ofLines xs 8
    let b := Document.ofLines ys 8
    (∀ line < xs.length, (a.InHereDocument line ↔ b.InHereDocument line) ∧
        (a.line line = b.line line ∨ a.InHereDocument line)) ∧
      ¬ a.InHereDocument 5 ∧ (a.firstColumn 5).isSome = true ∧
      a.blockStart? .default 5 = some ⟨2, 2⟩ ∧ b.blockStart? .default 5 = some ⟨0, 0⟩ ∧
      a.indent .default 5 2 .manual = .setIndent 4 ∧
      b.indent .default 5 2 .manual = .setIndent 0 := by
  intro xs ys a b
  exact ⟨by decide +kernel, by decide +kernel, by decide +kernel, by decide +kernel,
    by decide +kernel, by decide +kernel, by decide +kernel⟩

end Reindent
