import Mathlib.Data.List.Forall2
import Reindent.Proofs.DefaultRules
import Reindent.Proofs.LeadingBlanks
import Reindent.Proofs.Relexing

/-!
# Indenting leaves the lexing alone

A pass over a document changes leading blanks only, and only of lines that
are scanned, since a line of a here document or of embedded documentation is
verbatim. So every line is still begun in the state it was begun in before,
and the attributes of its body stay. The one thing that could go wrong is a
`=begin` behind blanks: moved to the start of its line it would turn the rest
of the buffer into documentation.
-/

namespace Reindent

/-- No line has a `=begin` behind leading blanks. -/
def NoIndentedBegin (texts : List Text) : Prop :=
  ∀ text ∈ texts, Text.leadingBlanks text ≠ [] → ¬ "=begin".toList <+: Text.body text

instance (texts : List Text) : Decidable (NoIndentedBegin texts) :=
  inferInstanceAs (Decidable (∀ text ∈ texts, _ → ¬ _))

theorem LexState.after_append (state : LexState) (a b : List Text) :
    state.after (a ++ b) = (state.after a).after b :=
  List.foldl_append

theorem LexState.proper_after {state : LexState} (h : state.Proper) (texts : List Text) :
    (state.after texts).Proper := by
  induction texts generalizing state with
  | nil => exact h
  | cons text rest ih => exact ih (proper_lexLine h text)

theorem LexState.proper_start : LexState.start.Proper := .inl trivial

/-- A scanned line is scanned behind other blanks too, unless it has a `=begin`
that the blanks hid. -/
theorem LexState.Scans.reblank {state : LexState} {line blanks : Text} (h : state.Scans line)
    (hblanks : AllBlank blanks)
    (hbegin : Text.leadingBlanks line ≠ [] → ¬ "=begin".toList <+: Text.body line) :
    state.Scans (blanks ++ Text.body line) := by
  refine ⟨h.1, h.2.1, ?_⟩
  rintro ⟨hcode, hprefix⟩
  cases blanks with
  | cons c rest =>
    -- A blank is no `=`.
    have hblank := hblanks c List.mem_cons_self
    obtain ⟨tail, htail⟩ := hprefix
    obtain rfl : '=' = c := (List.cons.inj htail).1
    simp [Text.isBlank] at hblank
  | nil =>
    -- The body begins with `=begin`, so the line itself does.
    rw [List.nil_append] at hprefix
    have hnone : Text.leadingBlanks line = [] := by
      by_contra hne
      exact hbegin hne hprefix
    have hself := Text.leadingBlanks_append_body line
    rw [hnone, List.nil_append] at hself
    exact h.2.2 ⟨hcode, hself ▸ hprefix⟩

/-- The second buffer has the lines of the first with other leading blanks, and
only where a line is scanned. -/
structure Reindented (a b : List Text) : Prop where
  length_eq : a.length = b.length
  body_eq : ∀ (i : Nat) (s t : Text), a[i]? = some s → b[i]? = some t → Text.body s = Text.body t
  scanned : ∀ (i : Nat) (s t : Text), a[i]? = some s → b[i]? = some t →
    s = t ∨ (LexState.start.after (a.take i)).Scans s ∧ (LexState.start.after (a.take i)).Scans t

namespace Reindented

variable {a b : List Text} {i : Nat} {s t : Text}

theorem refl (a : List Text) : Reindented a a where
  length_eq := rfl
  body_eq := by
    intro i s t hs ht
    rw [Option.some.inj (hs.symm.trans ht)]
  scanned := by
    intro i s t hs ht
    exact .inl (Option.some.inj (hs.symm.trans ht))

theorem getElem?_left (h : Reindented a b) (ht : b[i]? = some t) : ∃ s, a[i]? = some s := by
  have hlt := (List.getElem?_eq_some_iff.mp ht).1
  exact ⟨_, List.getElem?_eq_getElem (h.length_eq ▸ hlt)⟩

theorem after_take (h : Reindented a b) (i : Nat) :
    LexState.start.after (a.take i) = LexState.start.after (b.take i) := by
  induction i with
  | zero => rfl
  | succ i ih =>
    rw [List.take_add_one, List.take_add_one, LexState.after_append, LexState.after_append]
    cases ht : b[i]? with
    | none =>
      have : a[i]? = none := by
        rw [List.getElem?_eq_none_iff] at ht ⊢
        rwa [h.length_eq]
      rw [this, ih]
    | some t =>
      obtain ⟨s, hs⟩ := h.getElem?_left ht
      rw [hs, ← ih]
      rcases h.scanned i s t hs ht with rfl | ⟨hscan, hscan'⟩
      · rfl
      · have hproper := LexState.proper_after LexState.proper_start (a.take i)
        exact (LexState.lexLine_reblanked hproper hscan hscan' (h.body_eq i s t hs ht)).1

theorem set (h : Reindented a b) {new : Text} (hs : a[i]? = some s)
    (hbody : Text.body s = Text.body new) (hscan : (LexState.start.after (a.take i)).Scans s)
    (hscan' : (LexState.start.after (a.take i)).Scans new) : Reindented a (b.set i new) := by
  have at_line {k : Nat} {u v : Text} (hu : a[k]? = some u) (hv : (b.set i new)[k]? = some v) :
      k = i ∧ u = s ∧ v = new ∨ b[k]? = some v := by
    by_cases hk : i = k
    · subst hk
      rw [List.getElem?_set] at hv
      simp only [if_true] at hv
      split at hv
      · exact .inl ⟨rfl, Option.some.inj (hu.symm.trans hs), (Option.some.inj hv).symm⟩
      · simp at hv
    · rw [List.getElem?_set_ne hk] at hv
      exact .inr hv
  refine ⟨by rw [List.length_set, h.length_eq], ?_, ?_⟩
  · intro k u v hu hv
    rcases at_line hu hv with ⟨rfl, rfl, rfl⟩ | hv
    · exact hbody
    · exact h.body_eq k u v hu hv
  · intro k u v hu hv
    rcases at_line hu hv with ⟨rfl, rfl, rfl⟩ | hv
    · exact .inr ⟨hscan, hscan'⟩
    · exact h.scanned k u v hu hv

end Reindented

-- ---------------------------------------------------------------------------
-- What a pass rewrites
-- ---------------------------------------------------------------------------

def Rules.KeepsEmbedded (rules : Rules) : Prop :=
  ∀ kind : Attribute, kind.isEmbedded = true → kind.name ∈ rules.verbatimAttributes

theorem Row.at_replicate {kind : Attribute} {length column : Nat} (h : column < length) :
    Row.at (List.replicate length kind) column = kind := by
  simp [Row.at, h]

theorem Row.getElem?_of_at {row : Row} {column : Nat} {kind : Attribute}
    (h : Row.at row column = kind) (hkind : kind ≠ .normal) : row[column]? = some kind := by
  rw [Row.at] at h
  cases hfound : row[column]? with
  | none =>
    rw [hfound] at h
    exact absurd h.symm hkind
  | some found =>
    rw [hfound] at h
    exact congrArg some h

theorem Document.attributeAt_eq {doc : Document} {line : Nat} {l : SourceLine}
    (h : doc.lines[line]? = some l) (column : Nat) :
    doc.attributeAt line column = l.row.at column := by
  rw [attributeAt, h]
  rfl

theorem Text.body_ne_nil {text : Text} (h : isAllWhiteSpace text = false) : body text ≠ [] := by
  intro hbody
  rw [← isAllWhiteSpace_body, hbody] at h
  simp [isAllWhiteSpace] at h

theorem Document.previousNonBlankLine?_self {doc : Document} {line : Nat}
    (hlt : line < doc.lineCount) (h : Text.body (doc.line line) ≠ []) :
    doc.previousNonBlankLine? line = some line := by
  have hbound : min (line + 1) doc.lineCount = line + 1 := by omega
  have hfirst : (doc.firstColumn line).isSome = true := by
    rw [firstColumn, Text.firstColumn, if_neg (by simpa using h)]
    rfl
  rw [previousNonBlankLine?, hbound, greatestBelow?, if_pos hfirst]

namespace Indenter

variable {indenter : Indenter} {doc : Document} {line : Nat} {blanks : Text}

theorem Rewrites.scans (hkeeps : indenter.rules.KeepsEmbedded)
    (hlexed : Lexed (fun _ => False) 0 .start doc.lines)
    (hr : indenter.Rewrites doc line blanks) :
    (LexState.start.after (doc.texts.take line)).Scans (doc.line line) := by
  obtain ⟨l, hget⟩ : ∃ l, doc.lines[line]? = some l := ⟨_, List.getElem?_eq_getElem hr.inRange⟩
  obtain ⟨hstart, hrow⟩ := hlexed.of_getElem? hget
  have hline := Document.line_eq hget
  by_contra hnot
  -- Otherwise its last byte has an attribute that makes it verbatim.
  rw [Document.texts, ← hstart, hline] at hnot
  obtain ⟨kind, hkind, hfilled⟩ := LexState.row_of_not_scans hnot
  have hbody := Text.body_ne_nil hr.notWhite
  have hne : doc.line line ≠ [] := by
    intro hnil
    exact hbody (by rw [hnil]; rfl)
  have hpos := Text.byteLength_pos hne
  have hverbatim : doc.isVerbatim indenter.rules line = true := by
    rw [Document.isVerbatim, Document.previousNonBlankLine?_self hr.inRange hbody,
      Option.any_some, Document.attributeAt_eq hget, hrow id, hfilled, Document.lineLength,
      ← hline, Row.at_replicate (by omega)]
    simpa using hkeeps kind hkind
  simp [hr.isVerbatim_eq_false] at hverbatim

theorem Rewrites.reindented {texts : List Text} (hbegin : NoIndentedBegin texts)
    (hkeeps : indenter.rules.KeepsEmbedded)
    (hlexed : Lexed (fun _ => False) 0 .start doc.lines) (h : Reindented texts doc.texts)
    (hr : indenter.Rewrites doc line blanks) :
    Reindented texts (doc.setLeadingBlanks line blanks).1.texts := by
  have hscans := hr.scans hkeeps hlexed
  have ht : doc.texts[line]? = some (doc.line line) := by
    rw [Document.getElem?_texts, List.getElem?_eq_getElem hr.inRange, Option.map_some,
      Document.line_eq (List.getElem?_eq_getElem hr.inRange)]
  obtain ⟨s, hs⟩ := h.getElem?_left ht
  have hbody := h.body_eq line s _ hs ht
  rw [← h.after_take] at hscans
  have hscan : (LexState.start.after (texts.take line)).Scans s := by
    rcases h.scanned line s _ hs ht with rfl | ⟨hscan, -⟩
    · exact hscans
    · exact hscan
  rw [Document.texts_setLeadingBlanks, ← hbody]
  exact h.set hs (Text.body_blanks_body hr.allBlank s).symm hscan
    (hscan.reblank hr.allBlank (hbegin s (List.mem_of_getElem? hs)))

theorem reindented_indentLines {texts : List Text} (hbegin : NoIndentedBegin texts)
    (hkeeps : indenter.rules.KeepsEmbedded) (tabWidth first last : Nat) :
    let doc := (indenter.indentLines (Document.ofLines texts tabWidth) first last).1
    Lexed (fun _ => False) 0 .start doc.lines ∧ Reindented texts doc.texts := by
  apply foldl_indentStep_induction
    (P := fun doc => Lexed (fun _ => False) 0 .start doc.lines ∧ Reindented texts doc.texts)
  · rintro doc line - blanks hr ⟨hlexed, hre⟩
    exact ⟨Document.lexed_setLeadingBlanks hlexed line blanks,
      hr.reindented hbegin hkeeps hlexed hre⟩
  · refine ⟨Lexed.lexAll _ 0 .start texts, ?_⟩
    rw [Document.texts_ofLines]
    exact .refl texts

end Indenter

-- ---------------------------------------------------------------------------
-- The lines after a pass
-- ---------------------------------------------------------------------------

structure SourceLine.Shifted (a b : SourceLine) : Prop where
  start_eq : a.start = b.start
  body_eq : Text.body a.text = Text.body b.text
  row_eq : a.row.drop (Text.leadingBlanks a.text).length =
    b.row.drop (Text.leadingBlanks b.text).length

/-- The line belongs to a here document or to embedded documentation, with the
lines that begin and end them. -/
def SourceLine.IsEmbedded (line : SourceLine) : Prop :=
  line.start.pending ≠ [] ∨ line.start.context = .blockComment ∨
    .hereDocument ∈ line.row ∨ .blockComment ∈ line.row

theorem SourceLine.not_isEmbedded_of_scans {line : SourceLine} (hproper : line.start.Proper)
    (hrow : line.row = (line.start.lexLine line.text).1) (hscans : line.start.Scans line.text) :
    ¬ line.IsEmbedded := by
  have hnormal : Attribute.normal.isEmbedded = false := rfl
  have hkinds := (LexState.scan_scanning (hproper.scanning hscans) 0 hnormal []
    (Text.bytes line.text)).2
  rw [← LexState.lexLine_of_scans hscans, ← hrow] at hkinds
  rintro (hpending | hcontext | hmem | hmem)
  · exact hpending hscans.1
  · exact hscans.2.1 hcontext
  · exact absurd (hkinds _ hmem) (by decide)
  · exact absurd (hkinds _ hmem) (by decide)

theorem Reindented.shifted {a b : List SourceLine}
    (ha : Lexed (fun _ => False) 0 .start a) (hb : Lexed (fun _ => False) 0 .start b)
    (h : Reindented (a.map (·.text)) (b.map (·.text))) :
    List.Forall₂ (fun l l' => l.Shifted l' ∧ (l.IsEmbedded → l'.text = l.text)) a b := by
  rw [List.forall₂_iff_get]
  refine ⟨by simpa using h.length_eq, ?_⟩
  intro i hi hi'
  obtain ⟨hstart, hrow⟩ := ha.of_getElem? (List.getElem?_eq_getElem hi)
  obtain ⟨hstart', hrow'⟩ := hb.of_getElem? (List.getElem?_eq_getElem hi')
  rw [List.get_eq_getElem, List.get_eq_getElem]
  generalize hl : a[i] = l at hstart hrow
  generalize hl' : b[i] = l' at hstart' hrow'
  have hs : (a.map (·.text))[i]? = some l.text := by simp [hi, hl]
  have ht : (b.map (·.text))[i]? = some l'.text := by simp [hi', hl']
  have hsame : l.start = l'.start := by rw [hstart, hstart', h.after_take]
  have hbody := h.body_eq i _ _ hs ht
  rcases h.scanned i _ _ hs ht with heq | ⟨hscans, hscans'⟩
  · refine ⟨⟨hsame, hbody, ?_⟩, fun _ => heq.symm⟩
    rw [hrow id, hrow' id, hsame, heq]
  · rw [← hstart] at hscans hscans'
    have hproper : l.start.Proper := by
      rw [hstart]
      exact LexState.proper_after LexState.proper_start _
    refine ⟨⟨hsame, hbody, ?_⟩, fun hembedded => ?_⟩
    · rw [hrow id, hrow' id, ← hsame]
      exact (LexState.lexLine_reblanked hproper hscans hscans' hbody).2
    · exact absurd hembedded (SourceLine.not_isEmbedded_of_scans hproper (hrow id) hscans)

theorem Rules.keepsEmbedded_of_mem {rules : Rules}
    (hhere : "Ruby:Here Document" ∈ rules.verbatimAttributes)
    (hblock : "Ruby:Blockcomment" ∈ rules.verbatimAttributes) : rules.KeepsEmbedded := by
  intro kind hkind
  cases kind with
  | hereDocument => exact hhere
  | blockComment => exact hblock
  | _ => simp [Attribute.isEmbedded] at hkind

theorem Indenter.shifted_indentLines (indenter : Indenter) {texts : List Text}
    (hbegin : NoIndentedBegin texts) (hkeeps : indenter.rules.KeepsEmbedded)
    (tabWidth first last : Nat) :
    let before := Document.ofLines texts tabWidth
    let after := (indenter.indentLines before first last).1
    List.Forall₂ (fun l l' => l.Shifted l' ∧ (l.IsEmbedded → l'.text = l.text))
      before.lines after.lines := by
  intro before after
  obtain ⟨hlexed, hre⟩ := reindented_indentLines hbegin hkeeps tabWidth first last
  have htexts : before.lines.map (·.text) = texts := SourceLine.map_text_lexAll .start texts
  refine Reindented.shifted (Lexed.lexAll _ 0 .start texts) hlexed ?_
  exact htexts.symm ▸ hre

/-- A pass leaves the lexing of a buffer as it is: every line is begun in the
same state, its body keeps text and attributes, and the lines of here documents
and embedded documentation keep all their text. -/
theorem indentLines_lexically_stable (indenter : Indenter) (texts : List Text)
    (tabWidth first last : Nat) (hbegin : NoIndentedBegin texts)
    (hhere : "Ruby:Here Document" ∈ indenter.rules.verbatimAttributes)
    (hblock : "Ruby:Blockcomment" ∈ indenter.rules.verbatimAttributes) :
    let before := Document.ofLines texts tabWidth
    let after := (indenter.indentLines before first last).1
    List.Forall₂ (fun l l' => l'.start = l.start ∧ Text.body l'.text = Text.body l.text ∧
      l'.row.drop (Text.leadingBlanks l'.text).length =
        l.row.drop (Text.leadingBlanks l.text).length ∧
      (l.IsEmbedded → l'.text = l.text)) before.lines after.lines := by
  intro before after
  have hkeeps := Rules.keepsEmbedded_of_mem hhere hblock
  refine (indenter.shifted_indentLines hbegin hkeeps tabWidth first last).imp ?_
  rintro l l' ⟨hshifted, htext⟩
  exact ⟨hshifted.start_eq.symm, hshifted.body_eq.symm, hshifted.row_eq.symm, htext⟩

/-- A call with a here document: the call moves, the document stays. -/
theorem indentLines_lexically_stable_hereDocument :
    let texts := ["if a".toList, "f(<<A,".toList, "   b".toList, "A".toList, "1)".toList]
    let before := Document.ofLines texts 8
    let after := (Indenter.indentLines ⟨.default, .default⟩ before 0 4).1
    after.texts = ["if a".toList, "  f(<<A,".toList, "   b".toList, "A".toList,
      "   1)".toList] ∧
    List.Forall₂ (fun l l' => l'.start = l.start ∧ Text.body l'.text = Text.body l.text ∧
      l'.row.drop (Text.leadingBlanks l'.text).length =
        l.row.drop (Text.leadingBlanks l.text).length ∧
      (l.IsEmbedded → l'.text = l.text)) before.lines after.lines :=
  ⟨by decide +kernel, indentLines_lexically_stable ⟨.default, .default⟩ _ 8 0 4 (by decide)
    (by decide) (by decide)⟩

end Reindent
