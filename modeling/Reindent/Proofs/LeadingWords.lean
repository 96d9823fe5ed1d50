import Reindent.Proofs.Veiling

/-!
# Whole words at the start of a text

A keyword pattern skips white space, tries its words one after the other and
then asks for the edge of a word. It is shown that this takes the longest word
at the start of the text or nothing: a shorter word leaves a word character
behind it, so no alternative can win over the right one, in whatever order they
stand. With this the patterns for block openers and block closers are settled by
the first word of the text, and a closer also by what follows it. A character
that is typed moves a line only when the line is nothing but a closer.
-/

namespace Reindent

def Text.firstWord (text : Text) : Text := text.takeWhile Unicode.isWord

def Text.afterFirstWord (text : Text) : Text := text.dropWhile Unicode.isWord

def IsKeyword (word : Text) : Prop := word ≠ [] ∧ ∀ c ∈ word, Unicode.isWord c = true

instance : DecidablePred IsKeyword := fun word =>
  decidable_of_iff (word ≠ [] ∧ word.all Unicode.isWord = true) (by rw [IsKeyword, List.all_eq_true])

theorem Text.firstWord_append {word : Text} (hword : ∀ c ∈ word, Unicode.isWord c = true)
    (rest : Text) : firstWord (word ++ rest) = word ↔ rest.head?.any Unicode.isWord = false := by
  rw [firstWord, List.takeWhile_append_of_pos hword, List.append_right_eq_self]
  cases rest <;> simp

-- ---------------------------------------------------------------------------
-- Alternatives of a keyword pattern
-- ---------------------------------------------------------------------------

theorem Cursor.before_advance {place : Cursor} {front rest : Text}
    (h : place.after = front ++ rest) (hne : front ≠ []) :
    (place.advance front.length).before = front.getLast? := by
  induction front generalizing place with
  | nil => exact absurd rfl hne
  | cons c front ih =>
    have hbefore : place.step.before = some c := by
      rw [step, h, List.cons_append]
    rw [List.length_cons, advance_succ]
    cases front with
    | nil => exact hbefore
    | cons d front =>
      rw [ih (by rw [after_step, h]; rfl) (by simp), List.getLast?_cons_cons]

namespace Pattern

variable {place last : Cursor}

theorem sees_single_iff {c : Char} : place.sees (.single c) = true ↔ [c] <+: place.after := by
  rw [Cursor.sees_iff]
  cases place.after with
  | nil => simp
  | cons d rest => simp [CharSet.contains_single, eq_comm (a := c)]

theorem ends_single (c : Char) (place : Cursor) :
    (Pattern.char (.single c)).ends place =
      if [c] <+: place.after then [place.step] else [] := by
  simp only [ends_char, sees_single_iff]

theorem ends_eitherChar (a b : Char) (place : Cursor) :
    (eitherChar a b).ends place =
      if [a] <+: place.after ∨ [b] <+: place.after then [place.step] else [] := by
  have hsees : place.sees (.union (.union .empty (.single a)) (.single b)) = true ↔
      [a] <+: place.after ∨ [b] <+: place.after := by
    rw [← sees_single_iff, ← sees_single_iff, Cursor.sees, Cursor.sees, Cursor.sees]
    cases place.after with
    | nil => simp
    | cons c rest => simp [CharSet.contains, CharSet.empty, Unicode.Ranges.containsChar,
        Unicode.Ranges.contains]
  simp only [eitherChar, ends_char, hsees]

theorem ends_literal (word : Text) (place : Cursor) :
    (literal word).ends place =
      if word <+: place.after then [place.advance word.length] else [] := by
  fun_induction literal word generalizing place with
  | case1 => simp [ends]
  | case2 c => exact ends_single c place
  | case3 c rest _ ih =>
    rw [ends, ends_single]
    cases hafter : place.after with
    | nil => simp
    | cons d text =>
      by_cases hc : c = d
      · subst hc
        rw [if_pos (by simp), List.flatMap_singleton, ih, Cursor.after_step, hafter,
          List.tail_cons]
        by_cases hrest : rest <+: text <;> simp [hrest, Cursor.advance_succ]
      · simp [hc]

theorem ends_wordEdge (place : Cursor) :
    wordEdge.ends place =
      if place.wordBefore false != place.wordAfter false then [place] else [] := rfl

theorem ends_literal_wordEdge {word : Text} (h : IsKeyword word) (place : Cursor) :
    (Pattern.seq (literal word) wordEdge).ends place =
      if Text.firstWord place.after = word then [place.advance word.length] else [] := by
  rw [ends, ends_literal]
  by_cases hprefix : word <+: place.after
  · obtain ⟨rest, hrest⟩ := hprefix
    have hbefore : (place.advance word.length).wordBefore false = true := by
      rw [Cursor.wordBefore, Cursor.before_advance hrest.symm h.1,
        List.getLast?_eq_some_getLast h.1]
      exact h.2 _ (List.getLast_mem h.1)
    have hafter : (place.advance word.length).after = rest := by
      rw [Cursor.after_advance, ← hrest, List.drop_left]
    rw [if_pos ⟨rest, hrest⟩, List.flatMap_singleton, ends_wordEdge, hbefore, Cursor.wordAfter,
      hafter, ← hrest]
    have hedge : (true != rest.head?.any (Cursor.isWordChar false)) = true ↔
        Text.firstWord (word ++ rest) = word := by
      rw [Text.firstWord_append h.2, bne_iff_ne, ne_comm, ne_eq, Bool.not_eq_true]
      rfl
    simp only [hedge]
  · have hnot : Text.firstWord place.after ≠ word := by
      rintro rfl
      exact hprefix (List.takeWhile_prefix _)
    rw [if_neg hprefix, if_neg hnot, List.flatMap_nil]

theorem ends_alt_seq (a b c : Pattern) (place : Cursor) :
    (Pattern.seq (.alt a b) c).ends place =
      (Pattern.seq a c).ends place ++ (Pattern.seq b c).ends place :=
  List.flatMap_append

/-- One of several words and the edge behind it: what is found is the first word of
the text, if it is among them. -/
theorem mem_ends_oneOf_wordEdge {words : List String} (hne : words ≠ [])
    (hwords : ∀ word ∈ words, IsKeyword word.toList) :
    last ∈ (Pattern.seq (oneOf words) wordEdge).ends place ↔
      Text.firstWord place.after ∈ words.map String.toList ∧
        last = place.advance (Text.firstWord place.after).length := by
  have hone {word : String} (h : IsKeyword word.toList) :
      last ∈ (Pattern.seq (literal word.toList) wordEdge).ends place ↔
        Text.firstWord place.after = word.toList ∧
          last = place.advance (Text.firstWord place.after).length := by
    rw [ends_literal_wordEdge h]
    split
    case isTrue heq => simp [heq]
    case isFalse hnot => simp [hnot]
  fun_induction oneOf words with
  | case1 => exact absurd rfl hne
  | case2 word => simp [hone (hwords word List.mem_cons_self)]
  | case3 word rest hrest ih =>
    have hlater := ih hrest fun w hw => hwords w (List.mem_cons_of_mem _ hw)
    rw [ends_alt_seq, List.mem_append, hone (hwords word List.mem_cons_self), List.map_cons,
      List.mem_cons, or_and_right]
    exact or_congr_right hlater

end Pattern

-- ---------------------------------------------------------------------------
-- Block openers and block closers
-- ---------------------------------------------------------------------------

namespace Rules

open Pattern

theorem after_skip_start (text : Text) :
    ((Cursor.start text).skip .whiteSpace).after = Unicode.trimStart text :=
  Cursor.after_skip _ _

theorem isMatch_blockStart_iff (text : Text) :
    default.blockStart.isMatch text = true ↔
      Text.firstWord (Unicode.trimStart text) ∈ blockOpeners.map String.toList := by
  have hleads : opener.leads = true := by decide +kernel
  have hwords : ∀ word ∈ blockOpeners, IsKeyword word.toList := by decide +kernel
  rw [blockStart_default, isMatch_textStart, ends_spaces_seq hleads, opener, ne_eq,
    List.eq_nil_iff_forall_not_mem]
  simp only [mem_ends_oneOf_wordEdge (by decide) hwords, after_skip_start, not_forall, not_not,
    exists_and_left, exists_eq, and_true]

/-- A text begins with a block closer, a bracket or a whole word, and `rest` is what
follows it. -/
def BeginsWithCloser (text rest : Text) : Prop :=
  text = ']' :: rest ∨ text = '}' :: rest ∨
    Text.firstWord text ∈ blockClosers.map String.toList ∧ Text.afterFirstWord text = rest

theorem exists_ends_closer {place : Cursor} {rest : Text} :
    (∃ last ∈ closer.ends place, last.after = rest) ↔ BeginsWithCloser place.after rest := by
  have hwords : ∀ word ∈ blockClosers, IsKeyword word.toList := by decide +kernel
  have hword : (∃ last ∈ (Pattern.seq (oneOf blockClosers) wordEdge).ends place,
      last.after = rest) ↔ Text.firstWord place.after ∈ blockClosers.map String.toList ∧
        Text.afterFirstWord place.after = rest := by
    have hafter : (place.advance (Text.firstWord place.after).length).after =
        Text.afterFirstWord place.after := by
      rw [Cursor.after_advance, Text.firstWord, Text.drop_length_takeWhile]
      rfl
    simp only [mem_ends_oneOf_wordEdge (by decide) hwords, and_assoc, exists_and_left,
      exists_eq_left, hafter]
  have hbracket : (∃ last ∈ (eitherChar ']' '}').ends place, last.after = rest) ↔
      place.after = ']' :: rest ∨ place.after = '}' :: rest := by
    simp only [ends_eitherChar, List.mem_ite_nil_right, List.mem_singleton, and_assoc,
      exists_and_left, exists_eq_left, Cursor.after_step]
    cases place.after with
    | nil => simp
    | cons c tail => simp [or_and_right, eq_comm (b := c)]
  simp only [closer, ends, List.mem_append, or_and_right, exists_or]
  rw [BeginsWithCloser, ← or_assoc, ← hbracket, ← hword, or_comm]
  rfl

theorem groups_of_mem_closerTail {place last : Cursor} (h : last ∈ closerTail.ends place) :
    '\n' ∉ place.after ∧ last.groups.lookup trailingGroup = some (place.offset, place.finish) := by
  have hne : closerTail.ends place ≠ [] := List.ne_nil_of_mem h
  refine ⟨fun hmem => hne (ends_closerTail_eq_nil.mpr hmem), ?_⟩
  obtain ⟨inner, hinner, h⟩ := List.mem_flatMap.mp h
  obtain ⟨stop, hstop, rfl⟩ := List.mem_map.mp hinner
  rw [ends] at h
  split at h
  case isFalse => simp at h
  case isTrue hend =>
    obtain rfl := List.mem_singleton.mp h
    have hafter : stop.after = [] := by simpa [Look.holds] using hend
    have hoffset : stop.offset = place.finish := by
      rw [Cursor.offset_eq_finish_iff.mpr hafter, (ahead_of_mem_ends hstop).finish_eq]
    simp [trailingGroup, hoffset]

theorem blockEnd_find? (text : Text) :
    default.blockEnd.find? text =
      ((Pattern.seq closer closerTail).ends ((Cursor.start text).skip .whiteSpace)).head?.map
        fun last => ⟨0, last.offset, last.groups⟩ := by
  have hleads : (Pattern.seq closer closerTail).leads = true := by decide +kernel
  have hstart : Look.textStart.holds (Cursor.start text) = true := rfl
  rw [blockEnd_default, find?_textStart, matchAt?, ends, ends, if_pos hstart,
    List.flatMap_singleton, ends_spaces_seq hleads]
  rfl

theorem BeginsWithCloser.unique {text rest rest' : Text} (h : BeginsWithCloser text rest)
    (h' : BeginsWithCloser text rest') : rest = rest' := by
  have bracket {c : Char} {tail : Text} (hc : Unicode.isWord c = false)
      (hword : Text.firstWord (c :: tail) ∈ blockClosers.map String.toList) : False := by
    rw [Text.firstWord, List.takeWhile_cons_of_neg (by simp [hc])] at hword
    exact absurd hword (by decide)
  rcases h with rfl | rfl | ⟨hword, rfl⟩
  · rcases h' with h' | h' | ⟨hword, -⟩
    · exact (List.cons.inj h').2
    · exact absurd (List.cons.inj h').1 (by decide)
    · exact (bracket (by decide +kernel) hword).elim
  · rcases h' with h' | h' | ⟨hword, -⟩
    · exact absurd (List.cons.inj h').1 (by decide)
    · exact (List.cons.inj h').2
    · exact (bracket (by decide +kernel) hword).elim
  · rcases h' with rfl | rfl | ⟨-, h'⟩
    · exact (bracket (by decide +kernel) hword).elim
    · exact (bracket (by decide +kernel) hword).elim
    · exact h'

theorem blockEndMatch_eq_some_iff {text : Text} {exactly : Bool} :
    default.blockEndMatch text = some exactly ↔
      ∃ rest, BeginsWithCloser (Unicode.trimStart text) rest ∧ '\n' ∉ rest ∧
        exactly = rest.isEmpty := by
  have found {exactly : Bool} (h : default.blockEndMatch text = some exactly) :
      ∃ rest, BeginsWithCloser (Unicode.trimStart text) rest ∧ '\n' ∉ rest ∧
        exactly = rest.isEmpty := by
    rw [blockEndMatch, blockEnd_find?, Option.map_map, Option.map_eq_some_iff] at h
    obtain ⟨last, hlast, htrailing⟩ := h
    obtain ⟨middle, hmiddle, htail⟩ := List.mem_flatMap.mp (List.mem_of_mem_head? hlast)
    obtain ⟨hfeed, hgroup⟩ := groups_of_mem_closerTail htail
    have hcloser := exists_ends_closer.mp ⟨middle, hmiddle, rfl⟩
    rw [after_skip_start] at hcloser
    refine ⟨middle.after, hcloser, hfeed, ?_⟩
    rw [← htrailing, Function.comp_apply, Match.group?, hgroup]
    dsimp only
    rw [Bool.eq_iff_iff, beq_iff_eq, Cursor.offset_eq_finish_iff, List.isEmpty_iff]
  refine ⟨found, ?_⟩
  rintro ⟨rest, hcloser, hfeed, rfl⟩
  -- Some match is found, and what follows a closer is the same for all of them.
  have hne : (Pattern.seq closer closerTail).ends ((Cursor.start text).skip .whiteSpace) ≠ [] := by
    rw [← after_skip_start] at hcloser
    obtain ⟨last, hlast, rfl⟩ := exists_ends_closer.mpr hcloser
    have htail : closerTail.ends last ≠ [] := mt ends_closerTail_eq_nil.mp hfeed
    obtain ⟨final, hfinal⟩ := List.exists_mem_of_ne_nil _ htail
    exact List.ne_nil_of_mem (List.mem_flatMap.mpr ⟨last, hlast, hfinal⟩)
  have hsome : (default.blockEndMatch text).isSome = true := by
    rw [blockEndMatch, blockEnd_find?, Option.isSome_map, Option.isSome_map, List.isSome_head?]
    exact hne
  obtain ⟨exactly, hexactly⟩ := Option.isSome_iff_exists.mp hsome
  obtain ⟨rest', hcloser', -, rfl⟩ := found hexactly
  rw [hexactly, hcloser'.unique hcloser]

theorem beginsWithCloser_nil_iff {text : Text} :
    BeginsWithCloser text [] ↔ text ∈ [']'] :: ['}'] :: blockClosers.map String.toList := by
  have hwords : ∀ word ∈ blockClosers.map String.toList, IsKeyword word := by decide +kernel
  have hword : Text.firstWord text ∈ blockClosers.map String.toList ∧
      Text.afterFirstWord text = [] ↔ text ∈ blockClosers.map String.toList := by
    constructor
    · rintro ⟨hmem, hnil⟩
      have hsplit : Text.firstWord text ++ Text.afterFirstWord text = text :=
        List.takeWhile_append_dropWhile
      rw [hnil, List.append_nil] at hsplit
      rwa [hsplit] at hmem
    · intro hmem
      have hall := (hwords text hmem).2
      have hself : Text.firstWord text = text := List.takeWhile_eq_self_iff.mpr hall
      exact ⟨hself.symm ▸ hmem, List.dropWhile_eq_nil_iff.mpr hall⟩
  rw [BeginsWithCloser, hword, List.mem_cons, List.mem_cons]

end Rules

-- ---------------------------------------------------------------------------
-- Typed characters
-- ---------------------------------------------------------------------------

theorem Document.indent_of_not_accepts {doc : Document} {rules : Rules} {line : Nat}
    {trigger : Trigger} (h : doc.acceptsTrigger rules line trigger = false) (indentWidth : Nat) :
    doc.indent rules line indentWidth trigger = .noOpinion := by
  rw [indent, tryIndent]
  split
  case h_1 directive hok =>
    split at hok
    case isTrue =>
      rw [← Except.ok.inj hok, directiveFor, h]
      rfl
    case isFalse => simp at hok
  case h_2 => rfl

theorem Indenter.of_typed_ne {indenter : Indenter} {doc : Document} {line : Nat} {c : Char}
    (hc : c ≠ '\n') (h : indenter.typed doc line c ≠ (doc, false)) :
    c ∈ indenter.rules.triggerCharacters ∧
      indenter.rules.blockEndMatch (doc.line line) = some true := by
  rw [typed] at h
  split at h
  case isFalse => exact absurd rfl h
  case isTrue htrigger =>
    have hmem : c ∈ indenter.rules.triggerCharacters := by
      simpa [Rules.isTrigger, hc] using htrigger
    refine ⟨hmem, ?_⟩
    by_contra hmatch
    refine h ?_
    have hrefused : doc.acceptsTrigger indenter.rules line (.ofChar c) = false := by
      simpa [Trigger.ofChar, hc, Document.acceptsTrigger] using hmatch
    rw [indentLine, Document.indent_of_not_accepts hrefused]
    rfl

/-- The default keyword patterns recognise exactly whole words at the start of a text,
behind any white space. A text opens a block if its first word is an opener. It closes
one if it begins with a closer, a word or a bracket, and no line feed follows; the
answer tells whether nothing follows at all. So a typed character other than a line
feed moves a line only if it is a trigger and the line is white space and one
closer. -/
theorem default_keywords_are_whole_words (rules : Rules)
    (hrules : Config.default.compile = .ok rules) :
    (∀ text, rules.blockStart.isMatch text = true ↔
      Text.firstWord (Unicode.trimStart text) ∈ blockOpeners.map String.toList) ∧
    (∀ text exactly, rules.blockEndMatch text = some exactly ↔
      ∃ rest, Rules.BeginsWithCloser (Unicode.trimStart text) rest ∧ '\n' ∉ rest ∧
        exactly = rest.isEmpty) ∧
    ∀ (settings : Settings) (doc : Document) (line : Nat) (c : Char), c ≠ '\n' →
      Indenter.typed ⟨rules, settings⟩ doc line c ≠ (doc, false) →
        c ∈ rules.triggerCharacters ∧
          Unicode.trimStart (doc.line line) ∈
            [']'] :: ['}'] :: blockClosers.map String.toList := by
  obtain rfl := Rules.eq_default hrules
  refine ⟨Rules.isMatch_blockStart_iff, fun _ _ => Rules.blockEndMatch_eq_some_iff, ?_⟩
  intro settings doc line c hc hchanged
  obtain ⟨htrigger, hmatch⟩ := Indenter.of_typed_ne hc hchanged
  obtain ⟨rest, hcloser, -, hexact⟩ := Rules.blockEndMatch_eq_some_iff.mp hmatch
  obtain rfl : rest = [] := List.isEmpty_iff.mp hexact.symm
  exact ⟨htrigger, Rules.beginsWithCloser_nil_iff.mp hcloser⟩

/-- Words with a common start, a bracket with more behind it, and the last letter of
`end` typed in another word. -/
theorem default_keywords_are_whole_words_endpoint :
    let doc := Document.ofLines (["if x", "    end", "    endpoint"].map String.toList) 8
    Rules.default.blockStart.isMatch "\u3000elsif(x)".toList = true ∧
      Rules.default.blockStart.isMatch "elsewhere".toList = false ∧
      Rules.default.blockEndMatch "\tensure".toList = some true ∧
      Rules.default.blockEndMatch "\x7d.each".toList = some false ∧
      ((Indenter.mk .default .default).typed doc 1 'd').2 = true ∧
      (Indenter.mk .default .default).typed doc 2 'd' = (doc, false) := by
  intro doc
  obtain ⟨hstart, hend, htyped⟩ := default_keywords_are_whole_words .default Config.compile_default
  refine ⟨(hstart _).mpr (by decide +kernel), ?_, ?_, ?_, by decide +kernel, ?_⟩
  · rw [Bool.eq_false_iff, ne_eq, hstart]
    decide +kernel
  · exact (hend _ _).mpr ⟨[], .inr (.inr (by decide +kernel)), by decide, rfl⟩
  · exact (hend _ _).mpr ⟨".each".toList, .inr (.inl rfl), by decide, rfl⟩
  · by_contra hchanged
    exact absurd (htyped .default doc 2 'd' (by decide) hchanged).2 (by decide +kernel)

end Reindent
