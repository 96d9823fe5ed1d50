import Reindent.Proofs.Frame
import Reindent.Proofs.Idempotence
import Reindent.Proofs.Relexing
import Reindent.Proofs.Runs

/-!
# The text that a run puts out

The output has the lines of the source, without a carriage return at their ends
and with other leading blanks. Read again it splits into the very lines that
were joined, so the document of a second run is the one that the first run
left, down to the states of the lexer, and there is nothing left to do. The only
exception is a line that ends in two carriage returns: a run drops one of
them, and the next run the other.
-/

namespace Reindent

namespace Text

/-- A line of the output against the line of the source that it comes from. A
carriage return at the end is dropped, the leading blanks may be different, and
white space is left alone. -/
structure KeepsLine (line new : Text) : Prop where
  body_eq : body new = body (dropCarriageReturn line)
  white : isAllWhiteSpace (dropCarriageReturn line) = true → new = dropCarriageReturn line

-- ---------------------------------------------------------------------------
-- Splitting and joining
-- ---------------------------------------------------------------------------

theorem splitLines_ne_nil (text : Text) : splitLines text ≠ [] := by
  cases text with
  | nil => simp [splitLines]
  | cons c rest =>
    simp only [splitLines, List.foldr_cons]
    split
    · simp
    · split <;> simp

theorem splitLines_cons (c : Char) (rest : Text) :
    splitLines (c :: rest) = [] :: splitLines rest ∧ c = '\n' ∨
      ∃ line more, splitLines rest = line :: more ∧ splitLines (c :: rest) = (c :: line) :: more ∧
        c ≠ '\n' := by
  by_cases hc : c = '\n'
  · exact .inl ⟨by simp [splitLines, hc], hc⟩
  · obtain ⟨line, more, hlines⟩ := List.exists_cons_of_ne_nil (splitLines_ne_nil rest)
    refine .inr ⟨line, more, hlines, ?_, hc⟩
    unfold splitLines at hlines ⊢
    rw [List.foldr_cons, if_neg (by simpa using hc), hlines]

theorem splitLines_eq_splitOn (text : Text) : splitLines text = text.splitOn '\n' := by
  induction text with
  | nil => rfl
  | cons c rest ih =>
    rw [List.splitOn] at ih ⊢
    rw [List.splitOnP_cons_eq_if_modifyHead, ← ih]
    rcases splitLines_cons c rest with ⟨hcons, rfl⟩ | ⟨line, more, hlines, hcons, hc⟩
    · simp [hcons]
    · simp [hcons, hlines, hc]

theorem splitLines_joinLines {lines : List Text} (h : ∀ line ∈ lines, '\n' ∉ line)
    (hne : lines ≠ []) : splitLines (joinLines lines) = lines := by
  rw [splitLines_eq_splitOn]
  exact List.splitOn_intercalate '\n' h hne

theorem lineFeed_notMem_of_mem_splitLines {text line : Text} (h : line ∈ splitLines text) :
    '\n' ∉ line := by
  induction text generalizing line with
  | nil =>
    obtain rfl : line = [] := by simpa [splitLines] using h
    simp
  | cons c rest ih =>
    rcases splitLines_cons c rest with ⟨hcons, -⟩ | ⟨first, more, hlines, hcons, hc⟩
    · rcases List.mem_cons.mp (hcons ▸ h) with rfl | hmem
      · simp
      · exact ih hmem
    · rcases List.mem_cons.mp (hcons ▸ h) with rfl | hmem
      · have hfirst : '\n' ∉ first := ih (by simp [hlines])
        simp [hfirst, Ne.symm hc]
      · exact ih (by simp [hlines, hmem])

theorem getLast?_body {text : Text} (h : body text ≠ []) :
    (body text).getLast? = text.getLast? := by
  conv_rhs => rw [← leadingBlanks_append_body text, List.getLast?_append]
  cases hlast : (body text).getLast? with
  | none => exact absurd (List.getLast?_eq_none_iff.mp hlast) h
  | some c => rfl

theorem getLast?_dropCarriageReturn {line : Text} (h : ¬ ['\r', '\r'] <:+ line) :
    (dropCarriageReturn line).getLast? ≠ some '\r' := by
  unfold dropCarriageReturn
  split
  case isTrue hlast =>
    obtain ⟨front, rfl⟩ := List.getLast?_eq_some_iff.mp (beq_iff_eq.mp hlast)
    rw [List.dropLast_concat]
    intro hagain
    obtain ⟨rest, rfl⟩ := List.getLast?_eq_some_iff.mp hagain
    exact h ⟨rest, by simp⟩
  case isFalse hlast => simpa using hlast

theorem dropCarriageReturn_subset (line : Text) : dropCarriageReturn line ⊆ line := by
  unfold dropCarriageReturn
  split
  · exact List.dropLast_subset line
  · exact List.Subset.refl line

theorem exists_keepsLine_of_mem {lines news : List Text} (h : List.Forall₂ KeepsLine lines news)
    {new : Text} (hnew : new ∈ news) : ∃ line ∈ lines, line.KeepsLine new := by
  obtain ⟨i, hi, rfl⟩ := List.mem_iff_getElem.mp hnew
  exact ⟨_, List.getElem_mem _, h.get (h.length_eq ▸ hi) hi⟩

theorem KeepsLine.dropCarriageReturn_eq {line new : Text} (h : line.KeepsLine new)
    (hline : ¬ ['\r', '\r'] <:+ line) : dropCarriageReturn new = new := by
  have hlast : new.getLast? ≠ some '\r' := by
    by_cases hbody : body (dropCarriageReturn line) = []
    · have hwhite : isAllWhiteSpace (dropCarriageReturn line) = true := by
        rw [← isAllWhiteSpace_body, hbody]
        rfl
      rw [h.white hwhite]
      exact getLast?_dropCarriageReturn hline
    · rw [← getLast?_body (h.body_eq ▸ hbody), h.body_eq, getLast?_body hbody]
      exact getLast?_dropCarriageReturn hline
  unfold dropCarriageReturn
  simp [hlast]

theorem lineFeed_notMem_of_body {text : Text} (h : '\n' ∉ body text) : '\n' ∉ text := by
  rw [← leadingBlanks_append_body text, List.mem_append, not_or]
  refine ⟨fun hmem => ?_, h⟩
  exact absurd (allBlank_leadingBlanks text _ hmem) (by decide)

end Text

-- ---------------------------------------------------------------------------
-- A pass over a text
-- ---------------------------------------------------------------------------

namespace Indenter

variable {indenter : Indenter}

theorem sameBodies_indentAll (indenter : Indenter) (doc : Document) :
    doc.SameBodies (indenter.indentAll doc).1 := by
  rw [indentAll_eq]
  exact indenter.sameBodies_foldl_indentStep _ (doc, 0)

theorem line_indentAll_of_white (indenter : Indenter) (doc : Document) {i : Nat}
    (hwhite : Text.isAllWhiteSpace (doc.line i) = true) :
    (indenter.indentAll doc).1.line i = doc.line i := by
  rw [indentAll_eq]
  exact line_foldl_indentStep_of_white (doc, 0) hwhite

theorem indentAll_ofLines (indenter : Indenter) (lines : List Text) (tabWidth : Nat) :
    (indenter.indentAll (.ofLines lines tabWidth)).1 =
      .ofLines (indenter.indentAll (.ofLines lines tabWidth)).1.texts tabWidth := by
  have hlexed : Lexed (fun _ => False) 0 .start
      (indenter.indentAll (.ofLines lines tabWidth)).1.lines := by
    rw [indentAll_eq]
    apply foldl_indentStep_induction (P := fun doc => Lexed (fun _ => False) 0 .start doc.lines)
    · intro doc line _ blanks _ h
      exact Document.lexed_setLeadingBlanks h line blanks
    · exact Lexed.lexAll _ 0 .start lines
  exact Document.eq_ofLines_of_lexed hlexed (indenter.sameBodies_indentAll _).tabWidth

theorem indentAll_indentAll (hrules : indenter.rules.ClosersIgnoreIndent) (doc : Document) :
    indenter.indentAll (indenter.indentAll doc).1 = ((indenter.indentAll doc).1, 0) := by
  rw [indentAll_eq indenter (indenter.indentAll doc).1,
    (indenter.sameBodies_indentAll doc).lineCount]
  apply foldl_indentStep_of_settled
  rw [indentAll_eq]
  exact settled_foldl_indentStep hrules _ List.pairwise_lt_range (doc, 0)

theorem keepsLine_indentAll (indenter : Indenter) (tabWidth : Nat) (source : Text) :
    List.Forall₂ Text.KeepsLine (Text.splitLines source)
      (indenter.indentAll (.ofText source tabWidth)).1.texts := by
  have hsame := indenter.sameBodies_indentAll (.ofText source tabWidth)
  have hwhite (i : Nat) := indenter.line_indentAll_of_white (.ofText source tabWidth) (i := i)
  generalize (indenter.indentAll (.ofText source tabWidth)).1 = new at hsame hwhite ⊢
  have hcount : new.texts.length = (Text.splitLines source).length := by
    rw [Document.length_texts, hsame.lineCount, Document.ofText, Document.lineCount_ofLines,
      List.length_map]
  refine List.forall₂_iff_get.mpr ⟨hcount.symm, fun i hi hnew => ?_⟩
  have hold : (Document.ofText source tabWidth).line i =
      Text.dropCarriageReturn ((Text.splitLines source).get ⟨i, hi⟩) := by
    simp [Document.line_eq_texts, Document.ofText, hi]
  have hline : new.line i = new.texts.get ⟨i, hnew⟩ := by
    simp [Document.line_eq_texts, List.getElem?_eq_getElem hnew]
  rw [← hline]
  exact ⟨hold ▸ hsame.body i, fun h => hold ▸ hwhite i (hold ▸ h)⟩

theorem splitLines_indentText (indenter : Indenter) (tabWidth : Nat) (source : Text) :
    Text.splitLines (indenter.indentText tabWidth source).1 =
      (indenter.indentAll (.ofText source tabWidth)).1.texts := by
  have hkept := indenter.keepsLine_indentAll tabWidth source
  apply Text.splitLines_joinLines
  · intro new hnew
    obtain ⟨line, hline, hkeeps⟩ := Text.exists_keepsLine_of_mem hkept hnew
    apply Text.lineFeed_notMem_of_body
    rw [hkeeps.body_eq]
    intro hmem
    refine Text.lineFeed_notMem_of_mem_splitLines hline ?_
    exact Text.dropCarriageReturn_subset line ((List.dropWhile_suffix _).subset hmem)
  · intro hnil
    rw [hnil, List.forall₂_nil_right_iff] at hkept
    exact Text.splitLines_ne_nil source hkept

theorem ofText_indentText (indenter : Indenter) (tabWidth : Nat) {source : Text}
    (hreturns : ∀ line ∈ Text.splitLines source, ¬ ['\r', '\r'] <:+ line) :
    Document.ofText (indenter.indentText tabWidth source).1 tabWidth =
      (indenter.indentAll (.ofText source tabWidth)).1 := by
  have hkept := indenter.keepsLine_indentAll tabWidth source
  have hdrop : (indenter.indentAll (.ofText source tabWidth)).1.texts.map
      Text.dropCarriageReturn = (indenter.indentAll (.ofText source tabWidth)).1.texts := by
    refine (List.map_congr_left fun new hnew => ?_).trans (List.map_id _)
    obtain ⟨line, hline, hkeeps⟩ := Text.exists_keepsLine_of_mem hkept hnew
    exact hkeeps.dropCarriageReturn_eq (hreturns line hline)
  rw [Document.ofText, splitLines_indentText, hdrop]
  exact (indenter.indentAll_ofLines _ tabWidth).symm

theorem indentText_indentText (hrules : indenter.rules.ClosersIgnoreIndent) (tabWidth : Nat)
    {source : Text} (hreturns : ∀ line ∈ Text.splitLines source, ¬ ['\r', '\r'] <:+ line) :
    indenter.indentText tabWidth (indenter.indentText tabWidth source).1 =
      ((indenter.indentText tabWidth source).1, 0) := by
  rw [indentText, ofText_indentText indenter tabWidth hreturns, indentAll_indentAll hrules]
  rfl

end Indenter

-- ---------------------------------------------------------------------------
-- A second run
-- ---------------------------------------------------------------------------

namespace CommandLine

variable {options : Options} {files : Files} {config : Config} {path : String} {source : Text}
  {indenter : Indenter}

theorem Files.creatable_after (files : Files) (outcome : Outcome) :
    (files.after outcome).creatable = files.creatable := by
  unfold Files.after
  cases outcome.logFile <;> cases outcome.written <;> rfl

theorem Reads.other_text {new : Files} {text : Text} (h : Reads options files config path source)
    (hconfig : ∀ other, options.config = some other → files.read other = new.read other)
    (htext : new.text? path = some text) : Reads options new config path text := by
  obtain ⟨⟨base, hbase, hoverride⟩, hfile, -⟩ := h
  exact ⟨⟨base, configOf_congr hconfig ▸ hbase, hoverride⟩, hfile, htext⟩

section
variable (hdump : options.dumpSchema = false) (hapart : options.LogApart)
  (hlog : ∀ log, options.logFile = some log → files.creatable log = true)
  (hplace : options.inPlace = true) (hconfig : options.config ≠ some path)
  (h : Reads options files config path source)
  (hindenter : Indenter.ofConfig config = .ok indenter)
include hdump hapart hlog hplace hconfig h hindenter

theorem Reads.after_run {text : Text}
    (htext : (files.after (run options files)).text? path = some text) :
    Reads options (files.after (run options files)) config path text := by
  refine h.other_text (fun other hother => ?_) htext
  have hgiven : options.logFile ≠ some other := fun hgiven => (hapart other hgiven).2 hother
  have hne : other ≠ path := by
    rintro rfl
    exact hconfig hother
  exact (read_after_inPlace hdump hapart hlog h hindenter hplace hgiven
    fun heq => absurd heq hne).symm

theorem run_after_run
    (hstable : (indenter.indentText config.settings.tabWidth
      (indenter.indentText config.settings.tabWidth source).1).2 = 0) :
    run options (files.after (run options files)) = ⟨none, [], options.logFile, none⟩ := by
  obtain ⟨text, htext, hzero⟩ : ∃ text,
      (files.after (run options files)).text? path = some text ∧
        (indenter.indentText config.settings.tabWidth text).2 = 0 := by
    by_cases hchanged : (indenter.indentText config.settings.tabWidth source).2 = 0
    · -- Nothing was written back the first time, so the second run sees the source.
      have hgiven : options.logFile ≠ some path := fun hgiven => (hapart path hgiven).1 h.file
      refine ⟨source, ?_, hchanged⟩
      rw [← h.source]
      exact Files.text?_congr
        (read_after_inPlace hdump hapart hlog h hindenter hplace hgiven fun _ => hchanged)
    · exact ⟨_, Files.text?_of_read
        (read_after_inPlace_of_changed hdump hapart hlog h hindenter hplace hchanged), hstable⟩
  have hreads := h.after_run hdump hapart hlog hplace hconfig hindenter htext
  rw [run_inPlace hdump hapart (Files.creatable_after files _ ▸ hlog) hreads hindenter hplace,
    if_pos hzero]

end

theorem exists_ofConfig_of_default_patterns (hvalid : config.validate = .ok ())
    (hpatterns : ∀ field, config.pattern field = Config.default.pattern field) :
    ∃ indenter, Indenter.ofConfig config = .ok indenter ∧
      indenter.rules.ClosersIgnoreIndent := by
  obtain ⟨rules, hcompile, hdefault⟩ :=
    Config.exists_compile_of_default_patterns hvalid hpatterns
  refine ⟨⟨rules, config.settings⟩, ofConfig_eq_ok_iff.mpr ⟨hcompile, rfl⟩, ?_⟩
  have hend : rules.blockEnd = Rules.default.blockEnd := hdefault .blockEnd
  simp only [Rules.ClosersIgnoreIndent, hend]
  exact Rules.closersIgnoreIndent_default

/-- With a valid configuration that has the default patterns, a run changes the
leading blanks of a text and the carriage returns at the ends of its lines, and
nothing else. If no line ends in two carriage returns, a run on the output
gives the output again and counts no change, so that a second run in place does
not write the file. -/
theorem output_keeps_lines_and_is_stable (config : Config) (hvalid : config.validate = .ok ())
    (hpatterns : ∀ field, config.pattern field = Config.default.pattern field) (source : Text) :
    ∃ indenter, Indenter.ofConfig config = .ok indenter ∧
      (∀ options files path text, Reads options files config path text →
        reindent options files =
          .ok (path, indenter.indentText config.settings.tabWidth text)) ∧
      let output := indenter.indentText config.settings.tabWidth source
      List.Forall₂ Text.KeepsLine (Text.splitLines source) (Text.splitLines output.1) ∧
      ((∀ line ∈ Text.splitLines source, ¬ ['\r', '\r'] <:+ line) →
        indenter.indentText config.settings.tabWidth output.1 = (output.1, 0) ∧
        ∀ options files path, options.dumpSchema = false → options.inPlace = true →
          options.LogApart →
          (Reads options files config path output.1 → (run options files).written = none) ∧
          (Reads options files config path source → options.config ≠ some path →
            (run options files).failure = none →
            let second := run options (files.after (run options files))
            second.failure = none ∧ second.written = none)) := by
  obtain ⟨indenter, hindenter, hclosers⟩ := exists_ofConfig_of_default_patterns hvalid hpatterns
  refine ⟨indenter, hindenter, fun _ _ _ _ h => h.reindent_eq hindenter, ?_, fun hreturns => ?_⟩
  · rw [Indenter.splitLines_indentText]
    exact indenter.keepsLine_indentAll _ source
  have hstable := Indenter.indentText_indentText hclosers config.settings.tabWidth hreturns
  refine ⟨hstable, fun options files path hdump hplace hapart => ⟨?_, ?_⟩⟩
  · intro hreads
    by_cases hfails : StepFails options files
    · obtain ⟨failure, log, -, hrun⟩ := run_of_stepFails hdump hapart hfails
      simp [hrun]
    · have hlog := (exists_reads_of_not_stepFails hfails).1
      simp [run_inPlace hdump hapart hlog hreads hindenter hplace, hstable]
  · intro hreads hconfig hdone
    have hfails : ¬ StepFails options files := by
      intro hfails
      obtain ⟨failure, log, -, hrun⟩ := run_of_stepFails hdump hapart hfails
      simp [hrun] at hdone
    have hlog := (exists_reads_of_not_stepFails hfails).1
    simp [run_after_run hdump hapart hlog hplace hconfig hreads hindenter
      (congrArg Prod.snd hstable)]

/-- A file with carriage returns in which one line has to move. The first run in
place writes it back without them, the second run leaves it. -/
theorem output_keeps_lines_and_is_stable_crlf :
    let options : Options := ⟨some "a.rb", none, none, none, false, true, none, false⟩
    let files : Files := ⟨fun path =>
      if path = "a.rb" then some (Text.bytes "if a\r\nb\r\n".toList) else none, fun _ => true⟩
    let second := run options (files.after (run options files))
    (run options files).written = some ("a.rb", "if a\n  b\n".toList) ∧
      second.failure = none ∧ second.written = none := by
  intro options files
  have hreads : Reads options files Config.default "a.rb" "if a\r\nb\r\n".toList :=
    ⟨⟨_, configOf_of_none rfl, rfl⟩, rfl, Files.text?_of_read rfl⟩
  have hapart : options.LogApart := by
    rintro log ⟨⟩
  have hindenter : Indenter.ofConfig Config.default = .ok ⟨.default, .default⟩ :=
    ofConfig_eq_ok_iff.mpr ⟨Config.compile_default, rfl⟩
  have hfirst := run_inPlace rfl hapart (by rintro log ⟨⟩) hreads hindenter rfl
  have htext : Indenter.indentText ⟨.default, .default⟩ Config.default.settings.tabWidth
      "if a\r\nb\r\n".toList = ("if a\n  b\n".toList, 1) := by decide +kernel
  obtain ⟨_, -, -, -, hstable⟩ := output_keeps_lines_and_is_stable Config.default (by decide)
    (fun _ => rfl) "if a\r\nb\r\n".toList
  obtain ⟨-, hruns⟩ := hstable (by decide +kernel)
  refine ⟨by rw [hfirst, htext]; rfl, ?_⟩
  exact (hruns options files "a.rb" rfl rfl hapart).2 hreads (by decide) (by rw [hfirst])

end CommandLine

end Reindent
