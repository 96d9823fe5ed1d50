import Reindent.CommandLine.Run
import Reindent.Proofs.Configuration

/-!
# A run is done in full or not at all

A run goes through a number of steps, any of which can fail: it creates a log
file, loads a configuration, changes it by the options, compiles it, and reads
its input. If all of them succeed there is a text to put out, which goes to
standard output or back into the file. If one of them fails nothing is put out
and no file but the log file is touched.
-/

namespace Reindent

def Indenter.indentText (indenter : Indenter) (tabWidth : Nat) (source : Text) : Text × Nat :=
  let result := indenter.indentAll (Document.ofText source tabWidth)
  (result.1.toText, result.2)

namespace CommandLine

variable {options : Options} {files : Files} {config : Config} {path : String} {source : Text}

def Files.write (files : Files) (path : String) (text : Text) : Files :=
  { files with
    read := fun other => if other = path then some (Text.bytes text) else files.read other }

/-- The files as a run leaves them. What the log file holds does not matter. -/
def Files.after (files : Files) (outcome : Outcome) : Files :=
  let logged := match outcome.logFile with
    | none => files
    | some path => files.create path
  match outcome.written with
  | none => logged
  | some (path, text) => logged.write path text

def Options.LogApart (options : Options) : Prop :=
  ∀ log, options.logFile = some log → options.file ≠ some log ∧ options.config ≠ some log

/-- What a run reads: the configuration with the options applied, and the text of
the file. -/
structure Reads (options : Options) (files : Files) (config : Config) (path : String)
    (source : Text) : Prop where
  config : ∃ base, configOf options files = .ok base ∧ override options base = config
  file : options.file = some path
  source : files.text? path = some source

/-- A step of a run that cannot be done. -/
inductive StepFails (options : Options) (files : Files) : Prop where
  | logFile {log : String} (given : options.logFile = some log)
      (refused : files.creatable log = false)
  /-- The configuration cannot be read, or not as UTF-8. -/
  | configMissing {path : String} (given : options.config = some path)
      (missing : files.text? path = none)
  | configUnparsable {path : String} {text : Text} (given : options.config = some path)
      (found : files.text? path = some text)
      (malformed : (JsonValue.parse? text).bind Config.ofJson? = none)
  | configInvalid {path : String} {text : Text} {base : Config}
      (given : options.config = some path) (found : files.text? path = some text)
      (parsed : (JsonValue.parse? text).bind Config.ofJson? = some base)
      (invalid : base.validate ≠ .ok ())
  /-- The configuration is not valid with the widths of the options. -/
  | overrideInvalid {base : Config} (loaded : configOf options files = .ok base)
      (invalid : (override options base).validate ≠ .ok ())
  | patternMalformed {base : Config} {field : PatternField}
      (loaded : configOf options files = .ok base)
      (malformed : ∀ pattern, Pattern.parse (base.pattern field).toList ≠ .ok pattern)
  | trailingMissing {base : Config} {pattern : Pattern}
      (loaded : configOf options files = .ok base)
      (parsed : Pattern.parse base.blockEnd.toList = .ok pattern)
      (missing : trailingGroup ∉ pattern.groupNames)
  /-- The input cannot be read, or not as UTF-8. -/
  | inputMissing {path : String} (given : options.file = some path)
      (missing : files.text? path = none)
  | noInput (missing : options.file = none)

-- ---------------------------------------------------------------------------
-- Files
-- ---------------------------------------------------------------------------

theorem Files.text?_congr {a b : Files} (h : a.read path = b.read path) :
    a.text? path = b.text? path := by
  unfold Files.text?
  rw [h]

theorem Files.text?_of_read {files : Files} {path : String} {text : Text}
    (h : files.read path = some (Text.bytes text)) : files.text? path = some text := by
  have hencode : (Text.bytes text).toByteArray = (String.ofList text).toByteArray := rfl
  have hdecode : String.fromUTF8? (Text.bytes text).toByteArray = some (String.ofList text) := by
    rw [hencode, String.fromUTF8?, dif_pos (String.ofList text).isValidUTF8]
    rfl
  simp [Files.text?, h, hdecode]

theorem Files.read_create {log : String} (h : path ≠ log) :
    (files.create log).read path = files.read path := if_neg h

theorem configOf_congr {a b : Files}
    (h : ∀ path, options.config = some path → a.read path = b.read path) :
    configOf options a = configOf options b := by
  unfold configOf
  cases hconfig : options.config with
  | none => rfl
  | some path => simp only [h path hconfig]

theorem reindent_congr {a b : Files}
    (hconfig : ∀ path, options.config = some path → a.read path = b.read path)
    (hfile : ∀ path, options.file = some path → a.read path = b.read path) :
    reindent options a = reindent options b := by
  unfold reindent input
  rw [configOf_congr hconfig]
  cases hgiven : options.file with
  | none => rfl
  | some path => simp only [Files.text?_congr (hfile path hgiven)]

theorem load_read (files : Files) (path : String) :
    Config.load (files.read path) =
      match files.text? path with
      | none => .error .unreadable
      | some text => Config.read text := by
  unfold Config.load Files.text?
  split
  case h_1 h => simp [h]
  case h_2 h => simp [h]

theorem configOf_of_none (h : options.config = none) :
    configOf options files = .ok Config.default := by
  simp only [configOf, h]

theorem configOf_eq_ok_iff {base : Config} (h : options.config = some path) :
    configOf options files = .ok base ↔
      ∃ text, files.text? path = some text ∧
        (JsonValue.parse? text).bind Config.ofJson? = some base ∧ base.validate = .ok () := by
  simp only [configOf, h, load_read, ← Config.read_eq_ok_iff]
  cases files.text? path with
  | none => simp
  | some text =>
    simp only [Option.some.injEq, exists_eq_left']
    cases Config.read text <;> simp

-- ---------------------------------------------------------------------------
-- Success and failure
-- ---------------------------------------------------------------------------

theorem input_eq_ok_iff {indenter : Indenter} {doc : Document} :
    input options files = .ok (path, indenter, doc) ↔
      ∃ config source, Reads options files config path source ∧
        Indenter.ofConfig config = .ok indenter ∧
        Document.ofText source config.settings.tabWidth = doc := by
  unfold input
  simp only [bind_eq_ok_iff]
  constructor
  · rintro ⟨base, hbase, h⟩
    split at h
    · simp at h
    · rename_i found hindenter
      split at h
      · simp at h
      · rename_i file hfile
        split at h
        · simp at h
        · rename_i source hsource
          simp only [Except.ok.injEq, Prod.mk.injEq] at h
          obtain ⟨rfl, rfl, hdoc⟩ := h
          exact ⟨_, source, ⟨⟨base, hbase, rfl⟩, hfile, hsource⟩, hindenter, hdoc⟩
  · rintro ⟨_, source, ⟨⟨base, hbase, rfl⟩, hfile, hsource⟩, hindenter, rfl⟩
    refine ⟨base, hbase, ?_⟩
    simp only [hindenter, hfile, hsource]

theorem reindent_eq_ok_iff {result : Text × Nat} :
    reindent options files = .ok (path, result) ↔
      ∃ config source indenter, Reads options files config path source ∧
        Indenter.ofConfig config = .ok indenter ∧
        indenter.indentText config.settings.tabWidth source = result := by
  simp only [reindent, bind_eq_ok_iff, pure_eq_ok_iff]
  constructor
  · rintro ⟨⟨file, indenter, doc⟩, hinput, h⟩
    obtain ⟨rfl, hresult⟩ := Prod.mk.inj h
    obtain ⟨config, source, hreads, hindenter, rfl⟩ := input_eq_ok_iff.mp hinput
    exact ⟨config, source, indenter, hreads, hindenter, hresult⟩
  · rintro ⟨config, source, indenter, hreads, hindenter, rfl⟩
    exact ⟨_, input_eq_ok_iff.mpr ⟨config, source, hreads, hindenter, rfl⟩, rfl⟩

theorem Reads.reindent_eq {indenter : Indenter} (h : Reads options files config path source)
    (hindenter : Indenter.ofConfig config = .ok indenter) :
    reindent options files = .ok (path, indenter.indentText config.settings.tabWidth source) :=
  reindent_eq_ok_iff.mpr ⟨config, source, indenter, h, hindenter, rfl⟩

theorem ofConfig_eq_ok_iff {indenter : Indenter} :
    Indenter.ofConfig config = .ok indenter ↔
      config.compile = .ok indenter.rules ∧ indenter.settings = config.settings := by
  simp only [Indenter.ofConfig, bind_eq_ok_iff, pure_eq_ok_iff]
  constructor
  · rintro ⟨rules, hrules, rfl⟩
    exact ⟨hrules, rfl⟩
  · rintro ⟨hrules, hsettings⟩
    exact ⟨indenter.rules, hrules, by rw [← hsettings]⟩

theorem exists_ofConfig_iff :
    (∃ indenter, Indenter.ofConfig config = .ok indenter) ↔
      ∃ rules, config.compile = .ok rules := by
  constructor
  · rintro ⟨indenter, hindenter⟩
    exact ⟨_, (ofConfig_eq_ok_iff.mp hindenter).1⟩
  · rintro ⟨rules, hrules⟩
    exact ⟨⟨rules, config.settings⟩, ofConfig_eq_ok_iff.mpr ⟨hrules, rfl⟩⟩

theorem exists_reads_of_not_stepFails (h : ¬ StepFails options files) :
    (∀ log, options.logFile = some log → files.creatable log = true) ∧
      ∃ config path source indenter, Reads options files config path source ∧
        Indenter.ofConfig config = .ok indenter := by
  have hlog (log : String) (hgiven : options.logFile = some log) :
      files.creatable log = true := by
    by_contra hrefused
    exact h (.logFile hgiven (by simpa using hrefused))
  obtain ⟨base, hbase⟩ : ∃ base, configOf options files = .ok base := by
    cases hconfig : options.config with
    | none => exact ⟨_, configOf_of_none hconfig⟩
    | some path =>
      cases htext : files.text? path with
      | none => exact absurd (.configMissing hconfig htext) h
      | some text =>
        cases hparse : (JsonValue.parse? text).bind Config.ofJson? with
        | none => exact absurd (.configUnparsable hconfig htext hparse) h
        | some base =>
          have hvalid : base.validate = .ok () := by
            by_contra hinvalid
            exact h (.configInvalid hconfig htext hparse hinvalid)
          exact ⟨base, (configOf_eq_ok_iff hconfig).mpr ⟨text, htext, hparse, hvalid⟩⟩
  have hcompile : ∃ rules, (override options base).compile = .ok rules := by
    refine Config.exists_compile_iff.mpr ⟨?_, fun field => ?_, fun pattern hpattern => ?_⟩
    · by_contra hinvalid
      exact h (.overrideInvalid hbase hinvalid)
    · by_contra hmalformed
      exact h (.patternMalformed hbase (not_exists.mp hmalformed))
    · by_contra hmissing
      exact h (.trailingMissing hbase hpattern hmissing)
  obtain ⟨indenter, hindenter⟩ := exists_ofConfig_iff.mpr hcompile
  cases hfile : options.file with
  | none => exact absurd (.noInput hfile) h
  | some path =>
    cases hsource : files.text? path with
    | none => exact absurd (.inputMissing hfile hsource) h
    | some source =>
      exact ⟨hlog, _, path, source, indenter, ⟨⟨base, hbase, rfl⟩, hfile, hsource⟩, hindenter⟩

theorem Reads.not_stepFails {indenter : Indenter} (h : Reads options files config path source)
    (hindenter : Indenter.ofConfig config = .ok indenter)
    (hlog : ∀ log, options.logFile = some log → files.creatable log = true) :
    ¬ StepFails options files := by
  obtain ⟨⟨base, hbase, rfl⟩, hfile, hsource⟩ := h
  obtain ⟨hvalid, hpatterns, htrailing⟩ :=
    Config.exists_compile_iff.mp (exists_ofConfig_iff.mp ⟨indenter, hindenter⟩)
  intro hfails
  cases hfails with
  | logFile given refused => simp [hlog _ given] at refused
  | configMissing given missing =>
    obtain ⟨text, htext, -, -⟩ := (configOf_eq_ok_iff given).mp hbase
    simp [htext] at missing
  | configUnparsable given found malformed =>
    obtain ⟨text, htext, hparse, -⟩ := (configOf_eq_ok_iff given).mp hbase
    obtain rfl := Option.some.inj (htext.symm.trans found)
    simp [hparse] at malformed
  | configInvalid given found parsed invalid =>
    obtain ⟨text, htext, hparse, hloaded⟩ := (configOf_eq_ok_iff given).mp hbase
    obtain rfl := Option.some.inj (htext.symm.trans found)
    obtain rfl := Option.some.inj (hparse.symm.trans parsed)
    exact invalid hloaded
  | overrideInvalid loaded invalid =>
    obtain rfl := Except.ok.inj (hbase.symm.trans loaded)
    exact invalid hvalid
  | patternMalformed loaded malformed =>
    rename_i field
    obtain rfl := Except.ok.inj (hbase.symm.trans loaded)
    obtain ⟨pattern, hpattern⟩ := hpatterns field
    exact malformed pattern hpattern
  | trailingMissing loaded parsed missing =>
    obtain rfl := Except.ok.inj (hbase.symm.trans loaded)
    exact missing (htrailing _ parsed)
  | inputMissing given missing =>
    obtain rfl := Option.some.inj (hfile.symm.trans given)
    simp [hsource] at missing
  | noInput missing => simp [hfile] at missing

-- ---------------------------------------------------------------------------
-- Outcomes
-- ---------------------------------------------------------------------------

theorem run_eq_work (hdump : options.dumpSchema = false) (hapart : options.LogApart)
    (hlog : ∀ log, options.logFile = some log → files.creatable log = true) :
    run options files = work options files := by
  unfold run
  rw [if_neg (by simp [hdump])]
  cases hgiven : options.logFile with
  | none => rfl
  | some log =>
    obtain ⟨hfile, hconfig⟩ := hapart log hgiven
    have hcreate : reindent options (files.create log) = reindent options files := by
      apply reindent_congr
      · rintro path hpath
        exact Files.read_create fun heq => hconfig (heq ▸ hpath)
      · rintro path hpath
        exact Files.read_create fun heq => hfile (heq ▸ hpath)
    simp only [hlog log hgiven, if_true, work, hcreate]

theorem run_of_stepFails (hdump : options.dumpSchema = false) (hapart : options.LogApart)
    (h : StepFails options files) :
    ∃ failure log, (∀ path, log = some path → options.logFile = some path) ∧
      run options files = ⟨some failure, [], log, none⟩ := by
  by_cases hlog : ∀ log, options.logFile = some log → files.creatable log = true
  · rw [run_eq_work hdump hapart hlog]
    cases hresult : reindent options files with
    | error failure => exact ⟨failure, options.logFile, fun _ => id, by simp only [work, finish, hresult]⟩
    | ok result =>
      obtain ⟨config, source, indenter, hreads, hindenter, -⟩ := reindent_eq_ok_iff.mp hresult
      exact absurd h (hreads.not_stepFails hindenter hlog)
  · -- The log file cannot be created, so nothing else is tried.
    push Not at hlog
    obtain ⟨log, hgiven, hrefused⟩ := hlog
    refine ⟨.logFile log, none, by simp, ?_⟩
    simp [run, hdump, hgiven, hrefused]

-- ---------------------------------------------------------------------------
-- The files after a run
-- ---------------------------------------------------------------------------

theorem Files.read_after {outcome : Outcome} {other : String}
    (hlog : outcome.logFile ≠ some other)
    (hwritten : ∀ text, outcome.written ≠ some (other, text)) :
    (files.after outcome).read other = files.read other := by
  have hcreated : (match outcome.logFile with
      | none => files
      | some log => files.create log).read other = files.read other := by
    cases hgiven : outcome.logFile with
    | none => rfl
    | some log =>
      refine Files.read_create ?_
      rintro rfl
      exact hlog hgiven
  unfold Files.after
  cases hback : outcome.written with
  | none => exact hcreated
  | some back =>
    obtain ⟨path, text⟩ := back
    refine (if_neg ?_).trans hcreated
    rintro rfl
    exact hwritten text hback

theorem Files.read_after_of_written {outcome : Outcome} {text : Text}
    (h : outcome.written = some (path, text)) :
    (files.after outcome).read path = some (Text.bytes text) := by
  unfold Files.after
  simp only [h]
  exact if_pos rfl

section
variable {indenter : Indenter} (hdump : options.dumpSchema = false) (hapart : options.LogApart)
  (hlog : ∀ log, options.logFile = some log → files.creatable log = true)
  (h : Reads options files config path source)
  (hindenter : Indenter.ofConfig config = .ok indenter)
include hdump hapart hlog h hindenter

theorem run_printing (hplace : options.inPlace = false) :
    run options files =
      ⟨none, (indenter.indentText config.settings.tabWidth source).1, options.logFile, none⟩ := by
  simp [run_eq_work hdump hapart hlog, work, finish, h.reindent_eq hindenter, hplace]

theorem run_inPlace (hplace : options.inPlace = true) :
    run options files =
      ⟨none, [], options.logFile,
        if (indenter.indentText config.settings.tabWidth source).2 = 0 then none
        else some (path, (indenter.indentText config.settings.tabWidth source).1)⟩ := by
  simp [run_eq_work hdump hapart hlog, work, finish, h.reindent_eq hindenter, hplace]

theorem read_after_inPlace (hplace : options.inPlace = true) {other : String}
    (hother : options.logFile ≠ some other)
    (hkept : other = path → (indenter.indentText config.settings.tabWidth source).2 = 0) :
    (files.after (run options files)).read other = files.read other := by
  rw [run_inPlace hdump hapart hlog h hindenter hplace]
  refine Files.read_after hother fun text hwritten => ?_
  split at hwritten
  case isTrue => simp at hwritten
  case isFalse hchanged =>
    obtain ⟨rfl, -⟩ := Prod.mk.inj (Option.some.inj hwritten)
    exact hchanged (hkept rfl)

theorem read_after_inPlace_of_changed (hplace : options.inPlace = true)
    (hchanged : (indenter.indentText config.settings.tabWidth source).2 ≠ 0) :
    (files.after (run options files)).read path =
      some (Text.bytes (indenter.indentText config.settings.tabWidth source).1) := by
  rw [run_inPlace hdump hapart hlog h hindenter hplace]
  exact Files.read_after_of_written (if_neg hchanged)

end

/-- A run never leaves a half-done result. It fails exactly when one of its steps
fails, and then prints nothing and touches no file but the log file. Otherwise
it prints the indented text and touches no file but the log file; or, when it
works in place, it prints nothing, touches besides the log file only the file
that was read, and that only if some line has changed. -/
theorem run_in_full_or_not_at_all (options : Options) (files : Files)
    (hdump : options.dumpSchema = false) (hapart : options.LogApart) :
    let outcome := run options files
    let after := files.after outcome
    (outcome.failure.isSome = true ↔ StepFails options files) ∧
    (StepFails options files →
      outcome.printed = [] ∧
      ∀ other, options.logFile ≠ some other → after.read other = files.read other) ∧
    (¬ StepFails options files →
      ∃ config path source indenter, Reads options files config path source ∧
        Indenter.ofConfig config = .ok indenter ∧
        let result := indenter.indentText config.settings.tabWidth source
        (options.inPlace = false →
          outcome.printed = result.1 ∧
          ∀ other, options.logFile ≠ some other → after.read other = files.read other) ∧
        (options.inPlace = true →
          outcome.printed = [] ∧
          (∀ other, options.logFile ≠ some other → other ≠ path →
            after.read other = files.read other) ∧
          (after.read path ≠ files.read path → 0 < result.2) ∧
          (0 < result.2 → after.read path = some (Text.bytes result.1)))) := by
  intro outcome after
  by_cases hfails : StepFails options files
  · obtain ⟨failure, log, hlog, hrun⟩ := run_of_stepFails hdump hapart hfails
    have houtcome : outcome = ⟨some failure, [], log, none⟩ := hrun
    refine ⟨by simp [houtcome, hfails], fun _ => ⟨by simp [houtcome], ?_⟩, absurd hfails⟩
    intro other hother
    apply Files.read_after
    · rw [houtcome]
      exact fun hgiven => hother (hlog other hgiven)
    · simp [houtcome]
  · obtain ⟨hlog, config, path, source, indenter, hreads, hindenter⟩ :=
      exists_reads_of_not_stepFails hfails
    have hprinting : options.inPlace = false → outcome = _ :=
      run_printing hdump hapart hlog hreads hindenter
    have hwriting : options.inPlace = true → outcome = _ :=
      run_inPlace hdump hapart hlog hreads hindenter
    refine ⟨?_, fun h => absurd h hfails, fun _ =>
      ⟨config, path, source, indenter, hreads, hindenter, fun hplace => ?_, fun hplace => ?_⟩⟩
    · cases hplace : options.inPlace with
      | false => simp [hprinting hplace, hfails]
      | true => simp [hwriting hplace, hfails]
    · refine ⟨by rw [hprinting hplace], fun other hother => ?_⟩
      apply Files.read_after <;> simp [hprinting hplace, hother]
    · refine ⟨by rw [hwriting hplace], fun other hother hne => ?_, fun hchanged => ?_,
        fun hpos => ?_⟩
      · exact read_after_inPlace hdump hapart hlog hreads hindenter hplace hother
          fun heq => absurd heq hne
      · -- Where no line has changed, nothing is written back.
        by_contra hzero
        have hfile : options.logFile ≠ some path :=
          fun hgiven => (hapart path hgiven).1 hreads.file
        exact hchanged (read_after_inPlace hdump hapart hlog hreads hindenter hplace hfile
          fun _ => Nat.eq_zero_of_not_pos hzero)
      · exact read_after_inPlace_of_changed hdump hapart hlog hreads hindenter hplace
          (Nat.pos_iff_ne_zero.mp hpos)

/-- A file in which one line has to move, indented in place beside a log file: it
is written back, and left as it is when the tab width is zero. -/
theorem run_in_full_or_not_at_all_inPlace :
    let options : Options := ⟨some "a.rb", none, none, none, false, true, some "log", false⟩
    let files : Files := ⟨fun path =>
      if path = "a.rb" then some (Text.bytes "if a\nb".toList) else none, fun _ => true⟩
    (files.after (run options files)).read "a.rb" = some (Text.bytes "if a\n  b".toList) ∧
      (files.after (run { options with tabWidth := some 0 } files)).read "a.rb" =
        some (Text.bytes "if a\nb".toList) := by
  intro options files
  have hapart : options.LogApart := by
    rintro log ⟨⟩
    decide
  constructor
  · have hreads : Reads options files Config.default "a.rb" "if a\nb".toList :=
      ⟨⟨_, configOf_of_none rfl, rfl⟩, rfl, Files.text?_of_read rfl⟩
    have hindenter : Indenter.ofConfig Config.default = .ok ⟨.default, .default⟩ :=
      ofConfig_eq_ok_iff.mpr ⟨Config.compile_default, rfl⟩
    obtain ⟨-, -, hdone⟩ := run_in_full_or_not_at_all options files rfl hapart
    obtain ⟨config, path, source, indenter, hreads', hindenter', -, hplace⟩ :=
      hdone (hreads.not_stepFails hindenter fun _ _ => rfl)
    have hsame := (hreads'.reindent_eq hindenter').symm.trans (hreads.reindent_eq hindenter)
    obtain ⟨rfl, hresult⟩ := Prod.mk.inj (Except.ok.inj hsame)
    have htext : Indenter.indentText ⟨.default, .default⟩ Config.default.settings.tabWidth
        "if a\nb".toList = ("if a\n  b".toList, 1) := by decide +kernel
    have hwritten := (hplace rfl).2.2.2
    rw [hresult, htext] at hwritten
    exact hwritten Nat.one_pos
  · obtain ⟨-, hfailed, -⟩ :=
      run_in_full_or_not_at_all { options with tabWidth := some 0 } files rfl hapart
    have hzero : StepFails { options with tabWidth := some 0 } files :=
      .overrideInvalid (configOf_of_none rfl) (by decide)
    exact (hfailed hzero).2 "a.rb" (by decide)

end CommandLine

end Reindent
