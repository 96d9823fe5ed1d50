import Reindent.Config.Reader
import Reindent.Proofs.DefaultRules

/-!
# Configurations that load and compile

A configuration is read, validated and compiled in steps, each of which can
refuse it. The lemmas here say for each function exactly when it succeeds and
with what, so that later proofs need not go through the steps again.
-/

namespace Reindent

theorem bind_eq_ok_iff {ε α β : Type} {x : Except ε α} {f : α → Except ε β} {b : β} :
    x >>= f = .ok b ↔ ∃ a, x = .ok a ∧ f a = .ok b := by
  cases x <;> simp [bind, Except.bind]

theorem pure_eq_ok_iff {ε α : Type} {a b : α} : (pure a : Except ε α) = .ok b ↔ a = b := by
  simp [pure, Except.pure]

def Rules.pattern (rules : Rules) : PatternField → Pattern
  | .blockStart => rules.blockStart
  | .blockEnd => rules.blockEnd
  | .continuation => rules.continuation
  | .blockOpenerTail => rules.blockOpenerTail
  | .trailingComma => rules.trailingComma
  | .looseOpener => rules.looseOpener

namespace Config

variable {config : Config} {rules : Rules}

structure Compiles (config : Config) (rules : Rules) : Prop where
  valid : config.validate = .ok ()
  patterns : ∀ field, Pattern.parse (config.pattern field).toList = .ok (rules.pattern field)
  trailing : trailingGroup ∈ rules.blockEnd.groupNames
  triggerCharacters : rules.triggerCharacters = config.triggerCharacters.toList
  verbatimAttributes : rules.verbatimAttributes = config.verbatimAttributes
  requiredStyle : rules.requiredStyle = config.requiredStyle

theorem compilePattern_eq_ok_iff {field : PatternField} {pattern : Pattern} :
    config.compilePattern field = .ok pattern ↔
      Pattern.parse (config.pattern field).toList = .ok pattern := by
  unfold compilePattern
  split <;> simp_all

theorem compile_eq_ok_iff : config.compile = .ok rules ↔ config.Compiles rules := by
  unfold compile
  simp only [bind_eq_ok_iff, compilePattern_eq_ok_iff]
  constructor
  · rintro ⟨_, hvalid, blockEnd, hend, h⟩
    split at h
    · simp at h
    · rename_i htrailing
      simp only [bind_eq_ok_iff, compilePattern_eq_ok_iff, pure_eq_ok_iff] at h
      obtain ⟨blockStart, hstart, continuation, hcontinuation, blockOpenerTail, htail,
        trailingComma, hcomma, looseOpener, hloose, rfl⟩ := h
      refine ⟨hvalid, fun field => ?_, by simpa using htrailing, rfl, rfl, rfl⟩
      cases field with
      | blockStart => exact hstart
      | blockEnd => exact hend
      | continuation => exact hcontinuation
      | blockOpenerTail => exact htail
      | trailingComma => exact hcomma
      | looseOpener => exact hloose
  · rintro ⟨hvalid, hpatterns, htrailing, htriggers, hverbatim, hstyle⟩
    refine ⟨(), hvalid, rules.blockEnd, hpatterns .blockEnd, ?_⟩
    rw [if_neg (by simpa using htrailing)]
    simp only [bind_eq_ok_iff, compilePattern_eq_ok_iff, pure_eq_ok_iff]
    refine ⟨_, hpatterns .blockStart, _, hpatterns .continuation, _, hpatterns .blockOpenerTail,
      _, hpatterns .trailingComma, _, hpatterns .looseOpener, ?_⟩
    rw [← htriggers, ← hverbatim, ← hstyle]
    rfl

/-- A configuration compiles if it is valid, all its patterns can be parsed and
the one of block closers names the group for what follows the closer. -/
theorem exists_compile_iff :
    (∃ rules, config.compile = .ok rules) ↔
      config.validate = .ok () ∧
      (∀ field, ∃ pattern, Pattern.parse (config.pattern field).toList = .ok pattern) ∧
      ∀ pattern, Pattern.parse config.blockEnd.toList = .ok pattern →
        trailingGroup ∈ pattern.groupNames := by
  simp only [compile_eq_ok_iff]
  constructor
  · rintro ⟨rules, h⟩
    refine ⟨h.valid, fun field => ⟨_, h.patterns field⟩, ?_⟩
    intro pattern hpattern
    obtain rfl := Except.ok.inj ((h.patterns .blockEnd).symm.trans hpattern)
    exact h.trailing
  · rintro ⟨hvalid, hparse, htrailing⟩
    choose patterns hpatterns using hparse
    refine ⟨⟨config.triggerCharacters.toList, patterns .blockStart, patterns .blockEnd,
      patterns .continuation, patterns .blockOpenerTail, patterns .trailingComma,
      patterns .looseOpener, config.verbatimAttributes, config.requiredStyle⟩, hvalid, ?_,
      htrailing _ (hpatterns .blockEnd), rfl, rfl, rfl⟩
    intro field
    cases field <;> exact hpatterns _

theorem exists_compile_of_default_patterns (hvalid : config.validate = .ok ())
    (hpatterns : ∀ field, config.pattern field = Config.default.pattern field) :
    ∃ rules, config.compile = .ok rules ∧
      ∀ field, rules.pattern field = Rules.default.pattern field := by
  have hdefault := compile_eq_ok_iff.mp compile_default
  have hparse (field : PatternField) :
      Pattern.parse (config.pattern field).toList = .ok (Rules.default.pattern field) := by
    rw [hpatterns, hdefault.patterns]
  refine ⟨{ Rules.default with
    triggerCharacters := config.triggerCharacters.toList
    verbatimAttributes := config.verbatimAttributes
    requiredStyle := config.requiredStyle }, compile_eq_ok_iff.mpr ?_, ?_⟩
  · exact ⟨hvalid, fun field => (hparse field).trans (by cases field <;> rfl), hdefault.trailing,
      rfl, rfl, rfl⟩
  · intro field
    cases field <;> rfl

theorem read_eq_ok_iff {text : Text} :
    Config.read text = .ok config ↔
      (JsonValue.parse? text).bind ofJson? = some config ∧ config.validate = .ok () := by
  unfold Config.read
  cases (JsonValue.parse? text).bind ofJson? with
  | none => simp
  | some found =>
    simp only [bind_eq_ok_iff, pure_eq_ok_iff, Option.some.injEq]
    constructor
    · rintro ⟨_, hvalid, rfl⟩
      exact ⟨rfl, hvalid⟩
    · rintro ⟨rfl, hvalid⟩
      exact ⟨(), hvalid, rfl⟩

end Config

end Reindent
