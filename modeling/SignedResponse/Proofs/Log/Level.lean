import Mathlib.Tactic.Common
import SignedResponse.Log.Logging

/-!
The level of the settings against the filter that a process logs with.

Both are looked for in the environment, in different orders: a level that the settings have from
elsewhere is only asked when the variable with the filter holds none.
-/

namespace SignedResponse

namespace LogSettings

def overridden (environment : Environment) (override : Option String) : LogSettings :=
  override.elim (ofEnvironment environment) (ofEnvironment environment).withLevel

theorem level_overridden (environment : Environment) (override : Option String) :
    (overridden environment override).level =
      (override <|> environment.text? "RV_LOG_LEVEL" <|>
        environment.text? filterVariable).getD "info" := by
  cases override with
  | none => rfl
  | some level => rfl

theorem level_of_filter_variable {environment : Environment} {text : String}
    (unset : environment.text? "RV_LOG_LEVEL" = none)
    (set : environment.text? filterVariable = some text) :
    (overridden environment none).level = text := by
  rw [level_overridden, unset, set]
  rfl

end LogSettings

namespace LogFilter

/-- The variable with the filter holds this one. A text that is no filter does not count. -/
def IsGivenBy (filter : LogFilter) (environment : Environment) : Prop :=
  ∃ text, environment.text? LogSettings.filterVariable = some text ∧ read text = .ok filter

theorem IsGivenBy.unique {environment : Environment} {left right : LogFilter}
    (isLeft : left.IsGivenBy environment) (isRight : right.IsGivenBy environment) :
    left = right := by
  obtain ⟨text, set, readLeft⟩ := isLeft
  obtain ⟨other, sameSet, readRight⟩ := isRight
  have same : text = other := Option.some.inj (set.symm.trans sameSet)
  subst same
  exact Except.ok.inj (readLeft.symm.trans readRight)

theorem not_is_given_by_of_unset {environment : Environment}
    (unset : environment.text? LogSettings.filterVariable = none) (filter : LogFilter) :
    ¬filter.IsGivenBy environment := by
  intro given
  obtain ⟨text, set, -⟩ := given
  rw [unset] at set
  contradiction

theorem admits_singleton (detail : Nat) (event : LogEvent) :
    admits ⟨[{ detail }]⟩ event = decide (event.level.detail ≤ detail) :=
  rfl

end LogFilter

namespace Logging

variable {environment : Environment} {settings : LogSettings}

theorem choose_filter_of_is_given_by {filter : LogFilter} (given : filter.IsGivenBy environment) :
    chooseFilter environment settings = .ok filter := by
  obtain ⟨text, set, read⟩ := given
  rw [chooseFilter, set, Option.map_some, read]

theorem choose_filter_of_not_given (absent : ∀ filter : LogFilter, ¬filter.IsGivenBy environment) :
    chooseFilter environment settings = LogFilter.read settings.level := by
  rw [chooseFilter]
  split
  · rename_i filter found
    obtain ⟨text, set, read⟩ := Option.map_eq_some_iff.mp found
    exact absurd ⟨text, set, read⟩ (absent filter)
  · rfl

theorem choose_filter_eq_read_iff :
    chooseFilter environment settings = LogFilter.read settings.level ↔
      ∀ filter : LogFilter, filter.IsGivenBy environment →
        LogFilter.read settings.level = .ok filter := by
  constructor
  · intro same filter given
    rw [← same]
    exact choose_filter_of_is_given_by given
  · intro agree
    by_cases present : ∃ filter : LogFilter, filter.IsGivenBy environment
    · obtain ⟨filter, given⟩ := present
      rw [choose_filter_of_is_given_by given, agree filter given]
    · exact choose_filter_of_not_given (not_exists.mp present)

/-- The filter that the first start of logging installs, or why there is none. -/
def installed (environment : Environment) (settings : LogSettings) :
    Except LoggingFault LogFilter :=
  (start environment settings false).map (·.filter)

theorem installed_eq_choose_filter :
    installed environment settings = (chooseFilter environment settings).mapError .filter := by
  rw [installed, start]
  cases chooseFilter environment settings with
  | error fault => rfl
  | ok filter => rfl

theorem map_error_filter_inj {left right : Except FilterFault LogFilter} :
    left.mapError LoggingFault.filter = right.mapError .filter ↔ left = right := by
  cases left <;> cases right <;> simp [Except.mapError]

/-- What is installed is the filter that the level of the settings names, if it names one. -/
def FollowsLevel (environment : Environment) (settings : LogSettings) : Prop :=
  installed environment settings = (LogFilter.read settings.level).mapError .filter

theorem follows_level_iff :
    FollowsLevel environment settings ↔
      ∀ filter : LogFilter, filter.IsGivenBy environment →
        LogFilter.read settings.level = .ok filter := by
  rw [FollowsLevel, installed_eq_choose_filter, map_error_filter_inj, choose_filter_eq_read_iff]

theorem installed_of_is_given_by {filter : LogFilter} (given : filter.IsGivenBy environment) :
    installed environment settings = .ok filter := by
  rw [installed_eq_choose_filter, choose_filter_of_is_given_by given]
  rfl

theorem installed_of_not_given (absent : ∀ filter : LogFilter, ¬filter.IsGivenBy environment) :
    installed environment settings = (LogFilter.read settings.level).mapError .filter := by
  rw [installed_eq_choose_filter, choose_filter_of_not_given absent]

theorem read_warn : LogFilter.read "warn" = .ok (.upTo .warn) := by decide

theorem read_off : LogFilter.read "off" = .ok ⟨[{ detail := 0 }]⟩ := by decide

theorem level_matters_iff :
    (∃ left right : String, installed environment (settings.withLevel left) ≠
      installed environment (settings.withLevel right)) ↔
      ∀ filter : LogFilter, ¬filter.IsGivenBy environment := by
  constructor
  · intro matters filter given
    obtain ⟨left, right, different⟩ := matters
    apply different
    rw [installed_of_is_given_by given, installed_of_is_given_by given]
  · intro absent
    refine ⟨"warn", "off", ?_⟩
    simp only [installed_of_not_given absent, LogSettings.withLevel, read_warn, read_off]
    intro same
    exact absurd (Except.ok.inj same) (by decide)

/-- Which filter a process logs with, when its level may also be given to it. The level of the
settings is the given one, or else that of its own variable, or else what the variable with the
filter holds, or else `info`. A filter of that variable is installed whatever the level is. So the
level is followed exactly when it names the same filter, if there is one in the environment, and a
level that is given to the process can make a difference exactly when there is none. The level is
followed when the variable with the filter is the only one that can say it. -/
theorem given_filter_goes_first (environment : Environment) (override : Option String) :
    let settings := LogSettings.overridden environment override
    settings.level = (override <|> environment.text? "RV_LOG_LEVEL" <|>
        environment.text? LogSettings.filterVariable).getD "info" ∧
      (∀ filter : LogFilter, filter.IsGivenBy environment →
        installed environment settings = .ok filter) ∧
      (FollowsLevel environment settings ↔
        ∀ filter : LogFilter, filter.IsGivenBy environment →
          LogFilter.read settings.level = .ok filter) ∧
      ((∃ left right : String,
          installed environment (LogSettings.overridden environment (some left)) ≠
            installed environment (LogSettings.overridden environment (some right))) ↔
        ∀ filter : LogFilter, ¬filter.IsGivenBy environment) ∧
      (override = none → environment.text? "RV_LOG_LEVEL" = none →
        FollowsLevel environment settings) := by
  intro settings
  refine ⟨LogSettings.level_overridden environment override,
    fun filter given => installed_of_is_given_by given, follows_level_iff, level_matters_iff, ?_⟩
  intro plain unset
  apply follows_level_iff.mpr
  intro filter given
  obtain ⟨text, set, read⟩ := given
  have level : settings.level = text := by
    rw [← LogSettings.level_of_filter_variable unset set, ← plain]
  rw [level, read]

def silenced : Environment :=
  .ofList [("RV_LOG_LEVEL", Utf8.encode "warn"), ("RUST_LOG", Utf8.encode "off")]

def warning : Environment := .ofList [("RV_LOG_LEVEL", Utf8.encode "warn")]

def filtered : Environment := .ofList [("RUST_LOG", Utf8.encode "debug")]

theorem off_is_given_by_silenced : LogFilter.IsGivenBy ⟨[{ detail := 0 }]⟩ silenced :=
  ⟨"off", by decide, read_off⟩

theorem not_is_given_by_warning (filter : LogFilter) : ¬filter.IsGivenBy warning :=
  LogFilter.not_is_given_by_of_unset (by decide) filter

/-- The level asks for warnings, be it of the environment or given to the process, and warnings are
what its filter shows. It is installed when there is no other; here nothing is shown. -/
theorem silenced_ignores_level :
    (¬∀ environment override,
      FollowsLevel environment (LogSettings.overridden environment override)) ∧
      (∀ override ∈ [none, some "warn"],
        let settings := LogSettings.overridden silenced override
        LogFilter.read settings.level = .ok (.upTo .warn) ∧
          installed warning settings = .ok (.upTo .warn) ∧
          installed silenced settings = .ok ⟨[{ detail := 0 }]⟩) ∧
      ∀ event : LogEvent, event.level = .warn →
        (LogFilter.upTo .warn).admits event = true ∧
          (⟨[{ detail := 0 }]⟩ : LogFilter).admits event = false := by
  have levels : ∀ override ∈ [none, some "warn"],
      (LogSettings.overridden silenced override).level = "warn" := by
    decide
  refine ⟨fun all => ?_, fun override given => ?_, fun event isWarning => ?_⟩
  · have agree := follows_level_iff.mp (all silenced none) _ off_is_given_by_silenced
    rw [levels none (List.mem_cons_self ..), read_warn] at agree
    exact absurd (Except.ok.inj agree) (by decide)
  · dsimp only
    refine ⟨?_, ?_, installed_of_is_given_by off_is_given_by_silenced⟩
    · rw [levels override given, read_warn]
    · rw [installed_of_not_given not_is_given_by_warning, levels override given, read_warn]
      rfl
  · rw [LogFilter.upTo, LogFilter.admits_singleton, LogFilter.admits_singleton, isWarning]
    decide

theorem levels_of_three_environments :
    installed silenced (LogSettings.overridden silenced (some "trace")) =
        .ok ⟨[{ detail := 0 }]⟩ ∧
      FollowsLevel warning (LogSettings.overridden warning (some "trace")) ∧
      (∃ left right : String, installed warning (LogSettings.overridden warning (some left)) ≠
        installed warning (LogSettings.overridden warning (some right))) ∧
      FollowsLevel filtered (LogSettings.overridden filtered none) := by
  have ⟨_, given, _, _, _⟩ := given_filter_goes_first silenced (some "trace")
  have ⟨_, _, follows, matters, _⟩ := given_filter_goes_first warning (some "trace")
  have ⟨_, _, _, _, unsaid⟩ := given_filter_goes_first filtered none
  refine ⟨given _ off_is_given_by_silenced, follows.mpr ?_, matters.mpr not_is_given_by_warning,
    unsaid rfl (by decide)⟩
  intro filter isGiven
  exact absurd isGiven (not_is_given_by_warning filter)

end Logging

end SignedResponse
