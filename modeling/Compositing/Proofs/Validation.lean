import Mathlib.Tactic.Common
import Compositing.Log.Setup
import Compositing.Settings.Loading

/-!
# What validation accepts, and what it leaves

Validation accepts the options whose names of level and format are known once they are in small
letters and whose three numbers are within their ranges, and no others. What it leaves is in a
normal form, which it accepts again and does not change. The log knows the level of every normal
form, so no options that were loaded keep it from being set up on account of their level.
-/

namespace Compositing

/-- A computation that begins with a check succeeds exactly if the check does and what comes after
it does. -/
theorem check_eq_ok_iff {ε α : Type} {p : Prop} [Decidable p] {e : ε} {next : PUnit → Except ε α}
    {a : α} :
    (if p then next ⟨⟩ else throw e >>= next) = Except.ok a ↔ p ∧ next ⟨⟩ = Except.ok a := by
  by_cases holds : p
  · rw [if_pos holds]
    exact (and_iff_right holds).symm
  · rw [if_neg holds]
    constructor
    · intro thrown
      cases thrown
    · exact fun both => (holds both.1).elim

theorem LogLevel.ofName?_eq_some_iff {s : String} {l : LogLevel} :
    ofName? s = some l ↔ l.name = s := by
  constructor
  · intro found
    simpa using List.find?_some found
  · rintro rfl
    cases l <;> rfl

theorem LogLevel.ofName?_isSome_iff {s : String} :
    (ofName? s).isSome = true ↔ s ∈ ["trace", "debug", "info", "warn", "error"] := by
  rw [Option.isSome_iff_exists]
  simp only [ofName?_eq_some_iff]
  constructor
  · rintro ⟨l, rfl⟩
    cases l <;> simp [name]
  · simp only [List.mem_cons, List.not_mem_nil, or_false]
    rintro (rfl | rfl | rfl | rfl | rfl)
    exacts [⟨.trace, rfl⟩, ⟨.debug, rfl⟩, ⟨.info, rfl⟩, ⟨.warn, rfl⟩, ⟨.error, rfl⟩]

theorem LogFormat.ofName?_isSome_iff {s : String} :
    (ofName? s).isSome = true ↔ s ∈ ["text", "json"] := by
  rw [ofName?, List.find?_isSome]
  constructor
  · rintro ⟨f, _, named⟩
    cases f <;> simp_all [name]
  · simp only [List.mem_cons, List.not_mem_nil, or_false]
    rintro (rfl | rfl)
    exacts [⟨.text, by simp [all], rfl⟩, ⟨.json, by simp [all], rfl⟩]

theorem LogLevel.lowercase_name (l : LogLevel) : Text.lowercase l.name = l.name := by
  cases l <;> rfl

namespace Settings

variable {o o' : Settings}

structure Sensible (o : Settings) : Prop where
  level : Text.lowercase o.logging.level ∈ ["trace", "debug", "info", "warn", "error"]
  format : Text.lowercase o.logging.format ∈ ["text", "json"]
  maxFps : 1 ≤ o.compositing.maxFps ∧ o.compositing.maxFps ≤ 1000
  refreshRate : o.compositing.refreshRate ≤ 1000
  blankTime : o.compositing.blankTimeMicros < 1000000

/-- The options with both names in small letters, and with no shortcut unless it shows something. -/
def normal (o : Settings) : Settings :=
  { logging := { o.logging with
      level := Text.lowercase o.logging.level
      format := Text.lowercase o.logging.format }
    compositing := { o.compositing with
      suspendShortcut? := o.compositing.suspendShortcut?.filter
        fun s => s.toList.any (!Text.isBlank ·) } }

/-- Options that a document or the files describe. -/
inductive Loaded : Settings → Prop
  | text {s : String} {o : Settings} (loads : ofText s = .ok o) : Loaded o
  | files {e : Surroundings} {t t' : FileTree} {o : Settings} (loads : load e t = (.ok o, t')) :
      Loaded o

theorem validate_eq_ok_iff : o.validate = .ok o' ↔ o.Sensible ∧ o' = o.normal := by
  have shows : (fun s => !Text.allBlank s) = fun s => s.toList.any (!Text.isBlank ·) := by
    funext s
    rw [Text.allBlank, List.not_all_eq_any_not]
  rw [validate]
  constructor
  · intro accepted
    obtain ⟨level, accepted⟩ := check_eq_ok_iff.mp accepted
    obtain ⟨format, accepted⟩ := check_eq_ok_iff.mp accepted
    obtain ⟨maxFps, accepted⟩ := check_eq_ok_iff.mp accepted
    obtain ⟨refreshRate, accepted⟩ := check_eq_ok_iff.mp accepted
    obtain ⟨blankTime, accepted⟩ := check_eq_ok_iff.mp accepted
    refine ⟨⟨LogLevel.ofName?_isSome_iff.mp level, LogFormat.ofName?_isSome_iff.mp format, maxFps,
      refreshRate, blankTime⟩, ?_⟩
    rw [← Except.ok.inj accepted, normal, shows]
  · rintro ⟨sensible, rfl⟩
    refine check_eq_ok_iff.mpr ⟨LogLevel.ofName?_isSome_iff.mpr sensible.level, ?_⟩
    refine check_eq_ok_iff.mpr ⟨LogFormat.ofName?_isSome_iff.mpr sensible.format, ?_⟩
    refine check_eq_ok_iff.mpr ⟨sensible.maxFps, ?_⟩
    refine check_eq_ok_iff.mpr ⟨sensible.refreshRate, ?_⟩
    refine check_eq_ok_iff.mpr ⟨sensible.blankTime, ?_⟩
    rw [normal, shows]
    rfl

/-- The log knows the level of a normal form, whose name it is. -/
theorem Sensible.level_known (sensible : o.Sensible) :
    ∃ l : LogLevel, l.name = Text.lowercase o.logging.level := by
  obtain ⟨l, known⟩ := Option.isSome_iff_exists.mp (LogLevel.ofName?_isSome_iff.mpr sensible.level)
  exact ⟨l, LogLevel.ofName?_eq_some_iff.mp known⟩

theorem Sensible.lowercase_level (sensible : o.Sensible) :
    Text.lowercase (Text.lowercase o.logging.level) = Text.lowercase o.logging.level := by
  obtain ⟨l, known⟩ := sensible.level_known
  rw [← known, l.lowercase_name]

theorem Sensible.lowercase_format (sensible : o.Sensible) :
    Text.lowercase (Text.lowercase o.logging.format) = Text.lowercase o.logging.format := by
  have named := sensible.format
  simp only [List.mem_cons, List.not_mem_nil, or_false] at named
  rcases named with text | json
  · rw [text]
    rfl
  · rw [json]
    rfl

theorem Sensible.normal_normal (sensible : o.Sensible) : o.normal.normal = o.normal := by
  simp only [normal, sensible.lowercase_level, sensible.lowercase_format, Option.filter_filter,
    Bool.and_self]

theorem Sensible.normal_sensible (sensible : o.Sensible) : o.normal.Sensible where
  level := by
    rw [normal, sensible.lowercase_level]
    exact sensible.level
  format := by
    rw [normal, sensible.lowercase_format]
    exact sensible.format
  maxFps := sensible.maxFps
  refreshRate := sensible.refreshRate
  blankTime := sensible.blankTime

theorem checked_level {read : Except Mismatch Settings} (accepted : checked read = .ok o) :
    (LogLevel.ofText? o.logging.level).isSome = true := by
  cases read with
  | error m => cases accepted
  | ok given =>
    rw [checked] at accepted
    cases validated : given.validate with
    | error e => simp [validated] at accepted
    | ok o' =>
      simp only [validated, Except.ok.injEq] at accepted
      obtain ⟨sensible, rfl⟩ := validate_eq_ok_iff.mp validated
      rw [← accepted, LogLevel.ofText?, LogLevel.ofName?_isSome_iff]
      exact sensible.normal_sensible.level

theorem resolveLogFile_level {e : Surroundings} {t t' : FileTree}
    (resolved : o.resolveLogFile e t = (.ok o', t')) : o'.logging.level = o.logging.level := by
  simp only [resolveLogFile] at resolved
  split at resolved
  · cases resolved
    rfl
  · split at resolved
    · cases resolved
      rfl
    · cases resolved

theorem Loaded.level_known (loaded : o.Loaded) :
    (LogLevel.ofText? o.logging.level).isSome = true := by
  cases loaded with
  | text loads =>
    rw [ofText] at loads
    split at loads
    · exact checked_level loads
    · cases loads
  | @files e t t' _ loads =>
    simp only [load] at loads
    split at loads
    · cases loads
    · rename_i given read
      rw [resolveLogFile_level loads]
      cases system : t.settings? e.systemSettings with
      | error failure =>
        rw [system] at read
        cases read
      | ok first =>
        cases user : t.settings? e.userSettings with
        | error failure =>
          rw [system, user] at read
          cases read
        | ok second =>
          rw [system, user] at read
          exact checked_level read

end Settings

theorem FileTree.prepareFile_error {t t' : FileTree} {p : String} {failure : GroundError}
    (fails : t.prepareFile p = (.error failure, t')) :
    ∃ what path cause, failure = .files what path cause := by
  have of_ensure {above : String} (fails : t.ensureDirectory above = (.error failure, t')) :
      ∃ what path cause, failure = .files what path cause := by
    simp only [ensureDirectory] at fails
    split at fails
    · split at fails
      · cases fails
      · cases fails
        exact ⟨_, _, _, rfl⟩
    · split at fails
      · cases fails
      · cases fails
        exact ⟨_, _, _, rfl⟩
  rw [prepareFile] at fails
  split at fails
  · split at fails
    · cases fails
    · exact of_ensure fails
  · cases fails

/-- With a level that the log knows, setting it up is never refused for the level. -/
theorem LoggingOptions.setUp_not_level {o : LoggingOptions}
    (known : (LogLevel.ofText? o.level).isSome = true) (replacing present : Bool) (t : FileTree)
    (given : String) :
    (o.setUp replacing present t).1 ≠
      .error (.log (.setup ("Invalid log level in config: " ++ given))) := by
  obtain ⟨l, known⟩ := Option.isSome_iff_exists.mp known
  simp only [setUp, known]
  split
  · rename_i failure t' fails
    cases file : o.file? with
    | none =>
      rw [file] at fails
      cases fails
    | some p =>
      rw [file] at fails
      obtain ⟨what, path, cause, rfl⟩ := FileTree.prepareFile_error fails
      intro same
      cases same
  · split
    · intro same
      have heads := congrArg (fun s : String => s.toList.head?)
        (LogError.setup.inj (GroundError.log.inj (Except.error.inj same)))
      simp at heads
    · intro same
      cases same

namespace Settings

/-- Validation accepts exactly the options that make sense. What it leaves is their normal form,
which it accepts and leaves as it is, and whose level the log knows by its name; so no options that
were loaded keep the log from being set up on account of their level. -/
theorem validate_normalizes :
    (∀ o : Settings,
      ((∃ o', o.validate = .ok o') ↔ o.Sensible) ∧
      ∀ o', o.validate = .ok o' →
        o' = o.normal ∧ o'.validate = .ok o' ∧
          ∃ l : LogLevel, LogLevel.ofText? o'.logging.level = some l ∧ l.name = o'.logging.level) ∧
    ∀ o : Settings, o.Loaded → ∀ (replacing present : Bool) (t : FileTree) (given : String),
      (o.logging.setUp replacing present t).1 ≠
        .error (.log (.setup ("Invalid log level in config: " ++ given))) := by
  refine ⟨fun o => ⟨⟨?_, ?_⟩, ?_⟩, ?_⟩
  · rintro ⟨o', accepted⟩
    exact (validate_eq_ok_iff.mp accepted).1
  · intro sensible
    exact ⟨o.normal, validate_eq_ok_iff.mpr ⟨sensible, rfl⟩⟩
  · intro o' accepted
    obtain ⟨sensible, rfl⟩ := validate_eq_ok_iff.mp accepted
    obtain ⟨l, named⟩ := sensible.level_known
    refine ⟨rfl, ?_, l, ?_, named⟩
    · exact validate_eq_ok_iff.mpr ⟨sensible.normal_sensible, sensible.normal_normal.symm⟩
    · rw [LogLevel.ofText?, LogLevel.ofName?_eq_some_iff, normal, sensible.lowercase_level]
      exact named
  · intro o loaded replacing present t given
    exact LoggingOptions.setUp_not_level loaded.level_known replacing present t given

def shouted : Settings where
  logging := ⟨"WARN", some "compositor.log", "JSON"⟩
  compositing := { CompositingOptions.standard with suspendShortcut? := some " \t" }

/-- They make sense, and lose their capitals and the shortcut. -/
theorem shouted_validates : shouted.Sensible ∧
    shouted.validate = .ok {
      logging := ⟨"warn", some "compositor.log", "json"⟩
      compositing := { CompositingOptions.standard with suspendShortcut? := none } } ∧
    shouted.normal.validate = .ok shouted.normal := by
  have accepted : shouted.validate = .ok shouted.normal := by rfl
  obtain ⟨iff, leaves⟩ := validate_normalizes.1 shouted
  exact ⟨iff.mp ⟨_, accepted⟩, rfl, (leaves _ accepted).2.1⟩

end Settings

end Compositing
