import Connexive.Proofs.Outcome
import Connexive.Settings.Validate

namespace Connexive

/-! Settings from a mapping are in normal form: writing their values down and reading these again
gives the same settings. Of a mapping nothing counts but what it holds under the keys of the fields,
for the settings and for the faults alike. All this holds of values of any kind, whatever else than
a truth value or a text is read as one.
-/

theorem LogLevel.ofName?_name : ∀ level ∈ LogLevel.all, ofName? level.name = some level := by
  decide

theorem LogLevel.upper_name : ∀ level ∈ LogLevel.all, Text.upper level.name = level.name := by
  decide

theorem LogLevel.of_ofName? {level : LogLevel} {name : String} (found : ofName? name = some level) :
    level ∈ LogLevel.all ∧ level.name = name := by
  have named := List.find?_some found
  exact ⟨List.mem_of_find?_eq_some found, by simpa using named⟩

namespace Settings

variable {ν : Type} {coercions : Coercions ν} {fields others : List (String × ν)}
  {settings : Settings} {value : ν} {level : LogLevel} {key : String} {keys : List String}

theorem of_readLevel (read : readLevel coercions value = .ok level) :
    level ∈ LogLevel.all ∧
      ∃ name, coercions.text value = .ok name ∧ level.name = Text.upper name := by
  unfold readLevel at read
  cases named : coercions.text value with
  | error kind => simp [named] at read
  | ok name =>
      cases found : LogLevel.ofName? (Text.upper name) with
      | none => simp [named, found] at read
      | some other =>
          simp only [named, found, Except.ok.injEq] at read
          subst read
          obtain ⟨known, same⟩ := LogLevel.of_ofName? found
          exact ⟨known, name, rfl, same⟩

theorem readLevel_name (known : level ∈ LogLevel.all)
    (named : coercions.IsText level.name value) : readLevel coercions value = .ok level := by
  simp only [readLevel, coercions.text_of_isText named, LogLevel.upper_name _ known,
    LogLevel.ofName?_name _ known]

/-- What a mapping holds under a key has this property. -/
def Holds (fields : List (String × ν)) (key : String) (property : ν → Prop) : Prop :=
  ∃ value, fields.lookup key = some value ∧ property value

section Fields

variable {α : Type} {fallback result : α} {read : ν → Except ViolationKind α}

theorem readField_congr (same : ∀ key ∈ keys, fields.lookup key = others.lookup key) :
    readField fields fallback read keys = readField others fallback read keys := by
  induction keys with
  | nil => rfl
  | cons key rest restIH =>
      rw [readField, readField, same key (by simp), restIH fun later member =>
        same later (by simp [member])]

theorem readField_found (found : fields.lookup key = some value) :
    readField fields fallback read (key :: keys) =
      (read value).mapError (Violation.mk (some key)) := by
  rw [readField, found]

theorem readField_missing (missing : fields.lookup key = none) :
    readField fields fallback read (key :: keys) = readField fields fallback read keys := by
  rw [readField, missing]

theorem readField_of_holds {property : ν → Prop} (holds : Holds fields key property)
    (reads : ∀ {value}, property value → read value = .ok result) :
    readField fields fallback read (key :: keys) = .ok result := by
  obtain ⟨value, found, has⟩ := holds
  rw [readField_found found, reads has]
  rfl

/-- What is read comes from one of the keys, or is the fallback where none is there. -/
theorem of_readField (done : readField fields fallback read keys = .ok result) :
    result = fallback ∨ ∃ key ∈ keys, Holds fields key fun value => read value = .ok result := by
  induction keys with
  | nil => cases done; exact .inl rfl
  | cons key rest restIH =>
      cases found : fields.lookup key with
      | none =>
          rw [readField_missing found] at done
          obtain same | ⟨later, member, held⟩ := restIH done
          · exact .inl same
          · exact .inr ⟨later, by simp [member], held⟩
      | some value =>
          rw [readField_found found, mapError_eq_ok_iff] at done
          exact .inr ⟨key, by simp, value, found, done⟩

end Fields

def debugLoggingKeys : List String := ["debugLoggingEnabled", "debug_logging_enabled"]

/-- All keys that are looked at. -/
def fieldKeys : List String := debugLoggingKeys ++ ["log_level", "prompt", "show_banner"]

theorem ofFields_eq_ok_iff :
    ofFields coercions fields = .ok settings ↔
      readField fields default.debugLogging coercions.bool debugLoggingKeys =
        .ok settings.debugLogging ∧
      readField fields default.logLevel (readLevel coercions) ["log_level"] =
        .ok settings.logLevel ∧
      readField fields default.prompt coercions.text ["prompt"] = .ok settings.prompt ∧
      readField fields default.showBanner coercions.bool ["show_banner"] =
        .ok settings.showBanner := by
  constructor
  · intro accepted
    simp only [ofFields] at accepted
    split at accepted
    · next debugLogging logLevel prompt showBanner =>
        cases accepted
        exact ⟨debugLogging, logLevel, prompt, showBanner⟩
    · contradiction
  · intro parts
    obtain ⟨debugLogging, logLevel, prompt, showBanner⟩ := parts
    rw [debugLoggingKeys] at debugLogging
    simp only [ofFields, debugLogging, logLevel, prompt, showBanner]

theorem ofFields_congr
    (debugLogging : readField fields default.debugLogging coercions.bool debugLoggingKeys =
      readField others default.debugLogging coercions.bool debugLoggingKeys)
    (same : ∀ key ∈ ["log_level", "prompt", "show_banner"],
      fields.lookup key = others.lookup key) :
    ofFields coercions fields = ofFields coercions others := by
  have field {α : Type} (fallback : α) (read : ν → Except ViolationKind α) (key : String)
      (member : key ∈ ["log_level", "prompt", "show_banner"]) :
      readField fields fallback read [key] = readField others fallback read [key] :=
    readField_congr fun only found => by
      rw [List.mem_singleton.mp found]
      exact same key member
  rw [debugLoggingKeys] at debugLogging
  simp only [ofFields, debugLogging, field _ _ "log_level" (by simp), field _ _ "prompt" (by simp),
    field _ _ "show_banner" (by simp)]

theorem validateFields_eq_ok_iff {source : String} :
    validateFields coercions source fields = .ok settings ↔
      ofFields coercions fields = .ok settings :=
  mapError_eq_ok_iff

/-- The level of accepted settings has a name, the one that the mapping gives in capitals. -/
theorem logLevel_of_accepted (accepted : ofFields coercions fields = .ok settings) :
    settings.logLevel ∈ LogLevel.all ∧
      ∀ value text, fields.lookup "log_level" = some value → coercions.text value = .ok text →
        settings.logLevel.name = Text.upper text := by
  obtain ⟨_, logLevel, _, _⟩ := ofFields_eq_ok_iff.mp accepted
  constructor
  · obtain fallback | ⟨_, _, value, _, read⟩ := of_readField logLevel
    · rw [fallback]
      decide
    · exact (of_readLevel read).1
  · intro value text given written
    rw [readField_found given, mapError_eq_ok_iff] at logLevel
    obtain ⟨_, name, named, same⟩ := of_readLevel logLevel
    rw [written] at named
    cases named
    exact same

/-- A mapping of the values of settings, with debug logging under either of its keys. -/
structure Restates (coercions : Coercions ν) (fields : List (String × ν)) (settings : Settings) :
    Prop where
  debugLogging :
    Holds fields "debugLoggingEnabled" (coercions.IsBool settings.debugLogging) ∨
      fields.lookup "debugLoggingEnabled" = none ∧
        Holds fields "debug_logging_enabled" (coercions.IsBool settings.debugLogging)
  logLevel : Holds fields "log_level" (coercions.IsText settings.logLevel.name)
  prompt : Holds fields "prompt" (coercions.IsText settings.prompt)
  showBanner : Holds fields "show_banner" (coercions.IsBool settings.showBanner)

theorem Restates.accepted (restates : Restates coercions fields settings)
    (known : settings.logLevel ∈ LogLevel.all) : ofFields coercions fields = .ok settings := by
  refine ofFields_eq_ok_iff.mpr ⟨?_, ?_, ?_, ?_⟩
  · rw [debugLoggingKeys]
    obtain first | ⟨missing, second⟩ := restates.debugLogging
    · exact readField_of_holds first coercions.bool_of_isBool
    · rw [readField_missing missing]
      exact readField_of_holds second coercions.bool_of_isBool
  · exact readField_of_holds restates.logLevel fun named => readLevel_name known named
  · exact readField_of_holds restates.prompt coercions.text_of_isText
  · exact readField_of_holds restates.showBanner coercions.bool_of_isBool

/-- Accepted settings have one of the five levels, by the name in capitals, and are accepted again
as they are. Accepted or not, a mapping is judged by the keys of the fields alone, and by only one
key of debug logging where the first of the two is there. -/
theorem validate_normalises (coercions : Coercions ν) (source : String)
    (fields : List (String × ν)) :
    (∀ settings, validateFields coercions source fields = .ok settings →
      (settings.logLevel.name ∈ ["DEBUG", "INFO", "WARNING", "ERROR", "CRITICAL"] ∧
        (∀ value text, fields.lookup "log_level" = some value → coercions.text value = .ok text →
          settings.logLevel.name = Text.upper text) ∧
        (if settings.debugLogging then some LogLevel.debug
          else LogLevel.ofName? settings.logLevel.name) = some settings.effectiveLevel) ∧
      ∀ others, Restates coercions others settings →
        validateFields coercions source others = .ok settings) ∧
    (∀ others, (∀ key ∈ fieldKeys, fields.lookup key = others.lookup key) →
      validateFields coercions source fields = validateFields coercions source others) ∧
    ∀ value others, fields.lookup "debugLoggingEnabled" = some value →
      (∀ key ∈ fieldKeys, key ≠ "debug_logging_enabled" →
        fields.lookup key = others.lookup key) →
      validateFields coercions source fields = validateFields coercions source others := by
  refine ⟨?_, ?_, ?_⟩
  · intro settings accepted
    obtain ⟨known, capitals⟩ := logLevel_of_accepted (validateFields_eq_ok_iff.mp accepted)
    refine ⟨⟨List.mem_map_of_mem known, capitals, ?_⟩, ?_⟩
    · rw [LogLevel.ofName?_name _ known, effectiveLevel]
      split <;> rfl
    · intro others restates
      exact validateFields_eq_ok_iff.mpr (restates.accepted known)
  · intro others same
    have read : ofFields coercions fields = ofFields coercions others := ofFields_congr
      (readField_congr fun key member => same key (by simp [fieldKeys, member]))
      fun key member => same key (List.mem_append_right _ member)
    rw [validateFields, validateFields, read]
  · intro value others first same
    have found : others.lookup "debugLoggingEnabled" = some value := by
      rw [← same _ (by decide) (by decide), first]
    have read : ofFields coercions fields = ofFields coercions others := by
      refine ofFields_congr ?_ fun key member => same key (List.mem_append_right _ member) ?_
      · rw [debugLoggingKeys, readField_found first, readField_found found]
      · rintro rfl
        revert member
        decide
    rw [validateFields, validateFields, read]

/-- Plain data, as documents hold it: a level with a letter beyond ASCII, written down again in
capitals and under the other key of debug logging, and a mapping with two faults that is refused
with and without what does not count. -/
theorem validate_normalises_dotless_level :
    let given : List (String × Value) := [("theme", .null), ("log_level", .text "warnıng"),
      ("debugLoggingEnabled", .text "YES"), ("debug_logging_enabled", .text "perhaps")]
    let restated : List (String × Value) := [("show_banner", .bool true),
      ("debug_logging_enabled", .bool true), ("prompt", .text "logic> "),
      ("log_level", .text "WARNING")]
    let faulty : List (String × Value) :=
      [("debugLoggingEnabled", .int 2), ("prompt", .list [])]
    let settings : Settings := ⟨true, .warning, "logic> ", true⟩
    validate "c.yaml" (.object given) = .ok settings ∧
      settings.logLevel.name = Text.upper "warnıng" ∧
      Restates plainCoercions restated settings ∧
      validate "c.yaml" (.object restated) = .ok settings ∧
      validate "c.yaml" (.object (("theme", .null) :: faulty)) =
        validate "c.yaml" (.object faulty) ∧
      validate "c.yaml" (.object (faulty ++ [("debug_logging_enabled", .bool true)])) =
        .error (.invalid "c.yaml" [⟨some "debugLoggingEnabled", .unreadableBoolean⟩,
          ⟨some "prompt", .notText⟩]) := by
  intro given restated faulty settings
  have accepted : validate "c.yaml" (.object given) = .ok settings := by rfl
  have restates : Restates plainCoercions restated settings :=
    ⟨.inr ⟨rfl, _, rfl, rfl⟩, ⟨_, rfl, .inl rfl⟩, ⟨_, rfl, .inl rfl⟩, _, rfl, rfl⟩
  obtain ⟨normal, _, _⟩ := validate_normalises plainCoercions "c.yaml" given
  obtain ⟨⟨_, capitals, _⟩, again⟩ := normal settings accepted
  obtain ⟨_, unknown, second⟩ := validate_normalises plainCoercions "c.yaml" faulty
  have known : validate "c.yaml" (.object faulty) =
      .error (.invalid "c.yaml" [⟨some "debugLoggingEnabled", .unreadableBoolean⟩,
        ⟨some "prompt", .notText⟩]) := by rfl
  refine ⟨accepted, capitals _ _ rfl rfl, restates, again restated restates, ?_, ?_⟩
  · refine (unknown (("theme", .null) :: faulty) ?_).symm
    simp [fieldKeys, debugLoggingKeys, List.lookup_cons]
  · refine (second (.int 2) _ rfl ?_).symm.trans known
    simp [fieldKeys, debugLoggingKeys, List.lookup_cons, faulty]

end Settings

end Connexive
