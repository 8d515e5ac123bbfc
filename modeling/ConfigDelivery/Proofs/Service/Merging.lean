import ConfigDelivery.Proofs.Text.Blank
import ConfigDelivery.Proofs.Text.Integer
import ConfigDelivery.Proofs.Text.Pieces
import ConfigDelivery.Service.Settings
import Mathlib.Data.List.Forall2
/-!
# Where settings come from

The environment gives some settings, the file of the service others, and the rest have defaults.
Each setting is the first that these three give for it, and only the outcome is judged: loading
succeeds iff the numbers of the environment can be read and nothing of the outcome is zero that must
not be. So a variable can mend a file, and can spoil one.
-/

namespace ConfigDelivery.Service

open ConfigDelivery.Text

/-! ## What the environment gives -/

/-- A text that is not blank gives itself. -/
inductive GivesText : Option String → Option String → Prop
  | unset : GivesText none none
  | blank {text} (blank : ∀ character ∈ text.toList, isBlank character = true) :
      GivesText (some text) none
  | filled {text} (filled : ∃ character ∈ text.toList, isBlank character = false) :
      GivesText (some text) (some text)

/-- The entries of a text: what stands between its commas, trimmed, where anything is left. -/
def IsEntries (text : String) (entries : List String) : Prop :=
  ∃ pieces cores, IsCut ',' text.toList pieces ∧
    List.Forall₂ (fun piece core => IsTrimmed (String.ofList piece) core) pieces cores ∧
    entries = cores.filter fun core => core ≠ ""

/-- A text with entries gives them. -/
inductive GivesEntries : Option String → Option (List String) → Prop
  | unset : GivesEntries none none
  | empty {text} (empty : IsEntries text []) : GivesEntries (some text) none
  | filled {text entries} (isEntries : IsEntries text entries) (filled : entries ≠ []) :
      GivesEntries (some text) (some entries)

/-- A text has to write a number, and gives it. -/
inductive GivesNumber : Option String → Option Nat → Prop
  | unset : GivesNumber none none
  | written {text number} (writes : WritesNumber text number)
      (small : number ≤ 0xffffffffffffffff) : GivesNumber (some text) (some number)

/-- The settings that an environment gives. -/
structure Overrides where
  dbPath : Option String := none
  apiAddr : Option String := none
  allowOrigins : Option (List String) := none
  timeoutMillis : Option Nat := none
  poolSize : Option Nat := none
  testSecret : Option String := none

/-- An environment gives some settings. -/
structure Environment.Gives (environment : Environment) (overrides : Overrides) : Prop where
  dbPath : GivesText environment.dbPath overrides.dbPath
  apiAddr : GivesText environment.apiAddr overrides.apiAddr
  allowOrigins : GivesEntries environment.allowOrigins overrides.allowOrigins
  timeoutMillis : GivesNumber environment.timeoutMillis overrides.timeoutMillis
  poolSize : GivesNumber environment.poolSize overrides.poolSize
  testSecret : GivesText environment.testSecret overrides.testSecret

/-! ## The outcome -/

/-- Each setting is the first that the environment, the file and the defaults give for it; an empty
secret in the file is none. -/
def merged (file : SettingsFile) (overrides : Overrides) : Settings where
  dbPath := (overrides.dbPath <|> file.dbPath).getD "configd.db"
  apiAddr := (overrides.apiAddr <|> file.api.bind ApiSection.addr).getD "127.0.0.1:8080"
  allowOrigins := (overrides.allowOrigins <|> file.api.bind ApiSection.allowOrigins).getD []
  maxConnections := (file.api.bind ApiSection.maxConnections).getD 256
  poolSize := (overrides.poolSize <|> file.engine.bind EngineSection.poolSize).getD 20
  timeout := .ofMillis
    ((overrides.timeoutMillis <|> file.engine.bind EngineSection.timeoutMillis).getD 100)
  confineWorkers := (file.engine.bind EngineSection.confineWorkers).getD false
  cacheTimeToLive := .ofSeconds ((file.engine.bind EngineSection.cacheSeconds).getD 300)
  cacheMaxEntries := (file.engine.bind EngineSection.cacheMaxEntries).getD 100
  recordTimeToLive := .ofSeconds ((file.records.bind RecordsSection.cacheSeconds).getD 60)
  breakThreshold := (file.records.bind RecordsSection.breakThreshold).getD 10
  testSecret := overrides.testSecret <|> file.testSecret.filter fun secret => secret ≠ ""

/-- Nothing of the settings is zero that must not be. -/
structure Settings.IsSound (settings : Settings) : Prop where
  poolSize : settings.poolSize ≠ 0
  maxConnections : settings.maxConnections ≠ 0
  timeout : settings.timeout ≠ 0
  cacheMaxEntries : settings.cacheMaxEntries ≠ 0
  cacheTimeToLive : settings.cacheTimeToLive ≠ 0

/-- A fault is there: a number of the environment that cannot be read, or a zero in the outcome. -/
inductive SettingsFault.Occurs (file : SettingsFile) (environment : Environment) :
    SettingsFault → Prop
  | timeoutNotInteger (unread : ∀ given, ¬ GivesNumber environment.timeoutMillis given) :
      Occurs file environment .timeoutNotInteger
  | poolSizeNotInteger (unread : ∀ given, ¬ GivesNumber environment.poolSize given) :
      Occurs file environment .poolSizeNotInteger
  | noPoolSize {overrides} (gives : environment.Gives overrides)
      (zero : (merged file overrides).poolSize = 0) : Occurs file environment .noPoolSize
  | noConnections {overrides} (gives : environment.Gives overrides)
      (zero : (merged file overrides).maxConnections = 0) : Occurs file environment .noConnections
  | noTimeout {overrides} (gives : environment.Gives overrides)
      (zero : (merged file overrides).timeout = 0) : Occurs file environment .noTimeout
  | noCacheEntries {overrides} (gives : environment.Gives overrides)
      (zero : (merged file overrides).cacheMaxEntries = 0) :
      Occurs file environment .noCacheEntries
  | noCacheTime {overrides} (gives : environment.Gives overrides)
      (zero : (merged file overrides).cacheTimeToLive = 0) : Occurs file environment .noCacheTime

/-! ## Texts, lists and numbers from the environment -/

/-- A text is filled if a character of it is not blank. -/
theorem isFilled_iff {text : String} :
    isFilled text = true ↔ ∃ character ∈ text.toList, isBlank character = false := by
  simp [isFilled]

theorem not_isFilled {text : String}
    (blank : ∀ character ∈ text.toList, isBlank character = true) : ¬ isFilled text = true := by
  rw [isFilled_iff]
  rintro ⟨character, mem, shown⟩
  rw [blank character mem] at shown
  cases shown

/-- A variable gives one text or none. -/
theorem exists_givesText (variable_ : Option String) : ∃ given, GivesText variable_ given := by
  cases variable_ with
  | none => exact ⟨_, .unset⟩
  | some text =>
    by_cases filled : ∃ character ∈ text.toList, isBlank character = false
    · exact ⟨_, .filled filled⟩
    · exact ⟨_, .blank (by simpa using filled)⟩

/-- What a variable gives takes the place of the setting. -/
theorem GivesText.overrideText {variable_ given : Option String} (gives : GivesText variable_ given)
    (setting : String) : Settings.overrideText setting variable_ = given.getD setting := by
  cases gives with
  | unset => rfl
  | blank blank => exact if_neg (not_isFilled blank)
  | filled filled => exact if_pos (isFilled_iff.mpr filled)

theorem ne_empty : (fun text : String => decide (text ≠ "")) = fun text => !text.isEmpty := by
  funext text
  by_cases empty : text = "" <;> simp [empty]

/-- The entries of a text are the pieces between its commas that are not blank. -/
theorem isEntries_iff {text : String} {entries : List String} :
    IsEntries text entries ↔ splitList text = entries := by
  have trimmed : (fun piece core => IsTrimmed (String.ofList piece) core)
      = fun piece core => trim (String.ofList piece) = core := by
    funext piece core
    exact propext ⟨fun isTrimmed => isTrimmed.eq_trim.symm, fun same => same ▸ isTrimmed_trim _⟩
  unfold IsEntries splitList
  simp only [trimmed, ne_empty, ← List.forall₂_map_left_iff, List.forall₂_eq_eq_eq]
  constructor
  · rintro ⟨pieces, cores, cut, rfl, rfl⟩
    rw [cut.eq_splitOn]
  · rintro rfl
    exact ⟨_, _, isCut_splitOn .., rfl, rfl⟩

/-- A variable gives some entries or none. -/
theorem exists_givesEntries (variable_ : Option String) :
    ∃ given, GivesEntries variable_ given := by
  cases variable_ with
  | none => exact ⟨_, .unset⟩
  | some text =>
    by_cases filled : splitList text = []
    · exact ⟨_, .empty (isEntries_iff.mpr filled)⟩
    · exact ⟨_, .filled (isEntries_iff.mpr rfl) filled⟩

/-- Entries that a variable gives take the place of the setting. -/
theorem GivesEntries.override {variable_ : Option String} {given : Option (List String)}
    (gives : GivesEntries variable_ given) (setting : List String) :
    (if ((variable_.map splitList).getD []).isEmpty then setting
      else (variable_.map splitList).getD []) = given.getD setting := by
  cases gives with
  | unset => rfl
  | empty empty =>
    rw [Option.map_some, isEntries_iff.mp empty]
    rfl
  | filled isEntries filled =>
    rw [Option.map_some, isEntries_iff.mp isEntries]
    exact if_neg (by simpa using filled)

/-- A secret from the environment stands before the one that is there. -/
theorem overrideSecret_eq (variable_ given setting : Option String) :
    GivesText variable_ given →
    (match variable_ with
      | some secret => if isFilled secret then some secret else setting
      | none => setting) = (given <|> setting) := by
  intro gives
  cases gives with
  | unset => rfl
  | blank blank => exact if_neg (not_isFilled blank)
  | filled filled => exact if_pos (isFilled_iff.mpr filled)

section Number

variable {variable_ : Option String} (fault : SettingsFault) (setting : Nat) (scale : Nat → Nat)

/-- A number that a variable gives takes the place of the setting. -/
theorem GivesNumber.overrideNumber {given : Option Nat} (gives : GivesNumber variable_ given) :
    Settings.overrideNumber fault setting scale variable_
      = .ok ((given.map scale).getD setting) := by
  cases gives with
  | unset => rfl
  | written writes small =>
    have read := readInteger_of_writes .unsigned64 writes (Int.ofNat_le.mpr small)
    rw [Settings.overrideNumber, read]
    rfl

/-- A variable that gives no number, though it is set, is a fault. -/
theorem overrideNumber_of_unread (unread : ∀ given, ¬ GivesNumber variable_ given) :
    Settings.overrideNumber fault setting scale variable_ = .error fault := by
  cases variable_ with
  | none => exact absurd .unset (unread _)
  | some text =>
    cases read : readInteger .unsigned64 text with
    | error unreadable => rw [Settings.overrideNumber, read]
    | ok value =>
      obtain ⟨number, writes, small, _⟩ :=
        (readInteger_eq_ok_iff_writesNumber rfl (by decide) text value).mp read
      exact absurd (.written writes (Int.ofNat_le.mp small)) (unread _)

end Number

/-! ## Merging -/

/-- An environment gives settings iff its numbers can be read. -/
theorem exists_gives_iff {environment : Environment} :
    (∃ overrides, environment.Gives overrides) ↔
      (∃ given, GivesNumber environment.timeoutMillis given) ∧
        ∃ given, GivesNumber environment.poolSize given := by
  constructor
  · rintro ⟨overrides, gives⟩
    exact ⟨⟨_, gives.timeoutMillis⟩, _, gives.poolSize⟩
  · rintro ⟨⟨timeoutMillis, timeout⟩, poolSize, size⟩
    obtain ⟨dbPath, path⟩ := exists_givesText environment.dbPath
    obtain ⟨apiAddr, addr⟩ := exists_givesText environment.apiAddr
    obtain ⟨allowOrigins, origins⟩ := exists_givesEntries environment.allowOrigins
    obtain ⟨testSecret, secret⟩ := exists_givesText environment.testSecret
    exact ⟨⟨dbPath, apiAddr, allowOrigins, timeoutMillis, poolSize, testSecret⟩,
      path, addr, origins, timeout, size, secret⟩

/-- Without an environment a file and the defaults remain. -/
theorem ofFile_eq (file : SettingsFile) : Settings.ofFile file = merged file {} := by
  obtain ⟨dbPath, api, engine, records, testSecret⟩ := file
  unfold Settings.ofFile merged Pool.defaultTimeout Cache.ProgramCache.defaultTimeToLive
    Cache.defaultRecordTimeToLive
  simp only [Option.getD_map, ne_empty]
  cases api <;> cases engine <;> cases records <;> rfl

theorem getD_orElse {Value : Type} (first second : Option Value) (fallback : Value) :
    (first <|> second).getD fallback = first.getD (second.getD fallback) := by
  cases first <;> rfl

section Gives

variable {file : SettingsFile} {environment : Environment} {overrides : Overrides}

/-- What an environment gives stands before what is there. -/
theorem Environment.Gives.withEnvironment (gives : environment.Gives overrides) :
    (Settings.ofFile file).withEnvironment environment = .ok (merged file overrides) := by
  rw [ofFile_eq, Settings.withEnvironment, gives.timeoutMillis.overrideNumber,
    gives.poolSize.overrideNumber]
  dsimp only
  rw [gives.dbPath.overrideText, gives.apiAddr.overrideText, gives.allowOrigins.override]
  simp only [merged, getD_orElse, Option.getD_map, Option.map_id_fun, id, Except.ok.injEq,
    Settings.mk.injEq, Option.getD_none, true_and]
  exact overrideSecret_eq _ _ _ gives.testSecret

/-- An environment with a number that cannot be read is refused for that. -/
theorem withEnvironment_of_unread (unread : ∀ overrides, ¬ environment.Gives overrides) :
    ∃ fault, fault.Occurs file environment ∧
      (Settings.ofFile file).withEnvironment environment = .error fault := by
  by_cases timeout : ∃ given, GivesNumber environment.timeoutMillis given
  · have size : ∀ given, ¬ GivesNumber environment.poolSize given := by
      intro given gives
      obtain ⟨overrides, all⟩ := exists_gives_iff.mpr ⟨timeout, given, gives⟩
      exact unread overrides all
    obtain ⟨_, gives⟩ := timeout
    refine ⟨_, .poolSizeNotInteger size, ?_⟩
    rw [Settings.withEnvironment, gives.overrideNumber, overrideNumber_of_unread _ _ _ size]
  · have timeout := not_exists.mp timeout
    refine ⟨_, .timeoutNotInteger timeout, ?_⟩
    rw [Settings.withEnvironment, overrideNumber_of_unread _ _ _ timeout]

/-- Sound settings pass the check. -/
theorem check_of_isSound {settings : Settings} (sound : settings.IsSound) :
    settings.check = .ok () := by
  rw [Settings.check, if_neg sound.poolSize, if_neg sound.maxConnections, if_neg sound.timeout,
    if_neg sound.cacheMaxEntries, if_neg sound.cacheTimeToLive]

/-- Settings with a zero are refused for one. -/
theorem Environment.Gives.check (gives : environment.Gives overrides)
    (unsound : ¬ (merged file overrides).IsSound) :
    ∃ fault, fault.Occurs file environment ∧
      (merged file overrides).check = .error fault := by
  unfold Settings.check
  split_ifs with poolSize maxConnections timeout cacheMaxEntries cacheTimeToLive
  · exact ⟨_, .noPoolSize gives poolSize, rfl⟩
  · exact ⟨_, .noConnections gives maxConnections, rfl⟩
  · exact ⟨_, .noTimeout gives timeout, rfl⟩
  · exact ⟨_, .noCacheEntries gives cacheMaxEntries, rfl⟩
  · exact ⟨_, .noCacheTime gives cacheTimeToLive, rfl⟩
  · exact absurd ⟨poolSize, maxConnections, timeout, cacheMaxEntries, cacheTimeToLive⟩ unsound

/-- Sound settings are merged from the file and what the environment gives. -/
theorem Environment.Gives.merge (gives : environment.Gives overrides)
    (sound : (merged file overrides).IsSound) :
    Settings.merge (some file) environment = .ok (merged file overrides) := by
  rw [Settings.merge, Option.getD_some, gives.withEnvironment]
  dsimp only
  rw [check_of_isSound sound]

/-- Settings that are not sound are refused for a fault that occurs. -/
theorem merge_of_unsound
    (unsound : ∀ overrides, environment.Gives overrides → ¬ (merged file overrides).IsSound) :
    ∃ fault, fault.Occurs file environment ∧
      Settings.merge (some file) environment = .error fault := by
  by_cases given : ∃ overrides, environment.Gives overrides
  · obtain ⟨overrides, gives⟩ := given
    obtain ⟨fault, occurs, refused⟩ := gives.check (unsound overrides gives)
    refine ⟨fault, occurs, ?_⟩
    rw [Settings.merge, Option.getD_some, gives.withEnvironment]
    dsimp only
    rw [refused]
  · obtain ⟨fault, occurs, refused⟩ := @withEnvironment_of_unread file _ (not_exists.mp given)
    refine ⟨fault, occurs, ?_⟩
    rw [Settings.merge, Option.getD_some, refused]

end Gives

/-- Merging gives what the three levels come to, if that is sound. -/
theorem merge_eq_ok_iff {file : SettingsFile} {environment : Environment} {settings : Settings} :
    Settings.merge (some file) environment = .ok settings ↔
      ∃ overrides, environment.Gives overrides ∧ (merged file overrides).IsSound ∧
        settings = merged file overrides := by
  constructor
  · intro done
    by_contra other
    have unsound : ∀ overrides, environment.Gives overrides →
        ¬ (merged file overrides).IsSound := by
      intro overrides gives sound
      have same := gives.merge sound
      rw [done] at same
      exact other ⟨overrides, gives, sound, Except.ok.inj same⟩
    obtain ⟨fault, _, refused⟩ := merge_of_unsound unsound
    rw [done] at refused
    cases refused
  · rintro ⟨overrides, gives, sound, rfl⟩
    exact gives.merge sound

/-! ## An environment gives one thing -/

/-- A variable gives one text at most. -/
theorem GivesText.unique {variable_ given other : Option String}
    (gives : GivesText variable_ given) (givesOther : GivesText variable_ other) :
    given = other := by
  cases gives with
  | unset => cases givesOther; rfl
  | blank blank =>
    cases givesOther with
    | blank => rfl
    | filled filled => exact absurd (isFilled_iff.mpr filled) (not_isFilled blank)
  | filled filled =>
    cases givesOther with
    | blank blank => exact absurd (isFilled_iff.mpr filled) (not_isFilled blank)
    | filled => rfl

/-- A variable gives one list of entries at most. -/
theorem GivesEntries.unique {variable_ : Option String} {given other : Option (List String)}
    (gives : GivesEntries variable_ given) (givesOther : GivesEntries variable_ other) :
    given = other := by
  cases gives with
  | unset => cases givesOther; rfl
  | empty empty =>
    cases givesOther with
    | empty => rfl
    | filled isEntries filled =>
      exact absurd ((isEntries_iff.mp isEntries).symm.trans (isEntries_iff.mp empty)) filled
  | filled isEntries filled =>
    cases givesOther with
    | empty empty =>
      exact absurd ((isEntries_iff.mp isEntries).symm.trans (isEntries_iff.mp empty)) filled
    | filled isOther =>
      rw [← isEntries_iff.mp isEntries, isEntries_iff.mp isOther]

/-- A variable gives one number at most. -/
theorem GivesNumber.unique {variable_ : Option String} {given other : Option Nat}
    (gives : GivesNumber variable_ given) (givesOther : GivesNumber variable_ other) :
    given = other := by
  cases gives with
  | unset => cases givesOther; rfl
  | written writes small =>
    cases givesOther with
    | written writesOther smallOther =>
      have read := readInteger_of_writes .unsigned64 writes (Int.ofNat_le.mpr small)
      have readOther := readInteger_of_writes .unsigned64 writesOther (Int.ofNat_le.mpr smallOther)
      rw [read] at readOther
      exact congrArg some (Int.ofNat_inj.mp (Except.ok.inj readOther))

/-- An environment gives one thing. -/
theorem Environment.Gives.unique {environment : Environment} {overrides other : Overrides}
    (gives : environment.Gives overrides) (givesOther : environment.Gives other) :
    overrides = other := by
  obtain ⟨path, addr, origins, timeout, size, secret⟩ := gives
  obtain ⟨path', addr', origins', timeout', size', secret'⟩ := givesOther
  rw [Overrides.mk.injEq]
  exact ⟨path.unique path', addr.unique addr', origins.unique origins', timeout.unique timeout',
    size.unique size', secret.unique secret'⟩

/-! ## Loading -/

/-- A file of settings is named and holds some, or none is named. -/
inductive Decodes : Option (String × FileContent) → SettingsFile → Prop
  | absent : Decodes none {}
  | read {path content file} (read : readSettingsFile? path content = some file) :
      Decodes (some (path, .text content)) file

/-- A file that is decoded is merged with the environment. -/
theorem Decodes.loadSettings {source : Option (String × FileContent)} {file : SettingsFile}
    (decodes : Decodes source file) (environment : Environment) :
    loadSettings source environment =
      match Settings.merge (some file) environment with
      | .ok settings => .ok settings
      | .error fault => .error fault.message := by
  cases decodes with
  | absent => rfl
  | read read =>
    rw [Service.loadSettings]
    dsimp only
    generalize readSettingsFile? _ _ = decoded at read
    subst read
    rfl

/-- Settings are loaded from a file that is decoded, or from none. -/
theorem exists_decodes_of_loaded {source : Option (String × FileContent)}
    {environment : Environment} {settings : Settings}
    (loaded : loadSettings source environment = .ok settings) : ∃ file, Decodes source file := by
  match source with
  | none => exact ⟨_, .absent⟩
  | some (path, .unreadable reason) => cases loaded
  | some (path, .text content) =>
    cases read : readSettingsFile? path content with
    | none =>
      simp only [loadSettings, read] at loaded
      cases loaded
    | some file => exact ⟨file, .read read⟩

/-- No secret is empty. -/
theorem Environment.Gives.testSecret_ne {environment : Environment} {overrides : Overrides}
    (gives : environment.Gives overrides) (file : SettingsFile) :
    (merged file overrides).testSecret ≠ some "" := by
  intro empty
  have secret := gives.testSecret
  unfold merged at empty
  dsimp only at empty
  cases given : overrides.testSecret with
  | none =>
    rw [given] at empty
    obtain ⟨_, kept⟩ := Option.filter_eq_some_iff.mp empty
    simp at kept
  | some text =>
    rw [given] at empty secret
    cases empty
    generalize environment.testSecret = variable_ at secret
    cases secret with
    | filled filled => simp at filled

/-- A variable with a digit in it gives that digit. -/
theorem givesNumber_digit {text : String} {digit : Char} {value : Nat}
    (isDigit : digit.isDigit = true) (chars : text.toList = [digit])
    (worth : Nat.ofDigitChars 10 [digit] 0 = value) (small : value ≤ 0xffffffffffffffff) :
    GivesNumber (some text) (some value) :=
  .written (writesNumber_digit isDigit chars worth) small

section Decoded

variable {source : Option (String × FileContent)} {file : SettingsFile}
  {environment : Environment}

/-- With a file that is decoded, settings are loaded if they are sound, and are the merged ones. -/
theorem Decodes.loadSettings_eq_ok_iff (decodes : Decodes source file) {settings : Settings} :
    Service.loadSettings source environment = .ok settings ↔
      ∃ overrides, environment.Gives overrides ∧ (merged file overrides).IsSound ∧
        settings = merged file overrides := by
  rw [← merge_eq_ok_iff, decodes.loadSettings]
  cases Settings.merge (some file) environment <;> simp

/-- With a file that is decoded, settings are loaded if both numbers can be read and what is merged
is sound. -/
theorem Decodes.exists_loaded_iff (decodes : Decodes source file) :
    (∃ settings, Service.loadSettings source environment = .ok settings) ↔
      (∃ given, GivesNumber environment.timeoutMillis given) ∧
      (∃ given, GivesNumber environment.poolSize given) ∧
      ∀ overrides, environment.Gives overrides → (merged file overrides).IsSound := by
  simp only [decodes.loadSettings_eq_ok_iff]
  rw [← and_assoc, ← exists_gives_iff]
  constructor
  · rintro ⟨settings, overrides, gives, sound, _⟩
    exact ⟨⟨overrides, gives⟩, fun other givesOther => gives.unique givesOther ▸ sound⟩
  · rintro ⟨⟨overrides, gives⟩, sound⟩
    exact ⟨_, overrides, gives, sound overrides gives, rfl⟩

/-- With a file that is decoded, settings are refused for a fault that occurs. -/
theorem Decodes.exists_fault_of_refused (decodes : Decodes source file) {message : String}
    (refused : Service.loadSettings source environment = .error message) :
    ∃ fault : SettingsFault, fault.Occurs file environment ∧ message = fault.message := by
  have unsound : ∀ overrides, environment.Gives overrides →
      ¬ (merged file overrides).IsSound := by
    intro overrides gives sound
    rw [decodes.loadSettings_eq_ok_iff.mpr ⟨overrides, gives, sound, rfl⟩] at refused
    cases refused
  obtain ⟨fault, occurs, merging⟩ := merge_of_unsound unsound
  rw [decodes.loadSettings, merging] at refused
  exact ⟨fault, occurs, (Except.error.inj refused).symm⟩

/-- A pool size and a timeout of the environment replace those of the file before they are
judged. -/
theorem Decodes.exists_mended (decodes : Decodes source file) (environment : Environment)
    (maxConnections : (merged file {}).maxConnections ≠ 0)
    (cacheMaxEntries : (merged file {}).cacheMaxEntries ≠ 0)
    (cacheTimeToLive : (merged file {}).cacheTimeToLive ≠ 0) :
    ∃ timeoutMillis poolSize settings, Service.loadSettings source
      { environment with timeoutMillis, poolSize } = .ok settings := by
  have one : GivesNumber (some "1") (some 1) :=
    givesNumber_digit (show '1'.isDigit = true from rfl) rfl rfl (by decide)
  obtain ⟨overrides, gives⟩ := (@exists_gives_iff
    { environment with timeoutMillis := some "1", poolSize := some "1" }).mpr
    ⟨⟨_, one⟩, _, one⟩
  refine ⟨_, _, _, decodes.loadSettings_eq_ok_iff.mpr ⟨overrides, gives, ⟨?_, maxConnections, ?_,
    cacheMaxEntries, cacheTimeToLive⟩, rfl⟩⟩
  · rw [merged, ← one.unique gives.poolSize]
    exact Nat.one_ne_zero
  · rw [merged, ← one.unique gives.timeoutMillis]
    exact Nat.succ_ne_zero _

/-- Settings that are loaded are refused when the environment asks for an empty pool. -/
theorem Decodes.exists_spoiled (decodes : Decodes source file) {settings : Settings}
    (loaded : Service.loadSettings source environment = .ok settings) :
    ∃ poolSize, Service.loadSettings source { environment with poolSize }
      = .error "pool size must be greater than zero" := by
  obtain ⟨overrides, gives, _⟩ := decodes.loadSettings_eq_ok_iff.mp loaded
  have zero : GivesNumber (some "0") (some 0) :=
    givesNumber_digit (show '0'.isDigit = true from rfl) rfl rfl (by decide)
  have spoiled : ({ environment with poolSize := some "0" } : Environment).Gives
      { overrides with poolSize := some 0 } := { gives with poolSize := zero }
  refine ⟨some "0", ?_⟩
  rw [decodes.loadSettings, Settings.merge, Option.getD_some, spoiled.withEnvironment]
  rfl

end Decoded

/-- How settings are loaded from a file with some settings, or from none, in an environment. -/
structure IsLoaded (source : Option (String × FileContent)) (file : SettingsFile)
    (environment : Environment) : Prop where
  /-- The settings are those of the three levels, if these are sound. -/
  loads_iff : ∀ settings, loadSettings source environment = .ok settings ↔
    ∃ overrides, environment.Gives overrides ∧ (merged file overrides).IsSound ∧
      settings = merged file overrides
  /-- Only numbers of the environment and zeros in the outcome matter for success. -/
  succeeds_iff : (∃ settings, loadSettings source environment = .ok settings) ↔
    (∃ given, GivesNumber environment.timeoutMillis given) ∧
    (∃ given, GivesNumber environment.poolSize given) ∧
    ∀ overrides, environment.Gives overrides → (merged file overrides).IsSound
  /-- A refusal tells of a fault that is there. -/
  refused : ∀ message, loadSettings source environment = .error message →
    ∃ fault : SettingsFault, fault.Occurs file environment ∧ message = fault.message
  secretFilled : ∀ settings, loadSettings source environment = .ok settings →
    settings.testSecret ≠ some ""
  /-- Variables mend a file, whatever its pool size and timeout are. -/
  mended : (merged file {}).maxConnections ≠ 0 → (merged file {}).cacheMaxEntries ≠ 0 →
    (merged file {}).cacheTimeToLive ≠ 0 →
    ∃ timeoutMillis poolSize settings,
      loadSettings source { environment with timeoutMillis, poolSize } = .ok settings
  /-- A variable spoils what can be loaded. -/
  spoiled : (∃ settings, loadSettings source environment = .ok settings) →
    ∃ poolSize, loadSettings source { environment with poolSize }
      = .error "pool size must be greater than zero"

/-- Settings are the merged ones, if these are sound, and they are judged only then. -/
theorem Decodes.isLoaded {source : Option (String × FileContent)} {file : SettingsFile}
    (decodes : Decodes source file) (environment : Environment) :
    IsLoaded source file environment where
  loads_iff settings := decodes.loadSettings_eq_ok_iff
  succeeds_iff := decodes.exists_loaded_iff
  refused message refused := decodes.exists_fault_of_refused refused
  secretFilled settings loaded := by
    obtain ⟨overrides, gives, _, rfl⟩ := decodes.loadSettings_eq_ok_iff.mp loaded
    exact gives.testSecret_ne file
  mended := decodes.exists_mended environment
  spoiled := by
    rintro ⟨settings, loaded⟩
    exact decodes.exists_spoiled loaded

namespace EmptyPool

/-- A file that leaves the service without workers. -/
def source : Option (String × FileContent) :=
  some ("configd.json", .text "\x7b\"engine\": \x7b\"pool_size\": 0\x7d\x7d")

/-- The settings in the file. -/
def file : SettingsFile := { engine := some { poolSize := some 0 } }

/-- The file is refused by itself, and loaded when a variable mends it. -/
theorem isLoaded_mended :
    Decodes source file ∧
    loadSettings source {} = .error "pool size must be greater than zero" ∧
    IsLoaded source file { poolSize := some "8" } ∧
    ∃ settings, loadSettings source { poolSize := some "8" } = .ok settings := by
  have decodes : Decodes source file := .read (by rfl)
  have eight : GivesNumber (some "8") (some 8) :=
    givesNumber_digit (show '8'.isDigit = true from rfl) rfl rfl (by decide)
  have loaded := decodes.isLoaded { poolSize := some "8" }
  refine ⟨decodes, ?_, loaded, loaded.succeeds_iff.mpr ⟨⟨_, .unset⟩, ⟨_, eight⟩, ?_⟩⟩
  · rw [decodes.loadSettings]
    rfl
  · intro overrides gives
    obtain ⟨_, _, _, timeoutMillis, poolSize, _⟩ := overrides
    obtain rfl := GivesNumber.unset.unique gives.timeoutMillis
    obtain rfl := eight.unique gives.poolSize
    constructor <;> exact Nat.succ_ne_zero _

end EmptyPool

end ConfigDelivery.Service
