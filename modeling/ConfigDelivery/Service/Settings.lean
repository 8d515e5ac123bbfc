import ConfigDelivery.Basic.Time
import ConfigDelivery.Cache.Programs
import ConfigDelivery.Cache.Records
import ConfigDelivery.Delivery.Components
import ConfigDelivery.Http.Server
import ConfigDelivery.Json.Decode
import ConfigDelivery.Pool.Basic
import ConfigDelivery.Text.Blank
import ConfigDelivery.Toml.Reader
/-!
# Settings of the service

A setting comes from the environment, else from the configuration file, else from
a default, each setting for itself. The outcome is judged as a whole, so an
environment can mend what a file has wrong. In a file null stands for absence.
-/

namespace ConfigDelivery.Service

open Json (Decoder Document)

/-- The part of a configuration file about the HTTP interface. -/
structure ApiSection where
  addr : Option String := none
  allowOrigins : Option (List String) := none
  maxConnections : Option Nat := none

/-- The part of a configuration file about script engines. -/
structure EngineSection where
  poolSize : Option Nat := none
  timeoutMillis : Option Nat := none
  confineWorkers : Option Bool := none
  cacheSeconds : Option Nat := none
  cacheMaxEntries : Option Nat := none

/-- The part of a configuration file about records. -/
structure RecordsSection where
  cacheSeconds : Option Nat := none
  breakThreshold : Option UInt32 := none

/-- A configuration file. -/
structure SettingsFile where
  dbPath : Option String := none
  api : Option ApiSection := none
  engine : Option EngineSection := none
  records : Option RecordsSection := none
  testSecret : Option String := none

/-- A field that may be null, and in an object also missing. -/
def optionalField {Result : Type} (isObject : Bool) (decoder : Decoder Result) (depth : Nat)
    (field : Option Document) : Option (Option Result) :=
  match field with
  | none => if isObject then some none else none
  | some document => Decoder.nullable decoder depth document

/-- Read a section: from an object with any of its fields, or from an array with all of them. -/
def sectionDecoder {Result : Type} (names : List String)
    (build : Bool → Nat → List (Option Document) → Option Result) : Decoder Result :=
  fun depth document =>
    let isObject :=
      match document with
      | .object _ => true
      | _ => false
    Decoder.record names (build isObject) depth document

/-- Read the part about the HTTP interface. -/
def ApiSection.decoder : Decoder ApiSection :=
  sectionDecoder ["addr", "allow_origins", "max_connections"] fun isObject depth fields =>
    match fields with
    | [addr, allowOrigins, maxConnections] => do
      return {
        addr := ← optionalField isObject Decoder.string depth addr
        allowOrigins := ← optionalField isObject (Decoder.list Decoder.string) depth allowOrigins
        maxConnections := ← optionalField isObject Decoder.nat64 depth maxConnections }
    | _ => none

/-- Read the part about script engines. -/
def EngineSection.decoder : Decoder EngineSection :=
  sectionDecoder ["pool_size", "timeout_ms", "confine_workers", "cache_ttl_secs",
      "cache_max_entries"] fun isObject depth fields =>
    match fields with
    | [poolSize, timeoutMillis, confineWorkers, cacheSeconds, cacheMaxEntries] => do
      return {
        poolSize := ← optionalField isObject Decoder.nat64 depth poolSize
        timeoutMillis := ← optionalField isObject Decoder.nat64 depth timeoutMillis
        confineWorkers := ← optionalField isObject Decoder.bool depth confineWorkers
        cacheSeconds := ← optionalField isObject Decoder.nat64 depth cacheSeconds
        cacheMaxEntries := ← optionalField isObject Decoder.nat64 depth cacheMaxEntries }
    | _ => none

/-- Read the part about records. -/
def RecordsSection.decoder : Decoder RecordsSection :=
  sectionDecoder ["cache_ttl_secs", "break_threshold"] fun isObject depth fields =>
    match fields with
    | [cacheSeconds, breakThreshold] => do
      return {
        cacheSeconds := ← optionalField isObject Decoder.nat64 depth cacheSeconds
        breakThreshold := ← optionalField isObject Decoder.uint32 depth breakThreshold }
    | _ => none

/-- Read a configuration file. -/
def SettingsFile.decoder : Decoder SettingsFile :=
  sectionDecoder ["db_path", "api", "engine", "records", "test_secret"]
    fun isObject depth fields =>
      match fields with
      | [dbPath, api, engine, records, testSecret] => do
        return {
          dbPath := ← optionalField isObject Decoder.string depth dbPath
          api := ← optionalField isObject ApiSection.decoder depth api
          engine := ← optionalField isObject EngineSection.decoder depth engine
          records := ← optionalField isObject RecordsSection.decoder depth records
          testSecret := ← optionalField isObject Decoder.string depth testSecret }
      | _ => none

/-- The settings of the service. -/
structure Settings where
  dbPath : String
  apiAddr : String
  allowOrigins : List String
  maxConnections : Nat
  poolSize : Nat
  timeout : Duration
  confineWorkers : Bool
  cacheTimeToLive : Duration
  cacheMaxEntries : Nat
  recordTimeToLive : Duration
  breakThreshold : UInt32
  testSecret : Option String

/-- The settings of a file, with defaults for what it leaves out. An empty secret is none. -/
def Settings.ofFile (file : SettingsFile) : Settings :=
  let api := file.api.getD {}
  let engine := file.engine.getD {}
  let records := file.records.getD {}
  { dbPath := file.dbPath.getD "configd.db"
    apiAddr := api.addr.getD "127.0.0.1:8080"
    allowOrigins := api.allowOrigins.getD []
    maxConnections := api.maxConnections.getD Http.defaultMaxConnections
    poolSize := engine.poolSize.getD Pool.defaultSize
    timeout := (engine.timeoutMillis.map Duration.ofMillis).getD Pool.defaultTimeout
    confineWorkers := engine.confineWorkers.getD false
    cacheTimeToLive :=
      (engine.cacheSeconds.map Duration.ofSeconds).getD Cache.ProgramCache.defaultTimeToLive
    cacheMaxEntries := engine.cacheMaxEntries.getD Cache.ProgramCache.defaultMaxEntries
    recordTimeToLive :=
      (records.cacheSeconds.map Duration.ofSeconds).getD Cache.defaultRecordTimeToLive
    breakThreshold := records.breakThreshold.getD Delivery.defaultBreakThreshold
    -- Blanks are something: only an empty secret is none.
    testSecret := file.testSecret.filter fun secret => !secret.isEmpty }

/-- The environment variables that the service reads. A variable whose value is not Unicode cannot
be read, so `none` stands for such a one as well as for one that is not set. -/
structure Environment where
  dbPath : Option String := none
  apiAddr : Option String := none
  allowOrigins : Option String := none
  timeoutMillis : Option String := none
  poolSize : Option String := none
  testSecret : Option String := none

/-- The entries of a list with commas, trimmed, without empty ones. -/
def splitList (text : String) : List String :=
  ((Text.splitOn ',' text.toList).map fun entry => Text.trim (String.ofList entry)).filter
    fun entry => !entry.isEmpty

/-- Why settings are refused. -/
inductive SettingsFault where
  | timeoutNotInteger
  | poolSizeNotInteger
  | noPoolSize
  | noConnections
  | noTimeout
  | noCacheEntries
  | noCacheTime
  deriving DecidableEq, Repr

/-- The wording of a refusal of settings. -/
def SettingsFault.message : SettingsFault → String
  | timeoutNotInteger => "CONFIGD_TIMEOUT_MS must be an integer number of milliseconds"
  | poolSizeNotInteger => "CONFIGD_POOL_SIZE must be a positive integer"
  | noPoolSize => "pool size must be greater than zero"
  | noConnections => "api max connections must be greater than zero"
  | noTimeout => "execution timeout must be greater than zero"
  | noCacheEntries => "compiled program cache must hold at least one entry"
  | noCacheTime => "compiled program cache ttl must be greater than zero"

namespace Settings

/-- A text from the environment that is not blank, or else the setting as it is. -/
def overrideText (setting : String) (variable_ : Option String) : String :=
  match variable_ with
  | some text => if Text.isFilled text then text else setting
  | none => setting

/-- A number from the environment, or else the setting as it is. -/
def overrideNumber (fault : SettingsFault) (setting : Nat) (scale : Nat → Nat)
    (variable_ : Option String) : Except SettingsFault Nat :=
  match variable_ with
  | none => .ok setting
  | some text =>
    match Text.readInteger .unsigned64 text with
    | .ok value => .ok (scale value.toNat)
    | .error _ => .error fault

/-- Put the environment's settings over the others. -/
def withEnvironment (settings : Settings) (environment : Environment) :
    Except SettingsFault Settings :=
  match overrideNumber .timeoutNotInteger settings.timeout Duration.ofMillis
      environment.timeoutMillis with
  | .error fault => .error fault
  | .ok timeout =>
    match overrideNumber .poolSizeNotInteger settings.poolSize id environment.poolSize with
    | .error fault => .error fault
    | .ok poolSize =>
      let origins := (environment.allowOrigins.map splitList).getD []
      .ok { settings with
        dbPath := overrideText settings.dbPath environment.dbPath
        apiAddr := overrideText settings.apiAddr environment.apiAddr
        allowOrigins := if origins.isEmpty then settings.allowOrigins else origins
        timeout
        poolSize
        testSecret :=
          match environment.testSecret with
          | some secret => if Text.isFilled secret then some secret else settings.testSecret
          | none => settings.testSecret }

/-- Judge settings as a whole. -/
def check (settings : Settings) : Except SettingsFault Unit :=
  if settings.poolSize = 0 then .error .noPoolSize
  else if settings.maxConnections = 0 then .error .noConnections
  else if settings.timeout = 0 then .error .noTimeout
  else if settings.cacheMaxEntries = 0 then .error .noCacheEntries
  else if settings.cacheTimeToLive = 0 then .error .noCacheTime
  else .ok ()

/-- The settings of a file, or of none, in an environment. -/
def merge (file : Option SettingsFile) (environment : Environment) :
    Except SettingsFault Settings :=
  match (ofFile (file.getD {})).withEnvironment environment with
  | .error fault => .error fault
  | .ok settings =>
    match settings.check with
    | .error fault => .error fault
    | .ok () => .ok settings

end Settings

/-- The extension of a file name: what follows its last point, when something precedes that. -/
def extension? (path : String) : Option String :=
  let name := ((Text.splitOn '/' path.toList).getLast?).getD []
  if name = ['.', '.'] then none
  else
    match name.reverse.span (· != '.') with
    | (_, []) => none
    | (_, [_]) => none
    | (after, _) => some (String.ofList after.reverse)

/-- A file holds TOML when its extension says so, in letters of either case; else it holds JSON. -/
def isTomlPath (path : String) : Bool :=
  match extension? path with
  | some extension => extension.toList.map Char.toLower = ['t', 'o', 'm', 'l']
  | none => false

/-- Read the content of a configuration file. -/
def readSettingsFile? (path content : String) : Option SettingsFile :=
  let document? := if isTomlPath path then Toml.read? content else Json.read? content
  document? >>= SettingsFile.decoder Json.depthLimit

/-- What can be found at the path of a configuration file: text, or why there is none. -/
inductive FileContent where
  | text (content : String)
  | unreadable (reason : String)

/-- Load the settings: from the file of a path, if one is named, and from the environment. A file
that cannot be decoded is named in the refusal; what its parser complains of is left out. -/
def loadSettings (file : Option (String × FileContent)) (environment : Environment) :
    Except String Settings :=
  let merged (file : Option SettingsFile) : Except String Settings :=
    match Settings.merge file environment with
    | .ok settings => .ok settings
    | .error fault => .error fault.message
  match file with
  | none => merged none
  | some (path, .unreadable reason) =>
    .error ("failed to read config file " ++ path ++ ": " ++ reason)
  | some (path, .text content) =>
    match readSettingsFile? path content with
    | some file => merged (some file)
    | none => .error ("invalid config file " ++ path)

end ConfigDelivery.Service
