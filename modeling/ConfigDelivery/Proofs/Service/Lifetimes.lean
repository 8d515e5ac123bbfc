import ConfigDelivery.Proofs.Cache.Expiry
import ConfigDelivery.Proofs.Delivery.Upkeep
import ConfigDelivery.Proofs.Json.Decoding
import ConfigDelivery.Proofs.Service.Merging
import ConfigDelivery.Service.Daemon
/-!
# How long record texts are kept

A kept text expires at an instant that is computed when it is kept, and a clock has an end. Settings
are loaded with any number of seconds that a word of 64 bits holds. Those below half of that can be
kept until the clock comes as near to its end; beyond it no instant has an expiry that the clock can
show, and the first record that is read from the store asks for one.
-/

namespace ConfigDelivery

/-- An instant some seconds later can be shown if its seconds fit into a signed word. -/
theorem Instant.isSome_after?_iff (now : Instant) (seconds : Nat) :
    (now.after? (.ofSeconds seconds)).isSome = true ↔
      now / 1000000 + seconds < 0x8000000000000000 := by
  have whole (now : Nat) : now + seconds * 1000000 < 0x8000000000000000 * 1000000 ↔
      now / 1000000 + seconds < 0x8000000000000000 := by omega
  rw [← whole, after?]
  split
  · exact iff_of_true rfl ‹_›
  · exact iff_of_false Bool.false_ne_true ‹_›

namespace Cache

namespace ClockedCache

/-- Nothing takes an overflow back. -/
theorem maintains_overflowed (now : Instant) (timeToLive : Duration) :
    ops.Maintains (·.overflowed = true) now timeToLive where
  get _ overflowed := overflowed
  set {cache} key text overflowed := by
    dsimp only [ops]
    rw [set_eq]
    split
    · exact overflowed
    · rfl
  remove _ overflowed := overflowed

/-- There is none as long as the clock can show when texts expire. -/
theorem maintains_not_overflowed {now : Instant} {timeToLive : Duration}
    (shown : (now.after? timeToLive).isSome = true) :
    ops.Maintains (·.overflowed = false) now timeToLive where
  get _ fits := fits
  set {cache} key text fits := by
    dsimp only [ops]
    rw [set_eq, if_pos shown]
    exact fits
  remove _ fits := fits

end ClockedCache

end Cache

namespace Service

open Json (Decoder Document)

/-! ## Seconds in a file -/

/-- A natural number that is read fits into a word. -/
theorem le_of_nat64 {depth : Nat} {document : Document} {number : Nat}
    (read : Decoder.nat64 depth document = some number) : number ≤ 0xffffffffffffffff := by
  obtain ⟨value, isRead, rfl⟩ := Option.map_eq_some_iff.mp read
  unfold Decoder.integer at isRead
  split at isRead
  · split at isRead
    · split at isRead
      · rename_i inRange
        obtain rfl := Option.some.inj isRead
        exact Int.toNat_le.mpr inRange.2
      · cases isRead
    · cases isRead
  · cases isRead

section Reading

variable {Result : Type} {names : List String}
  {build : Bool → Nat → List (Option Document) → Option Result} {decoder : Decoder Result}
  {isObject : Bool} {depth : Nat} {result : Result}

/-- A field that is set was decoded. -/
theorem exists_of_optionalField {field : Option Document}
    (read : optionalField isObject decoder depth field = some (some result)) :
    ∃ document, decoder depth document = some result := by
  unfold optionalField at read
  split at read
  · split at read <;> cases read
  · unfold Decoder.nullable at read
    split at read
    · cases read
    · rename_i document _ _
      obtain ⟨_, isRead, same⟩ := Option.map_eq_some_iff.mp read
      exact ⟨document, Option.some.inj same ▸ isRead⟩

/-- A section that is decoded was built from its fields. -/
theorem exists_of_sectionDecoder {document : Document}
    (read : sectionDecoder names build depth document = some result) :
    ∃ isObject room fields, build isObject room fields = some result := by
  cases depth with
  | zero => cases read
  | succ room =>
    obtain ⟨fields, -, built⟩ := Option.bind_eq_some_iff.mp read
    exact ⟨_, room, fields, built⟩

end Reading

/-- The seconds of the section fit into a word. -/
theorem RecordsSection.seconds_le {depth : Nat} {document : Document} {records : RecordsSection}
    (read : decoder depth document = some records) {seconds : Nat}
    (given : records.cacheSeconds = some seconds) : seconds ≤ 0xffffffffffffffff := by
  obtain ⟨isObject, room, fields, built⟩ := exists_of_sectionDecoder read
  split at built
  · obtain ⟨cacheSeconds, isRead, built⟩ := Option.bind_eq_some_iff.mp built
    obtain ⟨breakThreshold, -, built⟩ := Option.bind_eq_some_iff.mp built
    obtain rfl := Option.some.inj built
    obtain rfl : cacheSeconds = some seconds := given
    obtain ⟨document, isRead⟩ := exists_of_optionalField isRead
    exact le_of_nat64 isRead
  · cases built

/-- The seconds of the file fit into a word. -/
theorem SettingsFile.seconds_le {depth : Nat} {document : Document} {file : SettingsFile}
    (read : decoder depth document = some file) {seconds : Nat}
    (given : file.records.bind RecordsSection.cacheSeconds = some seconds) :
    seconds ≤ 0xffffffffffffffff := by
  obtain ⟨isObject, room, fields, built⟩ := exists_of_sectionDecoder read
  split at built
  · obtain ⟨dbPath, -, built⟩ := Option.bind_eq_some_iff.mp built
    obtain ⟨api, -, built⟩ := Option.bind_eq_some_iff.mp built
    obtain ⟨engine, -, built⟩ := Option.bind_eq_some_iff.mp built
    obtain ⟨records?, isRead, built⟩ := Option.bind_eq_some_iff.mp built
    obtain ⟨testSecret, -, built⟩ := Option.bind_eq_some_iff.mp built
    obtain rfl := Option.some.inj built
    obtain ⟨records, rfl, given⟩ := Option.bind_eq_some_iff.mp given
    obtain ⟨document, isRead⟩ := exists_of_optionalField isRead
    exact RecordsSection.seconds_le isRead given
  · cases built

/-- The text of a file that says for how many seconds records are kept. -/
def secondsText (seconds : Nat) : String :=
  (Document.ofMembers [("records", .ofMembers [("cache_ttl_secs", .ofInt seconds)])]).render

/-- A field that is given and not null is decoded. -/
theorem optionalField_some {Result : Type} {isObject : Bool} {decoder : Decoder Result}
    {depth : Nat} {document : Document} (given : document ≠ .null) :
    optionalField isObject decoder depth (some document)
      = (decoder depth document).map some := by
  cases document <;> first | rfl | exact absurd rfl given

/-- A section that is written as an object is built from its members. -/
theorem sectionDecoder_ofMembers {Result : Type} (names : List String)
    (build : Bool → Nat → List (Option Document) → Option Result) (depth : Nat)
    (members : List (String × Document)) :
    sectionDecoder names build (depth + 1) (.ofMembers members)
      = (Decoder.namedFields? names members).bind (build true depth) := by
  have unfolded : sectionDecoder names build (depth + 1) (.ofMembers members)
      = (Decoder.fields? names (.ofMembers members)).bind (build true depth) := rfl
  rw [unfolded, Document.ofMembers, Decoder.fields?, Decoder.textMembers?_text]
  rfl

/-- Seconds that fit into a word are read from the section. -/
theorem RecordsSection.decoder_ofInt (depth : Nat) {seconds : Nat}
    (small : seconds ≤ 0xffffffffffffffff) :
    decoder (depth + 1) (.ofMembers [("cache_ttl_secs", .ofInt seconds)])
      = some { cacheSeconds := some seconds } := by
  have number : Decoder.nat64 depth (.ofInt seconds) = some seconds := by
    rw [Decoder.nat64, Decoder.integer_ofInt depth (Int.natCast_nonneg seconds)
      (Int.ofNat_le.mpr small) ⟨by omega, by omega⟩]
    rfl
  have given : optionalField true Decoder.nat64 depth (some (.ofInt seconds))
      = some (some seconds) := by
    rw [optionalField_some Document.noConfusion, number, Option.map_some]
  have fields : Decoder.namedFields? ["cache_ttl_secs", "break_threshold"]
      [("cache_ttl_secs", .ofInt seconds)] = some [some (.ofInt seconds), none] := by
    simp [Decoder.namedFields?, Decoder.occurrence]
  rw [decoder, sectionDecoder_ofMembers, fields, Option.bind_some]
  simp only [given]
  rfl

/-- Seconds that fit into a word are read from the file. -/
theorem SettingsFile.decoder_ofInt (depth : Nat) {seconds : Nat}
    (small : seconds ≤ 0xffffffffffffffff) :
    decoder (depth + 2) (.ofMembers [("records", .ofMembers [("cache_ttl_secs", .ofInt seconds)])])
      = some { records := some { cacheSeconds := some seconds } } := by
  have given : optionalField true RecordsSection.decoder (depth + 1)
      (some (.ofMembers [("cache_ttl_secs", .ofInt seconds)]))
        = some (some { cacheSeconds := some seconds }) := by
    rw [optionalField_some Document.noConfusion, RecordsSection.decoder_ofInt depth small,
      Option.map_some]
  have fields : Decoder.namedFields? ["db_path", "api", "engine", "records", "test_secret"]
      [("records", .ofMembers [("cache_ttl_secs", .ofInt seconds)])]
        = some [none, none, none, some (.ofMembers [("cache_ttl_secs", .ofInt seconds)]),
          none] := by
    simp [Decoder.namedFields?, Decoder.occurrence]
  rw [decoder, sectionDecoder_ofMembers, fields, Option.bind_some]
  simp only [given]
  rfl

/-- Every number of seconds that a word of 64 bits holds can be read from a file. -/
theorem readSettingsFile?_secondsText {path : String} (json : isTomlPath path = false)
    {seconds : Nat} (small : seconds ≤ 0xffffffffffffffff) :
    readSettingsFile? path (secondsText seconds)
      = some { records := some { cacheSeconds := some seconds } } := by
  have written : (Document.ofMembers [("records",
      .ofMembers [("cache_ttl_secs", .ofInt seconds)])]).IsWritten := by
    refine .object fun member mem => ?_
    obtain rfl := List.mem_singleton.mp mem
    refine .object fun member mem => ?_
    obtain rfl := List.mem_singleton.mp mem
    exact .number (Json.Numeral.isWritten_ofInt seconds)
  have read : Json.read? (secondsText seconds) = some _ := Json.read?_render written
  have room : Json.depthLimit = 125 + 2 := rfl
  rw [readSettingsFile?, json, room]
  simp only [Bool.false_eq_true, if_false, read]
  rw [Option.bind_eq_bind, Option.bind_some, SettingsFile.decoder_ofInt 125 small]

/-! ## What is loaded -/

/-- Whatever number of seconds a file says, it is loaded. -/
theorem exists_loaded_seconds {path : String} (json : isTomlPath path = false) {seconds : Nat}
    (small : seconds ≤ 0xffffffffffffffff) :
    ∃ settings, loadSettings (some (path, .text (secondsText seconds))) {} = .ok settings ∧
      settings.recordTimeToLive = .ofSeconds seconds := by
  have decodes : Decodes (some (path, .text (secondsText seconds)))
      { records := some { cacheSeconds := some seconds } } :=
    .read (readSettingsFile?_secondsText json small)
  have gives : ({} : Environment).Gives {} := ⟨.unset, .unset, .unset, .unset, .unset, .unset⟩
  refine ⟨_, decodes.loadSettings_eq_ok_iff.mpr ⟨{}, gives, ?_, rfl⟩, rfl⟩
  constructor <;> exact Nat.succ_ne_zero _

open Cache (ClockedCache)
open Delivery (Components World)

/-- How long record texts are kept, and what a clock with an end makes of it. -/
structure KeepsFor (settings : Settings) (seconds : Nat) : Prop where
  small : seconds ≤ 0xffffffffffffffff
  lifetime : settings.recordTimeToLive = .ofSeconds seconds
  /-- The expiry can be shown as long as the clock is so many seconds short of its end. -/
  shown_iff : ∀ now : Instant, (now.after? settings.recordTimeToLive).isSome = true ↔
    now / 1000000 + seconds < 0x8000000000000000
  /-- Until then no request asks for an expiry that cannot be shown. -/
  run : ∀ {Stored Engines : Type} (components : Components Stored ClockedCache Engines),
    components.records = some ClockedCache.ops → components.settings = settings.delivery →
    ∀ world events, world.kept.overflowed = false →
      (∀ now ∈ components.instants world events, now / 1000000 + seconds < 0x8000000000000000) →
      (components.run world events).kept.overflowed = false
  /-- From then on every request does that reads its configuration from the store. -/
  overflow : ∀ {Stored Engines : Type} (components : Components Stored ClockedCache Engines),
    components.records = some ClockedCache.ops → components.settings = settings.delivery →
    ∀ world configId config request, request.cached = false →
      components.store.getConfig world.stored configId = .ok (some config) →
      0x8000000000000000 ≤ world.now / 1000000 + seconds →
      ((components.serve configId request).perform world).2.kept.overflowed = true

/-- A lifetime of seconds that fit into a word is kept for these. -/
theorem keepsFor {settings : Settings} {seconds : Nat} (small : seconds ≤ 0xffffffffffffffff)
    (lifetime : settings.recordTimeToLive = .ofSeconds seconds) : KeepsFor settings seconds where
  small := small
  lifetime := lifetime
  shown_iff now := lifetime ▸ now.isSome_after?_iff seconds
  run components caching told world events fits short := by
    have same : components.settings.recordTimeToLive = .ofSeconds seconds := told ▸ lifetime
    have maintains : ∀ now ∈ components.instants world events,
        components.Maintains (·.overflowed = false) now := by
      intro now mem records isCache
      obtain rfl : ClockedCache.ops = records := Option.some.inj (caching.symm.trans isCache)
      rw [same]
      exact ClockedCache.maintains_not_overflowed
        ((now.isSome_after?_iff seconds).mpr (short now mem))
    exact Components.lasting_run maintains fits
  overflow components caching told world configId config request uncached configured late := by
    have maintains : components.Maintains (·.overflowed = true) world.now := by
      intro records isCache
      obtain rfl : ClockedCache.ops = records := Option.some.inj (caching.symm.trans isCache)
      exact ClockedCache.maintains_overflowed _ _
    refine maintains.serve_keeps_config caching configured (fun kept => ?_) uncached
    have same : components.settings.recordTimeToLive = .ofSeconds seconds := told ▸ lifetime
    dsimp only [ClockedCache.ops]
    rw [same, ClockedCache.set_eq, if_neg]
    exact fun shown => Nat.not_lt.mpr late ((Instant.isSome_after?_iff _ _).mp shown)

/-- Whatever settings are loaded, records are kept for as many seconds as the file says, or for a
minute. -/
theorem keepsFor_of_loaded {source : Option (String × FileContent)} {environment : Environment}
    {settings : Settings} (loaded : loadSettings source environment = .ok settings) :
    ∃ file, Decodes source file ∧
      KeepsFor settings ((file.records.bind RecordsSection.cacheSeconds).getD 60) := by
  obtain ⟨file, decodes⟩ := exists_decodes_of_loaded loaded
  obtain ⟨overrides, -, -, rfl⟩ := decodes.loadSettings_eq_ok_iff.mp loaded
  refine ⟨file, decodes, keepsFor ?_ rfl⟩
  cases given : file.records.bind RecordsSection.cacheSeconds with
  | none => decide
  | some seconds =>
    cases decodes with
    | absent => cases given
    | read read =>
      obtain ⟨document, -, decoded⟩ := Option.bind_eq_some_iff.mp read
      exact SettingsFile.seconds_le decoded given

/-! ## Files with long times -/

namespace LongTimes

/-- A daemon with some settings, with its records in memory. -/
def components (settings : Settings) : Components Store.MemoryStore ClockedCache Unit where
  store := Store.MemoryStore.ops
  records := some ClockedCache.ops
  engines := Delivery.BrokenRollout.echo
  wallClock _ := .ok 0
  settings := settings.delivery

/-- A configuration that nothing was read of yet. -/
def world (now : Instant) : World Store.MemoryStore ClockedCache Unit :=
  ⟨Delivery.BrokenRollout.stored, {}, (), now⟩

/-- Records that are kept for an hour fit until the clock is an hour short of its end. -/
theorem keepsFor_of_loaded_hour :
    ∃ settings, loadSettings (some ("configd.json", .text (secondsText 3600))) {} = .ok settings ∧
      ((components settings).run (world (Duration.ofSeconds (0x8000000000000000 - 3601)))
        [.operation (.getConfig "app" {})]).kept.overflowed = false ∧
      (((components settings).serve "app" {}).perform
        (world (Duration.ofSeconds (0x8000000000000000 - 3600)))).2.kept.overflowed = true := by
  have json : isTomlPath "configd.json" = false := by decide
  have small : 3600 ≤ 0xffffffffffffffff := by decide
  obtain ⟨settings, loaded, -⟩ := exists_loaded_seconds json small
  obtain ⟨file, decodes, keeps⟩ := keepsFor_of_loaded loaded
  have hour : (file.records.bind RecordsSection.cacheSeconds).getD 60 = 3600 := by
    cases decodes with
    | read read =>
      rw [readSettingsFile?_secondsText json small] at read
      obtain rfl := Option.some.inj read
      rfl
  rw [hour] at keeps
  have early (now : Instant) (mem : now ∈ (components settings).instants
      (world (Duration.ofSeconds (0x8000000000000000 - 3601))) [.operation (.getConfig "app" {})]) :
      now / 1000000 + 3600 < 0x8000000000000000 := by
    obtain rfl := List.mem_singleton.mp mem
    decide
  have late : 0x8000000000000000 ≤
      (world (Duration.ofSeconds (0x8000000000000000 - 3600))).now / 1000000 + 3600 := by decide
  exact ⟨settings, loaded, keeps.run (components settings) rfl rfl (world _) _ rfl early,
    keeps.overflow (components settings) rfl rfl (world _) "app" _ {} rfl rfl late⟩

/-- A file with the greatest number of seconds is loaded, no instant has an expiry that the clock
can show, and the first request asks for one. -/
theorem loadSettings_overflows :
    ∃ settings, loadSettings (some ("configd.json",
        .text "\x7b\"records\":\x7b\"cache_ttl_secs\":18446744073709551615\x7d\x7d")) {}
          = .ok settings ∧
      (∀ now : Instant, now.after? settings.recordTimeToLive = none) ∧
      (((components settings).serve "app" {}).perform (world 0)).2.kept.overflowed = true := by
  have json : isTomlPath "configd.json" = false := by decide
  have text : secondsText 0xffffffffffffffff
      = "\x7b\"records\":\x7b\"cache_ttl_secs\":18446744073709551615\x7d\x7d" := by decide
  obtain ⟨settings, loaded, lifetime⟩ := exists_loaded_seconds json (Nat.le_refl 0xffffffffffffffff)
  have keeps := keepsFor (Nat.le_refl _) lifetime
  have late (now : Nat) : 0x8000000000000000 ≤ now / 1000000 + 0xffffffffffffffff := by omega
  refine ⟨settings, text ▸ loaded, fun now => ?_,
    keeps.overflow (components settings) rfl rfl (world 0) "app" _ {} rfl rfl (late 0)⟩
  rw [← Option.not_isSome_iff_eq_none, keeps.shown_iff]
  exact Nat.not_lt.mpr (late now)

end LongTimes

end Service

end ConfigDelivery
