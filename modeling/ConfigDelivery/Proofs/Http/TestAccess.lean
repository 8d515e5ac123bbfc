import ConfigDelivery.Proofs.Delivery.Testing
import ConfigDelivery.Proofs.Http.RoundTrip
import ConfigDelivery.Proofs.Http.Routing
import ConfigDelivery.Proofs.Service.Merging
import ConfigDelivery.Service.Daemon
/-!
# Who may run unit tests

The settings hold a secret with the blanks around it; a header field carries its value without them.
So a caller that shows the very secret of the settings is let in iff no blank is at an end of it.
With any other one, all callers are refused.
-/

namespace ConfigDelivery.Delivery

variable {Stored Kept Engines : Type}

/-- Why a text is not taken for a secret. -/
def secretRefusal (shown : String) : DeliveryError :=
  if shown = "" then .input "missing secret" else .forbidden "wrong access secret"

/-- A caller that shows a text is let in if that is the secret. -/
theorem requireTestSecret_shown {settings : Settings} {secret : String}
    (configured : settings.testSecret = some secret) (filled : secret ≠ "") (shown : String) :
    requireTestSecret settings ((some shown).filter fun text => !text.isEmpty)
      = if shown = secret then .ok () else .error (secretRefusal shown) := by
  by_cases empty : shown = ""
  · subst empty
    rw [if_neg (Ne.symm filled)]
    rfl
  · have given : givenSecret ((some shown).filter fun text => !text.isEmpty) = .ok shown := by
      simp [givenSecret, Option.filter, empty]
    rw [requireTestSecret, given, ok_bind, configured]
    dsimp only
    rw [if_neg (by simpa using filled), secretRefusal, if_neg empty]
    by_cases same : shown = secret
    · rw [if_neg (not_not.mpr same), if_pos same]
      rfl
    · rw [if_pos same, if_neg same]
      rfl

namespace Components

variable (components : Components Stored Kept Engines)

/-- What a unit test comes to for a caller that was let in. -/
def admittedDecision (stored : Stored) (testId : String) : Except DeliveryError TestedScript := do
  let test ← requiredTest testId (components.store.getTestCase stored testId)
  let code ← requiredCode testId test.codeId (components.store.getCode stored test.codeId)
  let input ← requiredInput test.input
  let prepared ← prepare code input
  return ⟨test, code, prepared⟩

/-- The secret of the caller decides first, and nothing else depends on it. -/
theorem runTest_eq_of_check (testId : String) (secret : Option String)
    (world : World Stored Kept Engines) :
    (components.runTest testId secret).perform world =
      match requireTestSecret components.settings secret with
      | .error refusal => (.error refusal, world)
      | .ok () =>
        components.followTest world (components.admittedDecision world.stored testId) := by
  rw [runTest_eq, testDecision, admittedDecision]
  cases requireTestSecret components.settings secret <;> rfl

end Components

end ConfigDelivery.Delivery

namespace ConfigDelivery.Http

open ConfigDelivery.Delivery (Components World requireTestSecret secretRefusal)

variable {Stored Kept Engines : Type}

/-! ## A secret in a header field -/

/-- The last of the header fields with a name is the one that is found. -/
theorem lastValue?_append_cons (before after : List (String × String)) (field : String × String)
    (last : ∀ other ∈ after, fieldName other.1 ≠ fieldName field.1) :
    lastValue? (before ++ field :: after) (fieldName field.1) = some (Text.trim field.2) := by
  have nothing : after.filter (fun other => fieldName other.1 = fieldName field.1) = [] :=
    List.filter_eq_nil_iff.mpr fun other mem => by simpa using last other mem
  rw [lastValue?, List.filter_append, List.filter_cons_of_pos (by simp), nothing,
    List.getLast?_concat, Option.map_some]

/-- A client asks for a unit test, and shows a secret in the last header field for it. -/
structure WrittenHead.AsksTest (head : WrittenHead) (body : List UInt8) (testId secret : String) :
    Prop where
  proper : head.IsProper
  fits : head.bytes.length ≤ maxHeaderBytes
  announced : head.Announces body.length
  bounded : body.length ≤ maxBodyBytes
  method : head.method = "GET"
  path : Spells head.path ["test", testId]
  plain : IsPlainId testId
  shown : ∃ before after, head.fields = before ++ ("Secret", secret) :: after ∧
    ∀ field ∈ after, fieldName field.1 ≠ "secret"

/-- A request for a test carries its secret without the blanks around it. -/
theorem WrittenHead.AsksTest.lastValue?_secret {head : WrittenHead} {body : List UInt8}
    {testId secret : String} (asks : head.AsksTest body testId secret) :
    lastValue? head.fields "secret" = some (Text.trim secret) := by
  obtain ⟨before, after, fields, last⟩ := asks.shown
  have name : fieldName "Secret" = "secret" := by decide
  have found := lastValue?_append_cons before after ("Secret", secret) (by rwa [name])
  rwa [name, ← fields] at found

/-- A request for a unit test makes the call with the secret that it carries. -/
theorem route_of_test {request : Request} {testId : String} (method : request.method = "GET")
    (path : Spells request.path ["test", testId]) (plain : IsPlainId testId) :
    route request = .ok (.runTest testId request.secret?) := by
  have names : (Endpoint.test testId).names = segments request.path := (spells_iff.mp path).symm
  have ids : ∀ id ∈ (Endpoint.test testId).ids, IsPlainId id :=
    List.forall_mem_singleton.mpr plain
  have right : request.method = (Endpoint.test testId).method := method
  rw [route_of_endpoint names, if_pos right, Endpoint.call_of_asks ids .test]

/-- A request for a unit test is read back, and calls for it with the secret without the blanks
around it. -/
theorem WrittenHead.AsksTest.exists_request {head : WrittenHead} {body : List UInt8}
    {testId secret : String} (asks : head.AsksTest body testId secret)
    {pieces : List (List UInt8)} {more : List UInt8}
    (stream : pieces.flatten = head.bytes ++ body ++ more) :
    ∃ request, readRequest pieces = .ok request ∧
      request.secret? = (some (Text.trim secret)).filter (fun text => !text.isEmpty) ∧
      request.method = "GET" ∧ route request = .ok (.runTest testId request.secret?) := by
  obtain ⟨headers, read, values⟩ :=
    (readRequest_written asks.proper asks.fits asks.announced asks.bounded pieces).1 more stream
  refine ⟨_, read, ?_, asks.method, route_of_test asks.method asks.path asks.plain⟩
  rw [Request.secret?, Request.header?, values, asks.lastValue?_secret]

/-- A service with settings that hold a secret is asked for a unit test, with that secret in the
last header field for one. If no blank is at an end of it, the caller is let in; otherwise the
caller is refused, for a missing secret if it is all blank, and else for a wrong one. -/
theorem reply_to_test {source : Option (String × Service.FileContent)}
    {environment : Service.Environment} {settings : Service.Settings}
    (loaded : Service.loadSettings source environment = .ok settings) {secret : String}
    (configured : settings.testSecret = some secret) {head : WrittenHead} {body : List UInt8}
    {testId : String} (asks : head.AsksTest body testId secret) {pieces : List (List UInt8)}
    {more : List UInt8} (stream : pieces.flatten = head.bytes ++ body ++ more)
    (components : Components Stored Kept Engines) (told : components.settings = settings.delivery)
    (world : World Stored Kept Engines) :
    ∃ request, readRequest pieces = .ok request ∧
      requireTestSecret components.settings request.secret?
        = (if Text.trim secret = secret then .ok ()
          else .error (secretRefusal (Text.trim secret))) ∧
      reply components request world =
        let (answer, after) :=
          if Text.trim secret = secret then
            components.followTest world (components.admittedDecision world.stored testId)
          else (.error (secretRefusal (Text.trim secret)), world)
        (.of TestReport.document answer, after) := by
  obtain ⟨request, read, shown, method, called⟩ := asks.exists_request stream
  have filled : secret ≠ "" := by
    rintro rfl
    obtain ⟨file, decodes⟩ := Service.exists_decodes_of_loaded loaded
    exact (decodes.isLoaded environment).secretFilled settings loaded configured
  have known : components.settings.testSecret = some secret := told ▸ configured
  have checked : requireTestSecret components.settings request.secret?
      = if Text.trim secret = secret then .ok ()
        else .error (secretRefusal (Text.trim secret)) := by
    rw [shown, Delivery.requireTestSecret_shown known filled]
  refine ⟨request, read, checked, ?_⟩
  have unasked : request.method ≠ "OPTIONS" := by
    rw [method]
    decide
  have performed : reply components request world =
      let (answer, after) := (components.runTest testId request.secret?).perform world
      (.of TestReport.document answer, after) := by
    rw [reply, if_neg unasked, called]
    rfl
  rw [performed, components.runTest_eq_of_check, checked]
  by_cases trimmed : Text.trim secret = secret
  · rw [if_pos trimmed, if_pos trimmed]
  · rw [if_neg trimmed, if_neg trimmed]

/-! ## Secrets with and without blanks -/

namespace PaddedSecret

/-- A request for a unit test that shows a secret. -/
def head (secret : String) : WrittenHead :=
  { method := "GET", path := "/test/t1", fields := [("Host", "localhost"), ("Secret", secret)] }

/-- The file with a secret. -/
def source (secret : String) : Option (String × Service.FileContent) :=
  some ("configd.json", .text ("\x7b\"test_secret\":\"" ++ secret ++ "\"\x7d"))

/-- The settings that are loaded from it. -/
def settings (secret : String) : Service.Settings :=
  Service.merged { testSecret := some secret } {}

/-- A service with these settings. -/
def components (secret : String) : Components Store.MemoryStore Unit Unit :=
  { Delivery.BrokenRollout.components with settings := (settings secret).delivery }

theorem isProper_head {secret : String}
    (unbroken : ∀ character ∈ secret.toList, character ≠ '\r' ∧ character ≠ '\n') :
    (head secret).IsProper where
  methodIsWord := by
    show "GET" ≠ "" ∧ ∀ character ∈ "GET".toList, Text.isBlank character = false
    exact ⟨by decide, List.all_iff_forall_prop.mp (by decide)⟩
  targetIsWord := by
    show "/test/t1" ≠ "" ∧ ∀ character ∈ "/test/t1".toList, Text.isBlank character = false
    exact ⟨by decide, List.all_iff_forall_prop.mp (by decide)⟩
  pathUnmarked := by
    show '?' ∉ "/test/t1".toList
    decide
  versionUnbroken := by
    show '\r' ∉ "HTTP/1.1".toList ∧ '\n' ∉ "HTTP/1.1".toList
    decide
  namesUnmarked := by
    simp only [head, List.forall_mem_cons]
    exact ⟨by decide, by decide, by simp⟩
  fieldsUnbroken := by
    simp only [head, List.forall_mem_cons]
    refine ⟨List.all_iff_forall_prop.mp (by decide), ?_, by simp⟩
    rw [List.forall_mem_append]
    exact ⟨List.all_iff_forall_prop.mp (by decide), unbroken⟩

theorem asksTest_head {secret : String}
    (unbroken : ∀ character ∈ secret.toList, character ≠ '\r' ∧ character ≠ '\n')
    (fits : (head secret).bytes.length ≤ maxHeaderBytes) :
    (head secret).AsksTest [] "t1" secret where
  proper := isProper_head unbroken
  fits := fits
  announced := by
    have last : lastValue? (head secret).fields "content-length" = none := by
      have host : fieldName "Host" ≠ "content-length" := by decide
      have name : fieldName "Secret" ≠ "content-length" := by decide
      simp [lastValue?, head, host, name]
    rw [WrittenHead.Announces, last]
    exact List.length_nil
  bounded := Nat.zero_le _
  method := rfl
  path := spells_iff.mpr (show segments "/test/t1" = ["test", "t1"] by decide)
  plain := isRecordId_iff.mp (by decide)
  shown := ⟨[("Host", "localhost")], [], rfl, by simp⟩

/-- The file sets its secret, blanks and all. -/
theorem loadSettings_source {secret : String} (filled : secret ≠ "")
    (decodes : Service.Decodes (source secret) { testSecret := some secret }) :
    Service.loadSettings (source secret) {} = .ok (settings secret) ∧
      (settings secret).testSecret = some secret := by
  have gives : ({} : Service.Environment).Gives {} :=
    ⟨.unset, .unset, .unset, .unset, .unset, .unset⟩
  refine ⟨decodes.loadSettings_eq_ok_iff.mpr ⟨{}, gives, ?_, rfl⟩, ?_⟩
  · constructor <;> exact Nat.succ_ne_zero _
  · show (some secret).filter (fun secret => secret ≠ "") = some secret
    simp [Option.filter, filled]

theorem flatten_stream (secret : String) :
    [(head secret).bytes].flatten = (head secret).bytes ++ [] ++ [] := by simp

/-- A caller that shows a secret without blanks is let in, and told that there is no such test. -/
theorem reply_to_test_plain :
    ∃ request, readRequest [(head "unit-secret").bytes] = .ok request ∧
      requireTestSecret (components "unit-secret").settings request.secret? = .ok () ∧
      (reply (components "unit-secret") request ⟨.empty, (), (), 0⟩).1
        = .refusal (.input "test record t1 does not exist") := by
  obtain ⟨loaded, configured⟩ :=
    @loadSettings_source "unit-secret" (by decide) (.read (by rfl))
  have asks := @asksTest_head "unit-secret" (List.all_iff_forall_prop.mp (by decide)) (by decide)
  obtain ⟨request, read, checked, replied⟩ := reply_to_test loaded configured asks
    (flatten_stream _) (components "unit-secret") rfl ⟨.empty, (), (), 0⟩
  have trimmed : Text.trim "unit-secret" = "unit-secret" := by decide
  rw [if_pos trimmed] at checked replied
  refine ⟨request, read, checked, ?_⟩
  rw [replied]
  rfl

/-- What the check comes to for a caller that shows the secret of the file. -/
theorem exists_check {secret : String} (filled : secret ≠ "")
    (decodes : Service.Decodes (source secret) { testSecret := some secret })
    (unbroken : ∀ character ∈ secret.toList, character ≠ '\r' ∧ character ≠ '\n')
    (fits : (head secret).bytes.length ≤ maxHeaderBytes) :
    ∃ settings request, Service.loadSettings (source secret) {} = .ok settings ∧
      settings.testSecret = some secret ∧ readRequest [(head secret).bytes] = .ok request ∧
      requireTestSecret settings.delivery request.secret?
        = if Text.trim secret = secret then .ok ()
          else .error (secretRefusal (Text.trim secret)) := by
  obtain ⟨loaded, configured⟩ := loadSettings_source filled decodes
  obtain ⟨request, read, shown, -⟩ :=
    (asksTest_head unbroken fits).exists_request (flatten_stream secret)
  have known : (settings secret).delivery.testSecret = some secret := configured
  refine ⟨_, request, loaded, configured, read, ?_⟩
  rw [shown, Delivery.requireTestSecret_shown known filled]

/-- A secret that is all blank, and one with a blank at each end, are loaded; a caller that shows
them is told that the secret is missing or wrong. -/
theorem reply_refuses_padded :
    (∃ settings request, Service.loadSettings (source "   ") {} = .ok settings ∧
      settings.testSecret = some "   " ∧ readRequest [(head "   ").bytes] = .ok request ∧
      requireTestSecret settings.delivery request.secret? = .error (.input "missing secret")) ∧
    ∃ settings request, Service.loadSettings (source " key ") {} = .ok settings ∧
      settings.testSecret = some " key " ∧ readRequest [(head " key ").bytes] = .ok request ∧
      requireTestSecret settings.delivery request.secret?
        = .error (.forbidden "wrong access secret") :=
  ⟨@exists_check "   " (by decide) (.read (by rfl)) (List.all_iff_forall_prop.mp (by decide))
      (by decide),
    @exists_check " key " (by decide) (.read (by rfl)) (List.all_iff_forall_prop.mp (by decide))
      (by decide)⟩

end PaddedSecret

end ConfigDelivery.Http
