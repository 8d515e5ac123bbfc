import ConfigDelivery.Proofs.Delivery.Runs
/-!
# Secrets come first

A caller that does not show the secret is refused before anything else is looked at. For unit tests
the refusal depends on nothing but the secret of the settings, so neither the store nor the cache
nor the engines have a part in it. For error reports the secret is in the record of the
configuration; beyond whether there is such a record, the refusal tells nothing of the store.
-/

namespace ConfigDelivery.Delivery

variable {Stored Kept Engines : Type}

namespace DeliveryError

/-- What a client sees of a refusal. -/
def shown (refusal : DeliveryError) : Nat × String := (refusal.status, refusal.message)

/-- Two refusals differ in internal detail at most. -/
def Alike (left right : DeliveryError) : Prop :=
  left = right ∨ ∃ leftDetail rightDetail, left = internal leftDetail ∧ right = internal rightDetail

/-- No client sees internal detail. -/
theorem Alike.shown_eq {left right : DeliveryError} (alike : left.Alike right) :
    left.shown = right.shown := by
  rcases alike with rfl | ⟨_, _, rfl, rfl⟩ <;> rfl

end DeliveryError

/-- The refusal of a caller that shows no secret. -/
def missingSecret : DeliveryError := .input "missing secret"

/-! ## Unit tests -/

/-- A caller shows the secret that the service was told, which is not empty. -/
def ShowsTestSecret (configured secret : Option String) : Prop :=
  ∃ expected, configured = some expected ∧ expected ≠ "" ∧ secret = some expected

/-- The refusal of a caller that does not show the secret of unit tests. -/
def testSecretRefusal (configured secret : Option String) : DeliveryError :=
  if secret.getD "" = "" then missingSecret
  else if configured.getD "" = "" then .internal "test secret is not configured on this server"
  else .forbidden "wrong access secret"

/-- An empty secret is refused as one that is missing. -/
theorem givenSecret_of_missing {secret : Option String} (missing : secret.getD "" = "") :
    givenSecret secret = .error missingSecret := by
  rcases secret with _ | secret
  · rfl
  · rw [Option.getD_some] at missing
    rw [missing]
    rfl

/-- A secret with something in it is taken as it is. -/
theorem givenSecret_of_given {secret : Option String} (given : secret.getD "" ≠ "") :
    ∃ text, secret = some text ∧ givenSecret secret = .ok text := by
  rcases secret with _ | text
  · exact absurd rfl given
  · exact ⟨text, rfl, givenSecret_eq_ok_iff.mpr ⟨rfl, given⟩⟩

/-- Who does not show the secret of the settings is refused for that. -/
theorem requireTestSecret_of_not_shows {settings : Settings} {secret : Option String}
    (unknown : ¬ ShowsTestSecret settings.testSecret secret) :
    requireTestSecret settings secret
      = .error (testSecretRefusal settings.testSecret secret) := by
  by_cases missing : secret.getD "" = ""
  · rw [requireTestSecret, givenSecret_of_missing missing, testSecretRefusal, if_pos missing]
    rfl
  · obtain ⟨text, rfl, given⟩ := givenSecret_of_given missing
    rw [requireTestSecret, given, ok_bind, testSecretRefusal, if_neg missing]
    cases configured : settings.testSecret with
    | none => rfl
    | some expected =>
      rw [configured] at unknown
      dsimp only
      by_cases empty : expected = ""
      · rw [if_pos (String.isEmpty_iff.mpr empty), if_pos (by rw [Option.getD_some, empty])]
        rfl
      · have different : text ≠ expected := fun same => unknown ⟨expected, rfl, empty, same ▸ rfl⟩
        rw [if_neg (String.isEmpty_iff.not.mpr empty), if_pos different,
          if_neg (by rwa [Option.getD_some])]
        rfl

namespace Components

/-- Who does not show the secret of the settings runs no test, and changes nothing. -/
theorem runTest_of_not_shows (components : Components Stored Kept Engines) {secret : Option String}
    (unknown : ¬ ShowsTestSecret components.settings.testSecret secret) (testId : String)
    (world : World Stored Kept Engines) :
    (components.runTest testId secret).perform world
      = (.error (testSecretRefusal components.settings.testSecret secret), world) := by
  rw [runTest, Action.perform_bind, Action.perform_conclude,
    requireTestSecret_of_not_shows unknown]

/-! ## Error reports -/

/-- Without a secret a report is refused before anything is looked up. -/
theorem reportError_of_missing (components : Components Stored Kept Engines)
    {secret : Option String} (missing : secret.getD "" = "") (configId codeId : String)
    (report : ErrorReport) (world : World Stored Kept Engines) :
    (components.reportError configId codeId secret report).perform world
      = (.error missingSecret, world) := by
  rw [reportError_eq, reportDecision, givenSecret_of_missing missing]
  rfl

/-- A caller shows the secret of a configuration's record, which is not empty. -/
def ShowsConfigSecret (components : Components Stored Kept Engines) (stored : Stored)
    (configId : String) (secret : Option String) : Prop :=
  ∃ config, components.store.getConfig stored configId = .ok (some config) ∧
    config.secret ≠ "" ∧ secret = some config.secret

end Components

/-- The refusal of a caller that shows a secret, but not that of the record that was looked for. -/
def configSecretRefusal (configId : String) : Except Failure (Option Config) → DeliveryError
  | .error failure => .internal failure.plain
  | .ok none => configMissing configId
  | .ok (some _) => .forbidden "mismatched access secret"

/-- Whether a look-up works, and whether it finds a record. -/
def lookupKind {Record : Type} (found : Except Failure (Option Record)) : Option Bool :=
  found.toOption.map Option.isSome

/-- The refusal tells no more than how the look-up went. -/
theorem configSecretRefusal_alike (configId : String)
    {left right : Except Failure (Option Config)} (same : lookupKind left = lookupKind right) :
    (configSecretRefusal configId left).Alike (configSecretRefusal configId right) := by
  rcases left with leftFailure | _ | _ <;> rcases right with rightFailure | _ | _
  · exact .inr ⟨_, _, rfl, rfl⟩
  all_goals first | exact .inl rfl | cases same

namespace Components

/-- Who does not show the secret of the configuration is refused for that, whatever else is
wrong. -/
theorem reportError_of_not_shows (components : Components Stored Kept Engines)
    {secret : Option String} (given : secret.getD "" ≠ "") {configId : String}
    {world : World Stored Kept Engines}
    (unknown : ¬ components.ShowsConfigSecret world.stored configId secret) (codeId : String)
    (report : ErrorReport) :
    (components.reportError configId codeId secret report).perform world
      = (.error (configSecretRefusal configId (components.store.getConfig world.stored configId)),
        world) := by
  obtain ⟨text, rfl, isGiven⟩ := givenSecret_of_given given
  rw [reportError_eq, reportDecision, isGiven, ok_bind]
  rcases found : components.store.getConfig world.stored configId with failure | _ | config
  · rfl
  · rfl
  · have mismatched : config.secret.isEmpty = true ∨ config.secret ≠ text := by
      by_contra matched
      obtain ⟨filled, same⟩ := not_or.mp matched
      exact unknown ⟨config, found, String.isEmpty_iff.not.mp filled,
        congrArg some (not_not.mp same).symm⟩
    rw [reportedConfig, ok_bind, acceptsReport, requireConfigSecret, if_pos mismatched]
    rfl

end Components

/-- A caller without the secret gets its refusal before anything happens. A unit test is refused
with a refusal that no store, cache or engine has a part in. A report without a secret is refused
for any store; one with a wrong secret is told the same by any two stores that agree on whether
there is a record of the configuration. No refusal changes anything. -/
theorem secrets_first :
    (∀ configured secret, ¬ ShowsTestSecret configured secret →
      ∃ refusal, ∀ {Stored Kept Engines : Type} (components : Components Stored Kept Engines),
        components.settings.testSecret = configured → ∀ testId world,
          (components.runTest testId secret).perform world = (.error refusal, world)) ∧
    (∀ secret : Option String, secret.getD "" = "" →
      ∀ {Stored Kept Engines : Type} (components : Components Stored Kept Engines)
        configId codeId report world,
        (components.reportError configId codeId secret report).perform world
          = (.error (.input "missing secret"), world)) ∧
    (∀ {Stored Kept Engines Stored' Kept' Engines' : Type}
      (left : Components Stored Kept Engines) (right : Components Stored' Kept' Engines')
      leftWorld rightWorld configId secret,
      ¬ left.ShowsConfigSecret leftWorld.stored configId secret →
      ¬ right.ShowsConfigSecret rightWorld.stored configId secret →
      lookupKind (left.store.getConfig leftWorld.stored configId)
        = lookupKind (right.store.getConfig rightWorld.stored configId) →
      ∀ codeId report, ∃ leftRefusal rightRefusal,
        (left.reportError configId codeId secret report).perform leftWorld
          = (.error leftRefusal, leftWorld) ∧
        (right.reportError configId codeId secret report).perform rightWorld
          = (.error rightRefusal, rightWorld) ∧
        leftRefusal.Alike rightRefusal ∧ leftRefusal.shown = rightRefusal.shown) := by
  refine ⟨?_, ?_, ?_⟩
  · intro configured secret unknown
    refine ⟨testSecretRefusal configured secret, ?_⟩
    rintro Stored Kept Engines components rfl testId world
    exact components.runTest_of_not_shows unknown testId world
  · intro secret missing Stored Kept Engines components configId codeId report world
    exact components.reportError_of_missing missing configId codeId report world
  · intro _ _ _ _ _ _ left right leftWorld rightWorld configId secret leftUnknown rightUnknown
      same codeId report
    by_cases missing : secret.getD "" = ""
    · exact ⟨missingSecret, missingSecret, left.reportError_of_missing missing ..,
        right.reportError_of_missing missing .., .inl rfl, rfl⟩
    · have alike := configSecretRefusal_alike configId same
      exact ⟨_, _, left.reportError_of_not_shows missing leftUnknown codeId report,
        right.reportError_of_not_shows missing rightUnknown codeId report,
        alike, alike.shown_eq⟩

namespace GuessedSecret

/-- A store with one configuration, of some secret and status. -/
def stored (secret status : String) : Store.MemoryStore where
  configs := ⟨[("app", { configId := "app", releasedCode := "stable", secret, status })]⟩

/-- A service that was told a secret for unit tests. -/
def components : Components Store.MemoryStore Unit Unit where
  store := Store.MemoryStore.ops
  records := none
  engines := BrokenRollout.echo
  wallClock _ := .ok 0
  settings := { testSecret := some "pass" }

/-- A service with a configuration that is out. -/
def live : World Store.MemoryStore Unit Unit := ⟨stored "key" "valid", (), (), 0⟩

/-- A service with a configuration that is not out and that nobody knows a secret of. -/
def retired : World Store.MemoryStore Unit Unit := ⟨stored "" "closed", (), (), 0⟩

theorem not_showsConfigSecret {secret status : String} (different : secret ≠ "guess") :
    ¬ components.ShowsConfigSecret (stored secret status) "app" (some "guess") := by
  rintro ⟨config, found, _, same⟩
  cases found
  exact different (Option.some.inj same).symm

theorem secrets_first_guessed :
    (∃ refusal,
      (components.runTest "sum" (some "guess")).perform live = (.error refusal, live) ∧
      (components.runTest "sum" (some "guess")).perform retired = (.error refusal, retired)) ∧
    (components.reportError "app" "stable" none {}).perform live
      = (.error (.input "missing secret"), live) ∧
    ∃ first second,
      (components.reportError "app" "stable" (some "guess") {}).perform live
        = (.error first, live) ∧
      (components.reportError "app" "stable" (some "guess") {}).perform retired
        = (.error second, retired) ∧
      first.Alike second ∧ first.shown = second.shown := by
  obtain ⟨tests, missing, reports⟩ := secrets_first
  have unknown : ¬ ShowsTestSecret (some "pass") (some "guess") := by
    rintro ⟨expected, told, _, shown⟩
    exact absurd (told.trans shown.symm) (by decide)
  obtain ⟨refusal, refused⟩ := tests (some "pass") (some "guess") unknown
  exact ⟨⟨refusal, refused components rfl "sum" live, refused components rfl "sum" retired⟩,
    missing none rfl components "app" "stable" {} live,
    reports components components live retired "app" (some "guess")
      (not_showsConfigSecret (by decide)) (not_showsConfigSecret (by decide)) rfl "stable" {}⟩

end GuessedSecret

end ConfigDelivery.Delivery
