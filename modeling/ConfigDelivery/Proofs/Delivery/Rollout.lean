import ConfigDelivery.Proofs.Delivery.Decision
/-!
# Raising a rollout

Of all that a request without cached records goes through, only the choice between the gray and the
released code version depends on the percentage of the configuration, and there only the test that
the bucket of the device is below it. So two stores that differ in that percentage alone answer a
device alike as soon as they choose alike, and a higher percentage still chooses the gray code
version for every device that got it before.
-/

namespace ConfigDelivery.Targeting

/-- There are a hundred buckets. -/
theorem bucket_lt (deviceId grayCodeId : String) : bucket deviceId grayCodeId < 100 :=
  Nat.mod_lt _ (by decide)

end ConfigDelivery.Targeting

namespace ConfigDelivery.Delivery

open ConfigDelivery.Targeting (bucket_lt isGrayHit)

/-! ## Devices that are to get the gray code version -/

/-- A device that gets the gray code still does at a higher percentage. -/
theorem isGrayHit_of_le (config : Config) {before after : UInt32} (raised : before ≤ after)
    {deviceId : String} (hit : isGrayHit { config with percentage := before } deviceId = true) :
    isGrayHit { config with percentage := after } deviceId = true := by
  rw [Components.isGrayHit_iff] at hit ⊢
  exact Nat.lt_of_lt_of_le hit (UInt32.le_iff_toNat_le.mp raised)

/-- At zero percent no device gets the gray code. -/
theorem isGrayHit_zero (config : Config) (deviceId : String) :
    isGrayHit { config with percentage := 0 } deviceId = false := by
  rw [Bool.eq_false_iff, ne_eq, Components.isGrayHit_iff]
  exact Nat.not_lt_zero _

/-- From a hundred percent on every device gets the gray code. -/
theorem isGrayHit_of_hundred_le (config : Config) {percentage : UInt32}
    (full : 100 ≤ percentage) (deviceId : String) :
    isGrayHit { config with percentage } deviceId = true := by
  rw [Components.isGrayHit_iff]
  exact Nat.lt_of_lt_of_le (bucket_lt ..) (UInt32.le_iff_toNat_le.mp full)

/-! ## The choice as the percentage is raised -/

/-- The release is chosen where the gray code is not. -/
theorem chosenCode_eq (config : Config) (deviceId : String)
    (gray released : Except Failure (Option Code)) :
    chosenCode config deviceId gray released =
      match grayChoice? config deviceId gray with
      | some code => .ok code
      | none => releasedCode config.releasedCode released := rfl

/-- The gray code is chosen for a device that is to get it, if it works. -/
theorem grayChoice?_eq (config : Config) (deviceId : String)
    (gray : Except Failure (Option Code)) :
    grayChoice? config deviceId gray =
      if isGrayHit config deviceId then workingCode? gray else none := by
  simp only [grayChoice?, Components.isGrayHit_iff]

/-- A device that gets the gray code version still gets it at a higher percentage. -/
theorem grayChoice?_of_le (config : Config) {before after : UInt32} (raised : before ≤ after)
    {deviceId : String} {gray : Except Failure (Option Code)} {code : Code}
    (chosen : grayChoice? { config with percentage := before } deviceId gray = some code) :
    grayChoice? { config with percentage := after } deviceId gray = some code := by
  rw [grayChoice?_eq] at chosen ⊢
  split at chosen
  · rename_i hit
    rwa [if_pos (isGrayHit_of_le config raised hit)]
  · cases chosen

/-- A device that is not to get the gray code version at a percentage gets it at no lower one. -/
theorem grayChoice?_eq_none (config : Config) {before after : UInt32} (raised : before ≤ after)
    {deviceId : String} (gray : Except Failure (Option Code))
    (missed : isGrayHit { config with percentage := after } deviceId = false) :
    grayChoice? { config with percentage := before } deviceId gray = none ∧
    grayChoice? { config with percentage := after } deviceId gray = none := by
  have missedBefore : ¬isGrayHit { config with percentage := before } deviceId = true := by
    intro hit
    rw [isGrayHit_of_le config raised hit] at missed
    cases missed
  simp only [grayChoice?_eq, if_neg missedBefore, missed, Bool.false_eq_true, if_false, and_self]

variable {Stored Kept Engines : Type}

namespace Components

/-- The code version that a request comes to, and whether as the gray one: the first steps of
serving it. -/
def select (components : Components Stored Kept Engines) (configId : String)
    (request : ConfigRequest) : Action Stored Kept Engines Targeting.Selection := do
  let config ← components.activeConfig configId request.cached
  components.chooseCode config request.requestMeta.deviceId request.cached

/-- Two worlds that differ, as far as a request without cached records can see, in the percentage
of one configuration alone. -/
structure Raises (components : Components Stored Kept Engines) (configId : String)
    (config : Config) (before after : UInt32) (lower upper : World Stored Kept Engines) :
    Prop where
  raised : before ≤ after
  atLower : components.store.getConfig lower.stored configId
    = .ok (some { config with percentage := before })
  atUpper : components.store.getConfig upper.stored configId
    = .ok (some { config with percentage := after })
  codes : components.store.getCode upper.stored = components.store.getCode lower.stored
  engines : upper.engines = lower.engines
  now : upper.now = lower.now

variable (components : Components Stored Kept Engines)

/-- Without the cache, the code version is selected from what is stored. -/
theorem select_eq (world : World Stored Kept Engines) (configId : String)
    {request : ConfigRequest} (uncached : request.cached = false) :
    ((components.select configId request).perform world).1 = (do
      let config ← servedConfig configId (components.store.getConfig world.stored configId)
      let gray := components.store.getCode world.stored config.grayReleaseCode
      let released := components.store.getCode world.stored config.releasedCode
      let deviceId := request.requestMeta.deviceId
      (chosenCode config deviceId gray released).map
        (.mk · (grayChoice? config deviceId gray).isSome)) := by
  have finds := components.finds_uncached world
  obtain ⟨found, seen, isFound, -, activated⟩ :=
    @Finds.activeConfig_eq _ _ _ _ _ _ _ [] world.kept _ _ finds trivial configId
  subst isFound
  rw [select, Action.perform_bind, uncached, activated]
  cases servedConfig configId (components.store.getConfig world.stored configId) with
  | error refusal => rfl
  | ok config =>
    obtain ⟨gray, released, after, isGray, isReleased, -, chosen⟩ :=
      @Finds.chooseCode_eq _ _ _ _ _ _ _ [] seen _ _ finds trivial config
        request.requestMeta.deviceId
    subst isGray isReleased
    dsimp only
    rw [chosen]
    rfl

/-- An answer names the code version of the script that was decided on. -/
theorem follow_eq_ok {cached : Bool} {world : World Stored Kept Engines}
    {decision : Except DeliveryError ServedScript} {response : ConfigResponse}
    (answered : (components.follow cached world decision).1 = .ok response) :
    ∃ script, decision = .ok script ∧ response.codeId = script.code.codeId := by
  cases decision with
  | error refusal => cases answered
  | ok script => exact ⟨script, rfl, ServedScript.codeId_of_answer answered⟩

/-- What is served is the code version that the request comes to, and a request that comes to none
is refused for the same reason. -/
theorem serve_of_select (world : World Stored Kept Engines) (configId : String)
    {request : ConfigRequest} (uncached : request.cached = false) :
    match ((components.select configId request).perform world).1 with
    | .error refusal => ((components.serve configId request).perform world).1 = .error refusal
    | .ok selection => ∀ response,
      ((components.serve configId request).perform world).1 = .ok response →
        response.codeId = selection.code.codeId := by
  obtain ⟨_, _, served⟩ :=
    (components.finds_uncached world).serve_eq_of trivial configId uncached
  rw [components.select_eq world configId uncached, served, Findings.decision]
  dsimp only [Findings.of]
  cases servedConfig configId (components.store.getConfig world.stored configId) with
  | error refusal => rfl
  | ok config =>
    simp only [ok_bind]
    cases chosenCode config request.requestMeta.deviceId
      (components.store.getCode world.stored config.grayReleaseCode)
      (components.store.getCode world.stored config.releasedCode) with
    | error refusal => rfl
    | ok code =>
      intro response answered
      rw [ok_bind] at answered
      obtain ⟨script, decided, ofScript⟩ := components.follow_eq_ok answered
      obtain ⟨_, _, decided⟩ := bind_eq_ok decided
      obtain ⟨_, _, decided⟩ := bind_eq_ok decided
      obtain ⟨_, _, decided⟩ := bind_eq_ok decided
      cases decided
      exact ofScript

/-- A request comes to a code version as the gray one when that is the gray choice of an active
configuration. -/
theorem select_gray_iff (world : World Stored Kept Engines) {configId : String}
    {request : ConfigRequest} (uncached : request.cached = false) {config : Config}
    (fetched : components.store.getConfig world.stored configId = .ok (some config))
    (code : Code) :
    ((components.select configId request).perform world).1 = .ok ⟨code, true⟩ ↔
      config.status = "valid" ∧
      grayChoice? config request.requestMeta.deviceId
        (components.store.getCode world.stored config.grayReleaseCode) = some code := by
  rw [components.select_eq world configId uncached, fetched]
  by_cases active : config.status = "valid"
  · rw [servedConfig, if_pos active, ok_bind]
    simp only [chosenCode_eq, active, true_and]
    cases grayChoice? config request.requestMeta.deviceId
      (components.store.getCode world.stored config.grayReleaseCode) with
    | some chosen => simp [Except.map]
    | none =>
      cases releasedCode config.releasedCode
        (components.store.getCode world.stored config.releasedCode) <;> simp [Except.map]
  · rw [servedConfig, if_neg active]
    simp only [active, false_and, iff_false]
    intro selected
    cases selected

section Exchanged

variable {components} {configId : String} {config other : Config}
  {world otherWorld : World Stored Kept Engines}

/-- Two worlds that differ, as far as a request without cached records can see, in one configuration
alone. -/
structure Exchanges (components : Components Stored Kept Engines) (configId : String)
    (config other : Config) (world otherWorld : World Stored Kept Engines) : Prop where
  here : components.store.getConfig world.stored configId = .ok (some config)
  there : components.store.getConfig otherWorld.stored configId = .ok (some other)
  codes : components.store.getCode otherWorld.stored = components.store.getCode world.stored
  engines : otherWorld.engines = world.engines
  now : otherWorld.now = world.now

/-- Once the choice is the same, so is the answer. -/
theorem Exchanges.serve_eq
    (exchanges : components.Exchanges configId config other world otherWorld)
    {request : ConfigRequest} (uncached : request.cached = false)
    (sameStatus : other.status = config.status)
    (chosen :
      chosenCode other request.requestMeta.deviceId
          (components.store.getCode world.stored other.grayReleaseCode)
          (components.store.getCode world.stored other.releasedCode)
        = chosenCode config request.requestMeta.deviceId
          (components.store.getCode world.stored config.grayReleaseCode)
          (components.store.getCode world.stored config.releasedCode)) :
    ((components.serve configId request).perform otherWorld).1
      = ((components.serve configId request).perform world).1 := by
  obtain ⟨_, _, served⟩ :=
    (components.finds_uncached world).serve_eq_of trivial configId uncached
  obtain ⟨_, _, otherServed⟩ :=
    (components.finds_uncached otherWorld).serve_eq_of trivial configId uncached
  rw [served, otherServed, Findings.decision, Findings.decision]
  dsimp only [Findings.of]
  rw [exchanges.here, exchanges.there, exchanges.codes]
  by_cases active : config.status = "valid"
  · simp only [servedConfig, sameStatus, if_pos active, ok_bind]
    rw [chosen]
    -- from here on only the configuration that the script carries along differs
    cases chosenCode config request.requestMeta.deviceId
      (components.store.getCode world.stored config.grayReleaseCode)
      (components.store.getCode world.stored config.releasedCode) with
    | error refusal => rfl
    | ok code =>
      simp only [ok_bind]
      cases permission code request.requestMeta with
      | error refusal => rfl
      | ok permitted =>
        cases fittingParams code request.params with
        | error refusal => rfl
        | ok params =>
          cases codeLanguage code with
          | error refusal => rfl
          | ok language =>
            simp only [ok_bind, pure, Except.pure, follow, exchanges.engines, exchanges.now]
            rfl
  · simp only [servedConfig, sameStatus, if_neg active]
    rfl

end Exchanged

section Raised

variable {components} {configId : String} {config : Config} {before after : UInt32}
  {lower upper : World Stored Kept Engines}

/-- Where both percentages choose one code version, both stores answer alike. -/
theorem Raises.serve_eq (raises : components.Raises configId config before after lower upper)
    {request : ConfigRequest} (uncached : request.cached = false)
    (chosen :
      let deviceId := request.requestMeta.deviceId
      let gray := components.store.getCode lower.stored config.grayReleaseCode
      grayChoice? { config with percentage := after } deviceId gray
        = grayChoice? { config with percentage := before } deviceId gray) :
    ((components.serve configId request).perform upper).1
      = ((components.serve configId request).perform lower).1 := by
  have exchanges : components.Exchanges configId { config with percentage := before }
      { config with percentage := after } lower upper :=
    ⟨raises.atLower, raises.atUpper, raises.codes, raises.engines, raises.now⟩
  refine exchanges.serve_eq uncached rfl ?_
  dsimp only
  rw [chosenCode_eq, chosenCode_eq, chosen]

/-- Raising the percentage of a configuration takes no device off the gray code version: one that
comes to it still does, and gets the same answer. Nor does it change anything for a device that is
not to get the gray code version afterwards. No device is to get it at 0, and every device from 100
on. The code version that a request comes to is the one that it is answered from, and a request that
comes to none is refused for the reason that there is none. -/
theorem serve_raised (raises : components.Raises configId config before after lower upper)
    (request : ConfigRequest) (uncached : request.cached = false) :
    let select world := ((components.select configId request).perform world).1
    let answer world := ((components.serve configId request).perform world).1
    (∀ code, select lower = .ok ⟨code, true⟩ →
      select upper = .ok ⟨code, true⟩ ∧ answer upper = answer lower) ∧
    (isGrayHit { config with percentage := after } request.requestMeta.deviceId = false →
      answer upper = answer lower) ∧
    (∀ deviceId, isGrayHit { config with percentage := 0 } deviceId = false ∧
      ∀ percentage : UInt32, 100 ≤ percentage →
        isGrayHit { config with percentage } deviceId = true) ∧
    ∀ world, match select world with
      | .error refusal => answer world = .error refusal
      | .ok selection => ∀ response, answer world = .ok response →
          response.codeId = selection.code.codeId := by
  refine ⟨?_, ?_, ?_, fun world => components.serve_of_select world configId uncached⟩
  · intro code selected
    obtain ⟨active, chosen⟩ :=
      (components.select_gray_iff lower uncached raises.atLower code).mp selected
    have still := grayChoice?_of_le config raises.raised chosen
    refine ⟨(components.select_gray_iff upper uncached raises.atUpper code).mpr ⟨active, ?_⟩,
      raises.serve_eq uncached (still.trans chosen.symm)⟩
    rw [raises.codes]
    exact still
  · intro missed
    obtain ⟨atLower, atUpper⟩ := grayChoice?_eq_none config raises.raised
      (components.store.getCode lower.stored config.grayReleaseCode) missed
    exact raises.serve_eq uncached (atUpper.trans atLower.symm)
  · intro deviceId
    exact ⟨isGrayHit_zero config deviceId, fun _ full =>
      isGrayHit_of_hundred_le config full deviceId⟩

end Raised

end Components

/-! ## A rollout that is raised from five to twenty percent -/

namespace RaisedRollout

/-- A configuration that is out with a gray code version for some devices. -/
def config : Config :=
  { configId := "app", releasedCode := "stable", grayReleaseCode := "next", status := "valid" }

/-- The gray code version. -/
def next : Code := { codeId := "next", lang := "starlark", content := "return 2" }

/-- What is in memory at a percentage. -/
def world (percentage : UInt32) : World Store.MemoryStore Unit Unit where
  stored := { configs := ⟨[("app", { config with percentage })]⟩, codes := ⟨[("next", next)]⟩ }
  kept := ()
  engines := ()
  now := 0

/-- A request of a device in the third bucket. -/
def request : ConfigRequest := { requestMeta := { deviceId := "tablet-1" } }

/-- The device gets the gray code version at five percent, and so it does at twenty. -/
theorem serve_raised_app :
    BrokenRollout.components.Raises "app" config 5 20 (world 5) (world 20) ∧
    request.cached = false ∧
    ((BrokenRollout.components.select "app" request).perform (world 5)).1 = .ok ⟨next, true⟩ ∧
    ((BrokenRollout.components.serve "app" request).perform (world 20)).1
      = ((BrokenRollout.components.serve "app" request).perform (world 5)).1 := by
  have raises : BrokenRollout.components.Raises "app" config 5 20 (world 5) (world 20) :=
    ⟨by decide, rfl, rfl, rfl, rfl, rfl⟩
  have selected :
      ((BrokenRollout.components.select "app" request).perform (world 5)).1
        = .ok ⟨next, true⟩ := by
    refine (BrokenRollout.components.select_gray_iff (world 5) rfl raises.atLower next).mpr
      ⟨rfl, ?_⟩
    rw [grayChoice?_eq, if_pos (by decide +kernel)]
    rfl
  have served := Components.serve_raised raises request rfl
  exact ⟨raises, rfl, selected, (served.1 next selected).2⟩

end RaisedRollout

end ConfigDelivery.Delivery
