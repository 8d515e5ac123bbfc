import ConfigDelivery.Proofs.Delivery.Rollout
import ConfigDelivery.Proofs.Store.Laws
/-!
# A gray code version that cannot be used

A request without cached records whose gray code version is missing, unreadable or broken is
answered as without a rollout. One of a device that gets the gray code version is answered as if
that had been released.
-/

namespace ConfigDelivery.Delivery

open ConfigDelivery.Targeting (FallsBack fallsBack isGrayHit)

/-! ## The choice from the store -/

section Choice

variable (config : Config) (deviceId : String) {gray : Except Failure (Option Code)}
  (released : Except Failure (Option Code))

/-- At a percentage of zero the release is chosen. -/
theorem chosenCode_zero (gray : Except Failure (Option Code)) :
    chosenCode { config with percentage := 0 } deviceId gray released
      = releasedCode config.releasedCode released := by
  rw [chosenCode_eq, grayChoice?_eq, isGrayHit_zero]
  rfl

/-- A gray code version that is missing, unreadable or broken gives way. -/
theorem chosenCode_of_unusable (unusable : ∀ code, gray = .ok (some code) → code.isBroken = true) :
    chosenCode config deviceId gray released = releasedCode config.releasedCode released := by
  have gaveWay : workingCode? gray = none := by
    rcases gray with failure | _ | code
    · rfl
    · rfl
    · rw [workingCode?, if_pos (unusable code rfl)]
  rw [chosenCode_eq, grayChoice?_eq, gaveWay, ite_self]

/-- On a hit, a gray code version that can be used is chosen. -/
theorem chosenCode_of_usable (hit : isGrayHit config deviceId = true) {code : Code}
    (found : gray = .ok (some code)) (works : code.isBroken = false) :
    chosenCode config deviceId gray released = .ok code := by
  rw [chosenCode_eq, grayChoice?_eq, if_pos hit, found, workingCode?, works]
  rfl

end Choice

namespace Components

variable {Stored Kept Engines : Type}

/-- A gray code version that cannot be used degrades to the released one and does nothing else: the
choice falls back for every resolver, and a request without cached records is answered as without a
rollout. A gray code version that a device gets is answered as if it had been released. -/
theorem rollout_falls_back (components : Components Stored Kept Engines) (configId : String)
    (config : Config) (world otherWorld : World Stored Kept Engines) (request : ConfigRequest)
    (uncached : request.cached = false) :
    let deviceId := request.requestMeta.deviceId
    let gray := components.store.getCode world.stored config.grayReleaseCode
    let answer world := ((components.serve configId request).perform world).1
    (∀ (State Fault : Type) (deviceId : String)
      (resolve : String → StateM State (Except Fault Code)) (state : State),
      FallsBack config deviceId resolve state) ∧
    (components.Exchanges configId config { config with percentage := 0 } world otherWorld →
      (∀ code, gray = .ok (some code) → code.isBroken = true) → answer world = answer otherWorld) ∧
    (components.Exchanges configId config
        { config with releasedCode := config.grayReleaseCode, percentage := 0 } world otherWorld →
      isGrayHit config deviceId = true →
      ∀ code, gray = .ok (some code) → code.isBroken = false →
        answer world = answer otherWorld) := by
  refine ⟨fun _ _ => fallsBack config, fun exchanges unusable => ?_,
    fun exchanges hit code found works => ?_⟩
  · refine (exchanges.serve_eq uncached rfl ?_).symm
    rw [chosenCode_zero, chosenCode_of_unusable config _ _ unusable]
  · refine (exchanges.serve_eq uncached rfl ?_).symm
    have released := chosenCode_zero { config with releasedCode := config.grayReleaseCode }
    rw [released, chosenCode_of_usable config _ _ hit found works]
    dsimp only
    rw [found]
    rfl

end Components

/-! ## A rollout of a damaged code version -/

namespace DamagedRollout

/-- A configuration that is out with a gray code version for every device. -/
def config : Config := { RaisedRollout.config with percentage := 100 }

/-- Both code versions in relational tables. -/
def written : Store.Tables :=
  (Store.Tables.empty.putCode BrokenRollout.stable).putCode RaisedRollout.next

/-- The parameters of the gray code version are no JSON. -/
def damaged : Store.Tables := (written.overwrite "next" (.params "y")).2

/-- The components, without a cache of record texts. -/
def components : Components Store.Tables Unit Unit where
  store := Store.Tables.ops
  records := none
  engines := BrokenRollout.echo
  wallClock _ := .ok 0
  settings := {}

/-- A configuration is written into some tables. -/
def world (tables : Store.Tables) (config : Config) : World Store.Tables Unit Unit :=
  ⟨tables.putConfig config, (), (), 0⟩

theorem exchanges (tables : Store.Tables) {config other : Config} (isApp : config.configId = "app")
    (otherIsApp : other.configId = "app") :
    components.Exchanges "app" config other (world tables config) (world tables other) where
  here := (tables.getConfig_putConfig config "app").trans (if_pos isApp)
  there := (tables.getConfig_putConfig other "app").trans (if_pos otherIsApp)
  codes := rfl
  engines := rfl
  now := rfl

/-- The damaged code version is looked up and given up, and answered as without a rollout. Before it
was damaged, it was answered as if it had been released. -/
theorem rollout_falls_back_damaged :
    let answer world := ((components.serve "app" {}).perform world).1
    let missing (_ : String) : StateM Unit (Except Unit Code) := pure (.error ())
    ({} : ConfigRequest).cached = false ∧
    (Targeting.selectCode config "" (Targeting.asking missing) ([], ())).2.1 = ["next", "stable"] ∧
    answer (world damaged config) = answer (world damaged { config with percentage := 0 }) ∧
    answer (world written config)
      = answer (world written { config with releasedCode := "next", percentage := 0 }) := by
  have hit : isGrayHit config "" = true :=
    isGrayHit_of_hundred_le RaisedRollout.config (by decide) ""
  have asked : Targeting.asks config "" (.error () : Except Unit Code) = [.gray, .released] := by
    rw [Targeting.asks, if_pos hit, if_neg fun used => Bool.false_ne_true used.2]
    rfl
  have unreadable : Store.Tables.ops.getCode (world damaged config).stored "next"
      = .error ⟨"corrupt params for code next", ["expected value at line 1 column 1"]⟩ := by
    decide
  have found : Store.Tables.ops.getCode (world written config).stored "next"
      = .ok (some RaisedRollout.next) := by decide
  obtain ⟨falls, degrades, -⟩ := components.rollout_falls_back "app" config (world damaged config)
    (world damaged { config with percentage := 0 }) {} rfl
  obtain ⟨-, -, replaces⟩ := components.rollout_falls_back "app" config (world written config)
    (world written { config with releasedCode := "next", percentage := 0 }) {} rfl
  refine ⟨rfl, ?_, degrades (exchanges damaged rfl rfl) fun code same => ?_,
    replaces (exchanges written rfl rfl) hit _ found rfl⟩
  · rw [(falls Unit Unit "" _ ()).asked]
    exact congrArg (List.map (Targeting.Version.codeId config)) asked
  · cases same.symm.trans unreadable

end DamagedRollout

end ConfigDelivery.Delivery
