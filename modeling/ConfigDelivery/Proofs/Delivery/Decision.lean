import ConfigDelivery.Proofs.Delivery.Loading
import ConfigDelivery.Proofs.Params.Acceptance
import ConfigDelivery.Proofs.Targeting.Choice
import ConfigDelivery.Proofs.Targeting.Eligibility
import ConfigDelivery.Store.Memory
/-!
# What a request for a configuration comes to

The decision on a request is an order of gates over what look-ups find. Each gate refuses with an
error of its own, and a request that passes them all comes to a script. `serve` answers what the
decision says, whatever store, cache and engines it works on, and has no script run that the
decision does not come to.
-/

namespace ConfigDelivery.Delivery

open ConfigDelivery.Script (Language ScriptError)
open ConfigDelivery.Targeting (groupsFault? isEligible platformGroups)

/-- What look-ups find for a request: the record of the configuration, and for that configuration
its gray and its released code version. -/
structure Findings where
  config : Except Failure (Option Config)
  gray : Config → Except Failure (Option Code)
  released : Config → Except Failure (Option Code)

/-- A script that a request comes to. -/
structure ServedScript where
  config : Config
  code : Code
  language : Language
  params : Json.Members

/-- The record of a configuration, if it is served. -/
def servedConfig (configId : String) :
    Except Failure (Option Config) → Except DeliveryError Config
  | .error failure => .error (.internal failure.plain)
  | .ok none => .error (.input ("config record " ++ configId ++ " does not exist"))
  | .ok (some config) =>
    if config.status = "valid" then .ok config
    else .error (.forbidden "the config is not active")

/-- A gray code version that can be read, exists and works. -/
def workingCode? : Except Failure (Option Code) → Option Code
  | .ok (some code) => if code.isBroken then none else some code
  | _ => none

/-- A released code version, whether it works or not. -/
def releasedCode (codeId : String) : Except Failure (Option Code) → Except DeliveryError Code
  | .error failure => .error (.internal failure.full)
  | .ok none => .error (.internal (Store.codeMissing codeId).full)
  | .ok (some code) => .ok code

/-- The code version for a device: the gray one for the devices that are to get it, if it works,
and otherwise the released one. -/
def chosenCode (config : Config) (deviceId : String)
    (gray released : Except Failure (Option Code)) : Except DeliveryError Code :=
  let gray? :=
    if Targeting.bucket deviceId config.grayReleaseCode < config.percentage.toNat then
      workingCode? gray
    else none
  match gray? with
  | some code => .ok code
  | none => releasedCode config.releasedCode released

/-- The code version that a device gets as the gray one. -/
def grayChoice? (config : Config) (deviceId : String) (gray : Except Failure (Option Code)) :
    Option Code :=
  if Targeting.bucket deviceId config.grayReleaseCode < config.percentage.toNat then
    workingCode? gray
  else none

/-- A record that is looked up. -/
inductive LookUp where
  | config (id : String)
  | code (id : String)
  deriving DecidableEq, Repr

/-- The look-ups of code versions for a device: of the gray one for the devices that are to get it,
and of the released one unless the gray one works. -/
def codeLookUps (config : Config) (deviceId : String) (gray : Except Failure (Option Code)) :
    List LookUp :=
  if Targeting.bucket deviceId config.grayReleaseCode < config.percentage.toNat then
    match workingCode? gray with
    | some _ => [.code config.grayReleaseCode]
    | none => [.code config.grayReleaseCode, .code config.releasedCode]
  else [.code config.releasedCode]

/-- A code version works and is meant for a request. -/
def permission (code : Code) (request : RequestMeta) : Except DeliveryError Unit :=
  let groups := platformGroups code.rules request
  if code.isBroken then .error (.forbidden "the requested config is broken")
  else
    match groupsFault? groups with
    | some fault => .error (.internal ("code " ++ code.codeId ++ ": " ++ fault.message))
    | none =>
      if isEligible request groups then .ok ()
      else .error (.rejected "request rejected by targeting rules")

/-- The parameters that a code version gets, if those of the request fit its schema. -/
def fittingParams (code : Code) (params : Json.Members) : Except DeliveryError Json.Members :=
  match code.params.findSome? (paramFault? params) with
  | some (.unknownType name declared) =>
    .error (.internal
      ("code " ++ code.codeId ++ ": " ++ (ParamFault.unknownType name declared).message))
  | some fault => .error (.input ("invalid parameters: " ++ fault.message))
  | none => .ok (acceptedParams code.params params)

/-- The language of a code version. -/
def codeLanguage (code : Code) : Except DeliveryError Language :=
  match Language.read? code.lang with
  | some language => .ok language
  | none => .error (.input ("unsupported language: " ++ code.lang))

theorem ok_bind {Result Next : Type} (result : Result)
    (next : Result → Except DeliveryError Next) : (.ok result >>= next) = next result := rfl

/-- What a request for a configuration comes to: a refusal by the first gate that it fails, or a
script. -/
def Findings.decision (findings : Findings) (configId : String) (request : ConfigRequest) :
    Except DeliveryError ServedScript := do
  let config ← servedConfig configId findings.config
  let code ← chosenCode config request.requestMeta.deviceId (findings.gray config)
    (findings.released config)
  permission code request.requestMeta
  let params ← fittingParams code request.params
  let language ← codeLanguage code
  return ⟨config, code, language, params⟩

/-- The look-ups of a request, one after the other. -/
def Findings.lookUps (findings : Findings) (configId : String) (request : ConfigRequest) :
    List LookUp :=
  .config configId ::
    match servedConfig configId findings.config with
    | .error _ => []
    | .ok config => codeLookUps config request.requestMeta.deviceId (findings.gray config)

/-- What look-ups find that answer by the identifier alone. -/
def Findings.of (getConfig : String → Except Failure (Option Config))
    (getCode : String → Except Failure (Option Code)) (configId : String) : Findings where
  config := getConfig configId
  gray config := getCode config.grayReleaseCode
  released config := getCode config.releasedCode

/-- A decision that takes two steps is made if both are. -/
theorem bind_eq_ok {Result Next : Type} {decision : Except DeliveryError Result}
    {next : Result → Except DeliveryError Next} {outcome : Next}
    (done : (decision >>= next) = .ok outcome) :
    ∃ result, decision = .ok result ∧ next result = .ok outcome := by
  cases decision with
  | error refusal => cases done
  | ok result => exact ⟨result, rfl, done⟩

/-- A configuration that is served was found. -/
theorem servedConfig_eq_ok {configId : String} {found : Except Failure (Option Config)}
    {config : Config} (served : servedConfig configId found = .ok config) :
    found = .ok (some config) := by
  unfold servedConfig at served
  split at served
  · cases served
  · cases served
  · split at served <;> cases served
    rfl

/-- A code version that is chosen was found as the gray one or as the release. -/
theorem chosenCode_eq_ok {config : Config} {deviceId : String}
    {gray released : Except Failure (Option Code)} {code : Code}
    (chosen : chosenCode config deviceId gray released = .ok code) :
    gray = .ok (some code) ∨ released = .ok (some code) := by
  unfold chosenCode at chosen
  dsimp only at chosen
  split at chosen
  · rename_i picked working
    cases chosen
    split at working
    · unfold workingCode? at working
      split at working
      · split at working <;> cases working
        exact .inl rfl
      · cases working
    · cases working
  · unfold releasedCode at chosen
    split at chosen <;> cases chosen
    exact .inr rfl

/-- A broken code version is not permitted. -/
theorem permission_eq_ok {code : Code} {request : RequestMeta}
    (permitted : permission code request = .ok ()) : code.isBroken = false := by
  unfold permission at permitted
  dsimp only at permitted
  split at permitted
  · cases permitted
  · rename_i works
    exact Bool.eq_false_iff.mpr works

/-- A script that a request comes to is one of a code version that was found and works. -/
theorem Findings.decision_eq_ok {findings : Findings} {configId : String}
    {request : ConfigRequest} {script : ServedScript}
    (decided : findings.decision configId request = .ok script) :
    servedConfig configId findings.config = .ok script.config ∧
    script.code.isBroken = false ∧
    (findings.gray script.config = .ok (some script.code)
      ∨ findings.released script.config = .ok (some script.code)) := by
  unfold Findings.decision at decided
  obtain ⟨config, served, decided⟩ := bind_eq_ok decided
  obtain ⟨code, chosen, decided⟩ := bind_eq_ok decided
  obtain ⟨permitted, works, decided⟩ := bind_eq_ok decided
  obtain ⟨params, _, decided⟩ := bind_eq_ok decided
  obtain ⟨language, _, decided⟩ := bind_eq_ok decided
  cases decided
  exact ⟨served, permission_eq_ok works, chosenCode_eq_ok chosen⟩

namespace ServedScript

/-- What an engine is asked for a script; its program is kept for requests that accept cached
records. -/
def request (script : ServedScript) (cached : Bool) : Engine.Request where
  language := script.language
  cacheId := if cached then programId script.config.configId script.code.codeId else ""
  source := script.code.content
  params := (Json.Value.object script.params).render

/-- What the outcome of a script is answered with. -/
def answer (script : ServedScript) : Except ScriptError String → Except DeliveryError ConfigResponse
  | .ok result => .ok ⟨result, script.code.codeId⟩
  | .error error => .error (.execution ("execution failed: " ++ error.message))

/-- A run is answered with its result and the version that gave it, or refused with its error. -/
theorem answer_eq (script : ServedScript) (outcome : Except ScriptError String) :
    script.answer outcome =
      match outcome with
      | .ok result => .ok ⟨result, script.code.codeId⟩
      | .error error => .error (.execution ("execution failed: " ++ error.message)) := by
  cases outcome <;> rfl

/-- What is answered with a result is answered with the code version of the script. -/
theorem codeId_of_answer {script : ServedScript} {outcome : Except ScriptError String}
    {response : ConfigResponse} (answered : script.answer outcome = .ok response) :
    response.codeId = script.code.codeId := by
  cases outcome with
  | error error => cases answered
  | ok result =>
    cases answered
    rfl

end ServedScript

variable {Stored Kept Engines : Type}

/-- What look-ups in a store find. -/
def Findings.inStore (store : Store.RecordStoreOps Stored) (stored : Stored)
    (configId : String) : Findings :=
  .of (store.getConfig stored) (store.getCode stored) configId

namespace Components

variable (components : Components Stored Kept Engines)

/-- Answer a decision: a refusal as it is, and a script after a run of it. -/
def follow (cached : Bool) (world : World Stored Kept Engines) :
    Except DeliveryError ServedScript →
      Except DeliveryError ConfigResponse × World Stored Kept Engines
  | .error refusal => (.error refusal, world)
  | .ok script =>
    let response := components.engines.run world.engines world.now (script.request cached)
    (script.answer response.outcome,
      { world with engines := response.state, now := response.now })

/-- What look-ups find, as long as a property of the kept texts and of the look-ups so far lasts,
and that they make it last. -/
structure Finds (cached : Bool) (world : World Stored Kept Engines)
    (Lasting : List LookUp → Kept → Prop)
    (ConfigFound : String → Except Failure (Option Config) → Prop)
    (CodeFound : String → Except Failure (Option Code) → Prop) : Prop where
  config : ∀ {asked kept} id, Lasting asked kept →
    ∃ found after, ConfigFound id found ∧ Lasting (asked ++ [.config id]) after ∧
      components.loadRecord components.configs cached id { world with kept }
        = (found, { world with kept := after })
  code : ∀ {asked kept} id, Lasting asked kept →
    ∃ found after, CodeFound id found ∧ Lasting (asked ++ [.code id]) after ∧
      components.loadRecord components.codes cached id { world with kept }
        = (found, { world with kept := after })

section Gates

variable {components} {cached : Bool} {world : World Stored Kept Engines}
  {Lasting : List LookUp → Kept → Prop} {asked : List LookUp} {kept : Kept}
  {ConfigFound : String → Except Failure (Option Config) → Prop}
  {CodeFound : String → Except Failure (Option Code) → Prop}

/-- What is known of the records that are found may be weakened. -/
theorem Finds.weaken {ConfigFound' : String → Except Failure (Option Config) → Prop}
    {CodeFound' : String → Except Failure (Option Code) → Prop}
    (finds : components.Finds cached world Lasting ConfigFound CodeFound)
    (configs : ∀ {id found}, ConfigFound id found → ConfigFound' id found)
    (codes : ∀ {id found}, CodeFound id found → CodeFound' id found) :
    components.Finds cached world Lasting ConfigFound' CodeFound' where
  config id lasting := by
    obtain ⟨found, after, isFound, lasting, loaded⟩ := finds.config id lasting
    exact ⟨found, after, configs isFound, lasting, loaded⟩
  code id lasting := by
    obtain ⟨found, after, isFound, lasting, loaded⟩ := finds.code id lasting
    exact ⟨found, after, codes isFound, lasting, loaded⟩

/-- The configuration that is served is the one that is found, and it alone was asked for. -/
theorem Finds.activeConfig_eq
    (finds : components.Finds cached world Lasting ConfigFound CodeFound)
    (lasting : Lasting asked kept) (configId : String) :
    ∃ found after, ConfigFound configId found ∧ Lasting (asked ++ [.config configId]) after ∧
      (components.activeConfig configId cached).perform { world with kept }
        = (servedConfig configId found, { world with kept := after }) := by
  obtain ⟨found, after, isFound, lasting, loaded⟩ := finds.config configId lasting
  refine ⟨found, after, isFound, lasting, ?_⟩
  rw [activeConfig, Action.perform_lift_bind, loaded]
  rcases found with failure | _ | config
  · rfl
  · rfl
  · dsimp only [servedConfig]
    rw [Action.perform_bind, Action.perform_conclude, requireActive]
    by_cases active : config.status = "valid" <;>
      simp [Config.isActive, Config.activeStatus, active]

/-- The code version that a look-up finds, which must exist. -/
def existing (codeId : String) : Except Failure (Option Code) → Except Failure Code
  | .error failure => .error failure
  | .ok none => .error (Store.codeMissing codeId)
  | .ok (some code) => .ok code

/-- A code version is resolved to what is found, and it alone was asked for. -/
theorem Finds.resolveCode_eq
    (finds : components.Finds cached world Lasting ConfigFound CodeFound)
    (lasting : Lasting asked kept) (codeId : String) :
    ∃ found after, CodeFound codeId found ∧ Lasting (asked ++ [.code codeId]) after ∧
      components.resolveCode cached codeId { world with kept }
        = (existing codeId found, { world with kept := after }) := by
  obtain ⟨found, after, isFound, lasting, loaded⟩ := finds.code codeId lasting
  refine ⟨found, after, isFound, lasting, ?_⟩
  simp only [resolveCode, bind, StateT.bind, loaded]
  rcases found with failure | _ | code <;> rfl

/-- A device gets the gray code exactly if its bucket is below the percentage. -/
theorem isGrayHit_iff (config : Config) (deviceId : String) :
    Targeting.isGrayHit config deviceId = true ↔
      Targeting.bucket deviceId config.grayReleaseCode < config.percentage.toNat := by
  simp only [Targeting.isGrayHit, Bool.and_eq_true, decide_eq_true_eq]
  omega

/-- A code version can be used if it exists and works. -/
theorem usable?_existing (codeId : String) (found : Except Failure (Option Code)) :
    Targeting.usable? (existing codeId found) = workingCode? found := by
  rcases found with failure | _ | code <;> rfl

/-- The release is chosen as it is found, and it alone was asked for. -/
theorem Finds.releaseChoice_eq
    (finds : components.Finds cached world Lasting ConfigFound CodeFound)
    (lasting : Lasting asked kept) (config : Config) :
    ∃ released after, CodeFound config.releasedCode released ∧
      Lasting (asked ++ [.code config.releasedCode]) after ∧
      Targeting.releaseChoice config (components.resolveCode cached) { world with kept }
        = ((existing config.releasedCode released).map (.mk · false),
          { world with kept := after }) := by
  obtain ⟨released, after, isFound, lasting, resolved⟩ :=
    finds.resolveCode_eq lasting config.releasedCode
  refine ⟨released, after, isFound, lasting, ?_⟩
  rw [Targeting.releaseChoice, resolved]

/-- The choice depends on the gray code and the release that are found, and asks for the release
only where the gray code is not taken. -/
theorem Finds.selectCode_eq
    (finds : components.Finds cached world Lasting ConfigFound CodeFound)
    (lasting : Lasting asked kept) (config : Config) (deviceId : String) :
    ∃ gray released after, CodeFound config.grayReleaseCode gray ∧
      CodeFound config.releasedCode released ∧
      Lasting (asked ++ codeLookUps config deviceId gray) after ∧
      Targeting.selectCode config deviceId (components.resolveCode cached) { world with kept }
        = (match if Targeting.isGrayHit config deviceId then workingCode? gray else none with
          | some code => .ok ⟨code, true⟩
          | none => (existing config.releasedCode released).map (.mk · false),
          { world with kept := after }) := by
  obtain ⟨gray, seen, isGray, lastingSeen, resolved⟩ :=
    finds.resolveCode_eq lasting config.grayReleaseCode
  rw [Targeting.selectCode_eq, resolved, usable?_existing]
  by_cases hit : Targeting.isGrayHit config deviceId = true
  · have bucket := (isGrayHit_iff config deviceId).mp hit
    obtain ⟨released, after, isReleased, lasting, released_eq⟩ :=
      finds.releaseChoice_eq lastingSeen config
    rw [List.append_assoc, List.singleton_append] at lasting
    cases working : workingCode? gray with
    | some code =>
      refine ⟨gray, released, seen, isGray, isReleased, ?_, ?_⟩
      · simpa only [codeLookUps, if_pos bucket, working] using lastingSeen
      · simp only [if_pos hit, working]
    | none =>
      refine ⟨gray, released, after, isGray, isReleased, ?_, ?_⟩
      · simpa only [codeLookUps, if_pos bucket, working] using lasting
      · simp only [if_pos hit, working, released_eq]
  · have bucket := mt (isGrayHit_iff config deviceId).mpr hit
    obtain ⟨released, after, isReleased, lasting, released_eq⟩ :=
      finds.releaseChoice_eq lasting config
    refine ⟨gray, released, after, isGray, isReleased, ?_, ?_⟩
    · simpa only [codeLookUps, if_neg bucket] using lasting
    · simp only [if_neg hit, released_eq]

/-- The code version for a device is the one that the findings decide. -/
theorem Finds.chooseCode_eq
    (finds : components.Finds cached world Lasting ConfigFound CodeFound)
    (lasting : Lasting asked kept) (config : Config) (deviceId : String) :
    ∃ gray released after, CodeFound config.grayReleaseCode gray ∧
      CodeFound config.releasedCode released ∧
      Lasting (asked ++ codeLookUps config deviceId gray) after ∧
      (components.chooseCode config deviceId cached).perform { world with kept }
        = ((chosenCode config deviceId gray released).map
            (.mk · (grayChoice? config deviceId gray).isSome),
          { world with kept := after }) := by
  obtain ⟨gray, released, after, isFound, isReleased, lasting, selected⟩ :=
    finds.selectCode_eq lasting config deviceId
  refine ⟨gray, released, after, isFound, isReleased, lasting, ?_⟩
  rw [chooseCode, Action.perform_lift_bind, selected, chosenCode, grayChoice?]
  simp only [isGrayHit_iff]
  cases if Targeting.bucket deviceId config.grayReleaseCode < config.percentage.toNat then
    workingCode? gray else none with
  | some code => rfl
  | none => rcases released with failure | _ | code <;> rfl

/-- A request is permitted in the order of the checks: broken, required language, platform rules. -/
theorem permit_eq (code : Code) (request : RequestMeta) :
    permit code request = permission code request := by
  rw [permit, permission, Targeting.evaluate_eq]
  by_cases broken : code.isBroken = true
  · simp only [if_pos broken]
  · simp only [if_neg broken]
    cases groupsFault? (platformGroups code.rules request) with
    | some fault => rfl
    | none =>
      cases isEligible request (platformGroups code.rules request) <;> rfl

/-- Parameters are fitted before the language is looked at. -/
theorem prepare_eq (code : Code) (params : Json.Members) :
    prepare code params = (do
      let params ← fittingParams code params
      let language ← codeLanguage code
      return ⟨language, (Json.Value.object params).render⟩) := by
  rw [prepare, acceptParams, validate_eq, fittingParams, readLanguage, Language.read, codeLanguage]
  rcases code.params.findSome? (paramFault? params) with _ | fault | fault | fault
  · cases Language.read? code.lang <;> rfl
  · rfl
  · rfl
  · rfl

/-- A script that is executed changes nothing but the workers and the time. -/
theorem execute_eq (request : Engine.Request) (world : World Stored Kept Engines) :
    components.execute request world =
      let response := components.engines.run world.engines world.now request
      (response.outcome, { world with engines := response.state, now := response.now }) := rfl

/-- `serve` answers the decision on what its look-ups find. -/
theorem Finds.serve_eq (finds : components.Finds cached world Lasting ConfigFound CodeFound)
    (lasting : Lasting [] world.kept) (configId : String) {request : ConfigRequest}
    (accepts : request.cached = cached) :
    ∃ (findings : Findings) (after : Kept), ConfigFound configId findings.config ∧
      (∀ config, servedConfig configId findings.config = .ok config →
        CodeFound config.grayReleaseCode (findings.gray config) ∧
        CodeFound config.releasedCode (findings.released config)) ∧
      Lasting (findings.lookUps configId request) after ∧
      (components.serve configId request).perform world
        = components.follow cached { world with kept := after }
          (findings.decision configId request) := by
  subst accepts
  obtain ⟨found, loaded, isFound, lasting, activated⟩ := finds.activeConfig_eq lasting configId
  rw [serve, Action.perform_bind, activated]
  cases served : servedConfig configId found with
  | error refusal =>
    refine ⟨⟨found, fun _ => .ok none, fun _ => .ok none⟩, loaded, isFound, ?_, ?_, ?_⟩
    · intro config same
      rw [served] at same
      cases same
    · rw [Findings.lookUps, served]
      exact lasting
    · rw [Findings.decision, served]
      rfl
  | ok config =>
    obtain ⟨gray, released, after, grayFound, releasedFound, lasting, chosen⟩ :=
      finds.chooseCode_eq lasting config request.requestMeta.deviceId
    refine ⟨⟨found, fun _ => gray, fun _ => released⟩, after, isFound, ?_, ?_, ?_⟩
    · intro other same
      obtain rfl : config = other := Except.ok.inj (served.symm.trans same)
      exact ⟨grayFound, releasedFound⟩
    · rw [Findings.lookUps, served]
      exact lasting
    rw [Findings.decision, served, ok_bind]
    dsimp only
    rw [Action.perform_bind, chosen]
    cases chosenCode config request.requestMeta.deviceId gray released with
    | error refusal => rfl
    | ok code =>
      rw [ok_bind]
      dsimp only [Except.map]
      rw [Action.perform_bind, Action.perform_conclude, permit_eq]
      cases permission code request.requestMeta with
      | error refusal => rfl
      | ok permitted =>
        rw [ok_bind]
        dsimp only
        rw [Action.perform_bind, Action.perform_conclude, prepare_eq]
        cases fittingParams code request.params with
        | error refusal => rfl
        | ok params =>
          rw [ok_bind, ok_bind]
          cases codeLanguage code with
          | error refusal => rfl
          | ok language =>
            rw [ok_bind, ok_bind]
            dsimp only [pure, Except.pure]
            rw [Action.perform_lift_bind, execute_eq, follow, ServedScript.request]
            dsimp only
            split <;> rename_i ran <;> rw [ran] <;> rfl

/-- `serve` answers the decision on what look-ups by the identifier alone find. -/
theorem Finds.serve_eq_of {getConfig : String → Except Failure (Option Config)}
    {getCode : String → Except Failure (Option Code)}
    (finds : components.Finds cached world Lasting (fun id found => found = getConfig id)
      (fun id found => found = getCode id))
    (lasting : Lasting [] world.kept) (configId : String) {request : ConfigRequest}
    (accepts : request.cached = cached) :
    let findings := Findings.of getConfig getCode configId
    ∃ after, Lasting (findings.lookUps configId request) after ∧
      (components.serve configId request).perform world
        = components.follow cached { world with kept := after }
          (findings.decision configId request) := by
  obtain ⟨⟨found, gray, released⟩, after, isFound, codes, lasting, answered⟩ :=
    finds.serve_eq lasting configId accepts
  obtain rfl : found = getConfig configId := isFound
  have same : (Findings.mk (getConfig configId) gray released).lookUps configId request
        = (Findings.of getConfig getCode configId).lookUps configId request ∧
      (Findings.mk (getConfig configId) gray released).decision configId request
        = (Findings.of getConfig getCode configId).decision configId request := by
    rw [Findings.lookUps, Findings.lookUps, Findings.decision, Findings.decision, Findings.of]
    dsimp only
    cases served : servedConfig configId (getConfig configId) with
    | error refusal => exact ⟨rfl, rfl⟩
    | ok config =>
      obtain ⟨grayFound, releasedFound⟩ := codes config served
      dsimp only at grayFound releasedFound
      dsimp only
      rw [ok_bind, ok_bind, grayFound, releasedFound]
      exact ⟨rfl, rfl⟩
  rw [same.1] at lasting
  rw [same.2] at answered
  exact ⟨after, lasting, answered⟩

end Gates

/-- Without a cache, or when cached records are not accepted, look-ups find what the store
answers. -/
theorem finds_stored (world : World Stored Kept Engines) {cached : Bool}
    (uncached : cached = false ∨ components.records = none) :
    components.Finds cached world (fun _ _ => True)
      (fun id found => found = components.store.getConfig world.stored id)
      (fun id found => found = components.store.getCode world.stored id) where
  config id _ := by
    rw [components.loadRecord_of_uncached _ _ _ uncached, components.fetchRecord_eq]
    exact ⟨_, _, rfl, trivial, rfl⟩
  code id _ := by
    rw [components.loadRecord_of_uncached _ _ _ uncached, components.fetchRecord_eq]
    exact ⟨_, _, rfl, trivial, rfl⟩

/-- Without the cache, what is found is what is stored. -/
theorem finds_uncached (world : World Stored Kept Engines) :
    components.Finds false world (fun _ _ => True)
      (fun id found => found = components.store.getConfig world.stored id)
      (fun id found => found = components.store.getCode world.stored id) :=
  components.finds_stored world (.inl rfl)

/-- A request that does not accept cached records is answered by the decision on what the store
holds. A refusal leaves the engines as they are; otherwise they run one script, on the validated
parameters alone, and the answer is its result or its failure. -/
theorem serve_uncached (world : World Stored Kept Engines) (configId : String)
    (request : ConfigRequest) (uncached : request.cached = false) :
    let (answer, after) := (components.serve configId request).perform world
    after.stored = world.stored ∧
    match (Findings.inStore components.store world.stored configId).decision configId request with
    | .error refusal =>
      answer = .error refusal ∧ after.engines = world.engines ∧ after.now = world.now
    | .ok script =>
      let response := components.engines.run world.engines world.now
        ⟨script.language, "", script.code.content, (Json.Value.object script.params).render⟩
      after.engines = response.state ∧ after.now = response.now ∧
      answer =
        match response.outcome with
        | .ok result => .ok ⟨result, script.code.codeId⟩
        | .error error => .error (.execution ("execution failed: " ++ error.message)) := by
  obtain ⟨kept, _, served⟩ :=
    (components.finds_uncached world).serve_eq_of trivial configId uncached
  rw [served]
  rw [Findings.inStore]
  cases (Findings.of _ _ configId).decision configId request with
  | error refusal => exact ⟨rfl, rfl, rfl, rfl⟩
  | ok script =>
    exact ⟨rfl, rfl, rfl, script.answer_eq _⟩

end Components

/-! ## A rollout whose gray code version is broken -/

namespace BrokenRollout

/-- A configuration that is out with a gray code version for every device. -/
def config : Config :=
  { configId := "app", releasedCode := "stable", grayReleaseCode := "next", percentage := 100,
    status := "valid" }

/-- The released code version. -/
def stable : Code := { codeId := "stable", lang := "starlark", content := "return 1" }

/-- The gray code version, which is broken. -/
def next : Code :=
  { codeId := "next", lang := "starlark", content := "return 2", isBroken := true }

/-- The records in memory. -/
def stored : Store.MemoryStore where
  configs := ⟨[("app", config)]⟩
  codes := ⟨[("stable", stable), ("next", next)]⟩

/-- Engines that answer the source of a script. -/
def echo : Engine.EngineOps Unit where
  run _ now request := ⟨.ok request.source, (), now⟩
  health _ _ _ := ⟨1, 0, 0⟩

/-- The components, without a cache of record texts. -/
def components : Components Store.MemoryStore Unit Unit where
  store := Store.MemoryStore.ops
  records := none
  engines := echo
  wallClock _ := .ok 0
  settings := {}

/-- What look-ups find. -/
def found : Findings := .inStore components.store stored "app"

/-- The released code version is served, and its source is what the engines get. -/
theorem serve_uncached_released :
    ({} : ConfigRequest).cached = false ∧
    ((components.serve "app" {}).perform ⟨stored, (), (), 0⟩).1 = .ok ⟨"return 1", "stable"⟩ := by
  have served := components.serve_uncached ⟨stored, (), (), 0⟩ "app" {} rfl
  have active : servedConfig "app" found.config = .ok config := rfl
  have hit : Targeting.bucket "" config.grayReleaseCode < config.percentage.toNat :=
    Nat.mod_lt _ (by decide)
  have chosen : chosenCode config ({} : ConfigRequest).requestMeta.deviceId (found.gray config)
      (found.released config) = .ok stable := by
    rw [chosenCode, if_pos hit]
    rfl
  have decided : found.decision "app" {} = .ok ⟨config, stable, .starlark, []⟩ := by
    rw [Findings.decision, active, ok_bind, chosen]
    rfl
  rw [found] at decided
  rw [decided] at served
  exact ⟨rfl, served.2.2.2⟩

end BrokenRollout

end ConfigDelivery.Delivery
