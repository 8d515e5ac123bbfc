import ConfigDelivery.Http.Server
import ConfigDelivery.Proofs.Delivery.Runs
import ConfigDelivery.Proofs.Text.Pieces
/-!
# What reaches the delivery

The path of a request counts only as the names that stand between its slashes. They say which
endpoint is asked, if any, and an endpoint takes one method. Identifiers of records are judged
before the body is, so that a call hands on nothing but names of the path that are plain
identifiers. A request that makes no call changes nothing.
-/

namespace ConfigDelivery.Http

open ConfigDelivery.Delivery (Components Operation World)
open ConfigDelivery.Json (Decoder)

variable {Stored Kept Engines Result : Type}

/-! ## Paths -/

/-- A path spells the names that stand between its slashes; where nothing does, there is no name. -/
def Spells (path : String) (names : List String) : Prop :=
  ∃ pieces, Text.IsCut '/' path.toList pieces ∧
    names = (pieces.filter fun piece => piece ≠ []).map String.ofList

/-- A path spells the names between its slashes. -/
theorem spells_iff {path : String} {names : List String} :
    Spells path names ↔ segments path = names := by
  have same (pieces : List (List Char)) :
      pieces.filter (fun piece => piece ≠ []) = pieces.filter fun piece => !piece.isEmpty := by
    congr 1
    funext piece
    cases piece <;> rfl
  constructor
  · rintro ⟨pieces, cut, rfl⟩
    rw [segments, ← cut.eq_splitOn, same]
  · rintro rfl
    exact ⟨_, Text.isCut_splitOn .., by rw [segments, same]⟩

/-- The place between two parts of a path is at one of its ends, or beside a slash. -/
def IsIdle (before after : String) : Prop :=
  before = "" ∨ after = "" ∨ (∃ front, before = front ++ "/") ∨ ∃ rest, after = "/" ++ rest

theorem segments_empty : segments "" = [] := rfl

/-- The names of two paths with a slash between them are those of the first and then those of the
second. -/
theorem segments_append (before after : String) :
    segments (before ++ "/" ++ after) = segments before ++ segments after := by
  have characters : (before ++ "/" ++ after).toList = before.toList ++ '/' :: after.toList := by
    simp
  rw [segments, characters, Text.splitOn_append_cons, List.filter_append, List.map_append]
  rfl

/-- A further slash in an idle place does not matter. -/
theorem IsIdle.segments {before after : String} (idle : IsIdle before after) :
    segments (before ++ "/" ++ after) = segments (before ++ after) := by
  rcases idle with rfl | rfl | ⟨front, rfl⟩ | ⟨rest, rfl⟩
  · rw [segments_append, segments_empty, List.nil_append, String.empty_append]
  · rw [segments_append, segments_empty, List.append_nil, String.append_empty]
  · have once := segments_append front ""
    rw [String.append_empty, segments_empty, List.append_nil] at once
    rw [segments_append, once, segments_append]
  · have once := segments_append "" rest
    rw [String.empty_append, segments_empty, List.nil_append] at once
    rw [segments_append, once, ← String.append_assoc, segments_append]

example : segments "//config/100000/" = ["config", "100000"] := by decide

/-! ## Identifiers -/

/-- An identifier of 1 to 64 ASCII letters, digits, underscores, points and hyphens. -/
structure IsPlainId (id : String) : Prop where
  nonempty : 1 ≤ id.toList.length
  short : id.toList.length ≤ 64
  plain : ∀ character ∈ id.toList, character.isAlphanum ∨ character ∈ ['_', '.', '-']

/-- An identifier is written in letters, digits, and three marks. -/
theorem isIdChar_iff {character : Char} :
    isIdChar character = true ↔ character.isAlphanum ∨ character ∈ ['_', '.', '-'] := by
  -- The library's tests of characters compare code points, as the order of characters does.
  have upper : character.isUpper = true ↔ 'A' ≤ character ∧ character ≤ 'Z' :=
    decide_eq_true_iff
  have lower : character.isLower = true ↔ 'a' ≤ character ∧ character ≤ 'z' :=
    Bool.and_eq_true_iff.trans (and_congr decide_eq_true_iff decide_eq_true_iff)
  have digit : character.isDigit = true ↔ '0' ≤ character ∧ character ≤ '9' :=
    Bool.and_eq_true_iff.trans (and_congr decide_eq_true_iff decide_eq_true_iff)
  have letterOrDigit : character.isAlphanum
      = (character.isUpper || character.isLower || character.isDigit) := rfl
  simp only [isIdChar, letterOrDigit, Bool.or_eq_true, Bool.and_eq_true, decide_eq_true_eq,
    beq_iff_eq, upper, lower, digit, List.mem_cons, List.not_mem_nil, or_false, or_assoc]

/-- A record is identified by a plain text. -/
theorem isRecordId_iff {id : String} : isRecordId id = true ↔ IsPlainId id := by
  simp only [isRecordId, Bool.and_eq_true, decide_eq_true_eq, List.all_eq_true, isIdChar_iff]
  constructor
  · rintro ⟨⟨nonempty, short⟩, plain⟩
    exact ⟨nonempty, short, plain⟩
  · rintro ⟨nonempty, short, plain⟩
    exact ⟨⟨nonempty, short⟩, plain⟩

/-- A plain identifier is taken. -/
theorem requireId_of_plain {id : String} (plain : IsPlainId id) (wording : String) :
    requireId id wording = .ok () := if_pos (isRecordId_iff.mpr plain)

/-- What is no plain identifier is refused in the words of its endpoint. -/
theorem requireId_of_not_plain {id : String} (plain : ¬ IsPlainId id) (wording : String) :
    requireId id wording = .error (.message 400 wording) :=
  if_neg fun isId => plain (isRecordId_iff.mp isId)

/-! ## Endpoints and calls -/

/-- The names that a path spells that leads to an endpoint. -/
def Endpoint.names : Endpoint → List String
  | health => ["health"]
  | config configId => ["config", configId]
  | test testId => ["test", testId]
  | playground language => ["playground", language]
  | report configId codeId => ["report", configId, codeId]

/-- The identifiers of records that an endpoint is about. -/
def Endpoint.ids : Endpoint → List String
  | health => []
  | config configId => [configId]
  | test testId => [testId]
  | playground _ => []
  | report configId codeId => [configId, codeId]

/-- An endpoint is found by its names alone. -/
theorem ofSegments?_eq_some_iff {names : List String} {endpoint : Endpoint} :
    Endpoint.ofSegments? names = some endpoint ↔ endpoint.names = names := by
  constructor
  · intro found
    unfold Endpoint.ofSegments? at found
    split at found <;> cases found <;> rfl
  · rintro rfl
    cases endpoint <;> rfl

/-- The identifiers of records that a call hands on. -/
def Call.ids : Call → List String
  | health => []
  | serve configId _ => [configId]
  | runTest testId _ => [testId]
  | runPlayground _ _ => []
  | reportError configId codeId _ _ => [configId, codeId]

/-- The operation of the delivery that a call is. -/
def Call.operation? : Call → Option Operation
  | health => none
  | serve configId request => some (.getConfig configId request)
  | runTest testId secret => some (.runTest testId secret)
  | runPlayground language request => some (.runPlayground language request)
  | reportError configId codeId secret report =>
    some (.reportError configId codeId secret report)

/-- A call changes what its operation changes; without one it changes nothing. -/
theorem Call.perform_world (components : Components Stored Kept Engines) (call : Call)
    (world : World Stored Kept Engines) :
    (call.perform components world).2 = call.operation?.elim world (components.operate world) := by
  cases call <;> rfl

/-- The body of a request is read as some data. -/
def Carries (decoder : Decoder Result) (request : Request) (result : Result) : Prop :=
  decoder.readBytes request.body = some result

/-- The call that a request asks for at an endpoint, with identifiers of any kind. -/
inductive Asks (request : Request) : Endpoint → Call → Prop
  | health : Asks request .health .health
  | config {configId data} (carried : Carries ConfigRequest.decoder request data) :
      Asks request (.config configId) (.serve configId data)
  | test {testId} : Asks request (.test testId) (.runTest testId request.secret?)
  | playground {language data} (carried : Carries PlaygroundRequest.decoder request data) :
      Asks request (.playground language) (.runPlayground language data)
  | report {configId codeId data} (carried : Carries ErrorReport.decoder request data) :
      Asks request (.report configId codeId)
        (.reportError configId codeId request.secret? data)

/-- A body is taken if it carries what the endpoint needs. -/
theorem readBody_eq_ok_iff {decoder : Decoder Result} {request : Request} {result : Result} :
    readBody decoder request = .ok result ↔ Carries decoder request result := by
  rw [readBody, Carries]
  cases decoder.readBytes request.body <;> simp

/-- A body that does not carry what the endpoint needs is refused. -/
theorem readBody_of_unread {decoder : Decoder Result} {request : Request}
    (unread : ∀ result, ¬ Carries decoder request result) :
    readBody decoder request = .error (.message 400 "invalid arguments") := by
  cases read : readBody decoder request with
  | ok result => exact absurd (readBody_eq_ok_iff.mp read) (unread result)
  | error reply =>
    unfold readBody at read
    split at read
    · cases read
    · exact read.symm

/-- A call is made of what its body carries. -/
theorem map_readBody_eq_ok_iff {decoder : Decoder Result} {request : Request}
    {build : Result → Call} {made : Call} :
    (readBody decoder request).map build = .ok made ↔
      ∃ data, Carries decoder request data ∧ build data = made := by
  simp only [← readBody_eq_ok_iff]
  cases readBody decoder request with
  | ok data => simp [Except.map]
  | error reply => simp [Except.map]

/-- Without what its body should carry, no call is made. -/
theorem map_readBody_of_unread {decoder : Decoder Result} {request : Request}
    {build : Result → Call} (unread : ∀ result, ¬ Carries decoder request result) :
    (readBody decoder request).map build = .error (.message 400 "invalid arguments") := by
  rw [readBody_of_unread unread]
  rfl

namespace Endpoint

variable {request : Request} {endpoint : Endpoint}

/-- Identifiers are refused whatever the body is. -/
theorem call_of_not_plain (odd : ∃ id ∈ endpoint.ids, ¬ IsPlainId id) :
    ∃ wording, endpoint.call request = .error (.message 400 wording) := by
  obtain ⟨id, mem, odd⟩ := odd
  cases endpoint with
  | health => cases mem
  | playground => cases mem
  | config configId =>
    obtain rfl := List.mem_singleton.mp mem
    exact ⟨_, by rw [call, requireId_of_not_plain odd]; rfl⟩
  | test testId =>
    obtain rfl := List.mem_singleton.mp mem
    exact ⟨_, by rw [call, requireId_of_not_plain odd]; rfl⟩
  | report configId codeId =>
    by_cases first : IsPlainId configId
    · have second : ¬ IsPlainId codeId := by
        rcases List.mem_cons.mp mem with rfl | mem
        · exact absurd first odd
        · exact List.mem_singleton.mp mem ▸ odd
      exact ⟨_, by
        rw [call, requireId_of_plain first, requireId_of_not_plain second]
        rfl⟩
    · exact ⟨_, by rw [call, requireId_of_not_plain first]; rfl⟩

/-- Behind plain identifiers the body decides. -/
theorem call_eq_of_plain (plain : ∀ id ∈ endpoint.ids, IsPlainId id) :
    endpoint.call request = match endpoint with
      | health => .ok .health
      | config configId =>
        (readBody ConfigRequest.decoder request).map (.serve configId)
      | test testId => .ok (.runTest testId request.secret?)
      | playground language =>
        (readBody PlaygroundRequest.decoder request).map (.runPlayground language)
      | report configId codeId =>
        (readBody ErrorReport.decoder request).map
          (.reportError configId codeId request.secret?) := by
  cases endpoint with
  | health => rfl
  | playground => rfl
  | config configId => rw [call, requireId_of_plain (plain configId (by simp [ids]))]; rfl
  | test testId => rw [call, requireId_of_plain (plain testId (by simp [ids]))]; rfl
  | report configId codeId =>
    rw [call, requireId_of_plain (plain configId (by simp [ids])),
      requireId_of_plain (plain codeId (by simp [ids]))]
    rfl

/-- A request that asks for a call makes it. -/
theorem call_of_asks {made : Call} (plain : ∀ id ∈ endpoint.ids, IsPlainId id)
    (asks : Asks request endpoint made) : endpoint.call request = .ok made := by
  rw [call_eq_of_plain plain]
  cases asks with
  | health => rfl
  | test => rfl
  | config carried => exact map_readBody_eq_ok_iff.mpr ⟨_, carried, rfl⟩
  | playground carried => exact map_readBody_eq_ok_iff.mpr ⟨_, carried, rfl⟩
  | report carried => exact map_readBody_eq_ok_iff.mpr ⟨_, carried, rfl⟩

/-- A request that asks for no call of its endpoint is refused for its arguments. -/
theorem call_of_unasked (plain : ∀ id ∈ endpoint.ids, IsPlainId id)
    (unasked : ∀ made, ¬ Asks request endpoint made) :
    endpoint.call request = .error (.message 400 "invalid arguments") := by
  rw [call_eq_of_plain plain]
  cases endpoint with
  | health => exact absurd .health (unasked _)
  | test => exact absurd .test (unasked _)
  | config => exact map_readBody_of_unread fun _ carried => unasked _ (.config carried)
  | playground => exact map_readBody_of_unread fun _ carried => unasked _ (.playground carried)
  | report => exact map_readBody_of_unread fun _ carried => unasked _ (.report carried)

/-- A call is made only with plain identifiers, and only the one that is asked for. -/
theorem plain_and_asks_of_call {made : Call} (called : endpoint.call request = .ok made) :
    (∀ id ∈ endpoint.ids, IsPlainId id) ∧ Asks request endpoint made := by
  have plain : ∀ id ∈ endpoint.ids, IsPlainId id := by
    intro id mem
    by_contra odd
    obtain ⟨wording, refused⟩ := @call_of_not_plain request endpoint ⟨id, mem, odd⟩
    rw [called] at refused
    cases refused
  refine ⟨plain, ?_⟩
  rw [call_eq_of_plain plain] at called
  cases endpoint with
  | health => cases called; exact .health
  | test => cases called; exact .test
  | config =>
    obtain ⟨_, carried, rfl⟩ := map_readBody_eq_ok_iff.mp called
    exact .config carried
  | playground =>
    obtain ⟨_, carried, rfl⟩ := map_readBody_eq_ok_iff.mp called
    exact .playground carried
  | report =>
    obtain ⟨_, carried, rfl⟩ := map_readBody_eq_ok_iff.mp called
    exact .report carried

end Endpoint

/-- A call is about the identifiers of its endpoint. -/
theorem Asks.ids_eq {request : Request} {endpoint : Endpoint} {call : Call}
    (asks : Asks request endpoint call) : call.ids = endpoint.ids := by
  cases asks <;> rfl

/-- The identifiers of an endpoint stand in its path. -/
theorem Endpoint.ids_subset_names (endpoint : Endpoint) : endpoint.ids ⊆ endpoint.names := by
  cases endpoint <;> simp [ids, names]

/-! ## Routes -/

variable (components : Components Stored Kept Engines) (request : Request)

/-- A request is routed: the call that it makes is made, or it is refused. -/
def routed : StateM (World Stored Kept Engines) Reply :=
  match route request with
  | .ok call => call.perform components
  | .error reply => pure reply

/-- A request is refused with a message, and nothing changes. -/
def Refuses (status : Nat) (wording : String) : Prop :=
  ∀ world, routed components request world = (.message status wording, world)

variable {components request}

/-- A request without a call is answered, and nothing is done. -/
theorem routed_of_error {reply : Reply} (refused : route request = .error reply) :
    routed components request = pure reply := by
  rw [routed, refused]

/-- A request with a call is answered by performing it. -/
theorem routed_of_ok {call : Call} (made : route request = .ok call) :
    routed components request = call.perform components := by
  rw [routed, made]

/-- A request without a call is refused in the words of its route. -/
theorem refuses_of_error {status : Nat} {wording : String}
    (refused : route request = .error (.message status wording)) :
    Refuses components request status wording := by
  rw [Refuses, routed_of_error refused]
  exact fun world => rfl

/-- Behind its segments a path does not count. -/
theorem route_of_segments {path : String} (same : segments path = segments request.path) :
    route { request with path } = route request := by
  unfold route
  rw [same]
  cases Endpoint.ofSegments? (segments request.path) with
  | none => rfl
  | some endpoint => cases endpoint <;> rfl

/-- A path that spells no endpoint is not found. -/
theorem route_of_unknown
    (unknown : ∀ endpoint : Endpoint, endpoint.names ≠ segments request.path) :
    route request = .error (.message 404 "not found") := by
  have nothing : Endpoint.ofSegments? (segments request.path) = none :=
    Option.eq_none_iff_forall_ne_some.mpr fun endpoint found =>
      unknown endpoint (ofSegments?_eq_some_iff.mp found)
  rw [route, nothing]

/-- A path that spells an endpoint is called by its method, and by no other. -/
theorem route_of_endpoint {endpoint : Endpoint} (found : endpoint.names = segments request.path) :
    route request = if request.method = endpoint.method then endpoint.call request
      else .error (.message 405 "method not allowed") := by
  rw [route, ofSegments?_eq_some_iff.mpr found]

/-- There is no other way to a call than an endpoint and its method. -/
theorem exists_endpoint_of_route {call : Call} (made : route request = .ok call) :
    ∃ endpoint : Endpoint, endpoint.names = segments request.path ∧
      request.method = endpoint.method ∧ (∀ id ∈ endpoint.ids, IsPlainId id) ∧
      Asks request endpoint call := by
  cases found : Endpoint.ofSegments? (segments request.path) with
  | none =>
    rw [route, found] at made
    cases made
  | some endpoint =>
    have named := ofSegments?_eq_some_iff.mp found
    rw [route_of_endpoint named] at made
    split at made
    · rename_i right
      obtain ⟨plain, asks⟩ := Endpoint.plain_and_asks_of_call made
      exact ⟨endpoint, named, right, plain, asks⟩
    · cases made

variable (components request)

/-- How a request is routed whose path spells some names. -/
structure IsRouted (names : List String) : Prop where
  /-- A server answers the request as it is routed, unless it asks for the allowed requests. -/
  answered : reply components request =
    if request.method = "OPTIONS" then pure .empty else routed components request
  /-- Any other path that spells the names does the same. -/
  onlyNames : ∀ path, Spells path names →
    routed components { request with path } = routed components request
  /-- Slashes at an end of the path or beside others do not matter. -/
  slashes : ∀ before after, IsIdle before after → request.path = before ++ after →
    Spells (before ++ "/" ++ after) names
  unknown : (∀ endpoint : Endpoint, endpoint.names ≠ names) →
    Refuses components request 404 "not found"
  otherMethod : ∀ endpoint : Endpoint, endpoint.names = names →
    request.method ≠ endpoint.method → Refuses components request 405 "method not allowed"
  oddId : ∀ endpoint : Endpoint, endpoint.names = names → request.method = endpoint.method →
    (∃ id ∈ endpoint.ids, ¬ IsPlainId id) →
    ∃ wording, Refuses components request 400 wording
  unread : ∀ endpoint : Endpoint, endpoint.names = names → request.method = endpoint.method →
    (∀ id ∈ endpoint.ids, IsPlainId id) → (∀ call, ¬ Asks request endpoint call) →
    Refuses components request 400 "invalid arguments"
  called : ∀ endpoint call, endpoint.names = names → request.method = endpoint.method →
    (∀ id ∈ endpoint.ids, IsPlainId id) → Asks request endpoint call →
    routed components request = call.perform components ∧
    (∀ id ∈ call.ids, id ∈ names ∧ IsPlainId id) ∧
    ∀ world, (routed components request world).2
      = call.operation?.elim world (components.operate world)
  /-- There is no other way to a call. -/
  onlyCalled : ∀ call, route request = .ok call → ∃ endpoint : Endpoint,
    endpoint.names = names ∧ request.method = endpoint.method ∧
    (∀ id ∈ endpoint.ids, IsPlainId id) ∧ Asks request endpoint call

/-- Every request is routed by the names that its path spells. -/
theorem exists_isRouted : ∃ names, Spells request.path names ∧
    (∀ other, Spells request.path other → other = names) ∧
    IsRouted components request names := by
  refine ⟨segments request.path, spells_iff.mpr rfl, fun other spelled => ?_, ?_⟩
  · exact (spells_iff.mp spelled).symm
  · constructor
    case answered => rfl
    case onlyNames =>
      intro path spelled
      rw [routed, route_of_segments (spells_iff.mp spelled), routed]
    case slashes =>
      intro before after idle parts
      rw [spells_iff, idle.segments, parts]
    case unknown => exact fun unknown => refuses_of_error (route_of_unknown unknown)
    case otherMethod =>
      intro endpoint found other
      exact refuses_of_error (by rw [route_of_endpoint found, if_neg other])
    case oddId =>
      intro endpoint found right odd
      obtain ⟨wording, refused⟩ := Endpoint.call_of_not_plain odd
      exact ⟨wording, refuses_of_error (by rw [route_of_endpoint found, if_pos right, refused])⟩
    case unread =>
      intro endpoint found right plain unasked
      apply refuses_of_error
      rw [route_of_endpoint found, if_pos right, Endpoint.call_of_unasked plain unasked]
    case called =>
      intro endpoint call found right plain asks
      have made : route request = .ok call := by
        rw [route_of_endpoint found, if_pos right, Endpoint.call_of_asks plain asks]
      refine ⟨routed_of_ok made, fun id mem => ?_, fun world => ?_⟩
      · rw [asks.ids_eq] at mem
        exact ⟨found ▸ endpoint.ids_subset_names mem, plain id mem⟩
      · rw [routed_of_ok made, Call.perform_world]
    case onlyCalled => exact fun call made => exists_endpoint_of_route made

end ConfigDelivery.Http
