import ConfigDelivery.Http.Server
import ConfigDelivery.Proofs.Delivery.Discretion
/-!
# Failures do not reach clients

Two services that differ only in how their stores describe failures answer the same bytes with the
same bytes, except for the time that a unit test took. An internal fault is answered with one and
the same reply, and no other reply has its status.
-/

namespace ConfigDelivery.Http

open ConfigDelivery.Delivery

variable {Stored Stored' Kept Engines Engines' Result Result' : Type}

/-- The reply to an internal fault. -/
def internalFault : Reply := ⟨500, "\x7b\"message\":\"internal error\"\x7d"⟩

/-- An internal refusal is told in one way, without its detail. -/
theorem refusal_internal (detail : String) : Reply.refusal (.internal detail) = internalFault := by
  have worded : Reply.message 500 "internal error" = internalFault := by decide +kernel
  exact worded

theorem refusal_status (refusal : DeliveryError) :
    (Reply.refusal refusal).status = refusal.status :=
  rfl

/-- Only internal refusals have status 500. -/
theorem status_eq_500_iff {refusal : DeliveryError} :
    refusal.status = 500 ↔ ∃ detail, refusal = .internal detail := by
  cases refusal <;> simp [DeliveryError.status]

/-- Refusals that differ in internal detail at most get one reply. -/
theorem refusal_alike {refusal refusal' : DeliveryError} (alike : refusal.Alike refusal') :
    Reply.refusal refusal = Reply.refusal refusal' := by
  rcases alike with rfl | ⟨detail, detail', rfl, rfl⟩
  · rfl
  · rw [refusal_internal, refusal_internal]

/-- Like answers have the same reply. -/
theorem of_alike {document : Result → Json.Document}
    {answer answer' : Except DeliveryError Result} (alike : AnswersAlike Eq answer answer') :
    Reply.of document answer = Reply.of document answer' := by
  cases alike with
  | ok same => rw [same]
  | error alike => exact refusal_alike alike

/-- Two replies with the reports on a test that took differently long. -/
def SameButDuration (reply reply' : Reply) : Prop :=
  ∃ report report', SameVerdict report report' ∧ reply = .json 200 report.document ∧
    reply' = .json 200 report'.document

/-- Tests judged alike have the same reply, up to the duration. -/
theorem of_sameVerdict {answer answer' : Except DeliveryError TestReport}
    (alike : AnswersAlike SameVerdict answer answer') :
    Reply.of TestReport.document answer = Reply.of TestReport.document answer' ∨
      SameButDuration (.of TestReport.document answer) (.of TestReport.document answer') := by
  cases alike with
  | ok same => exact .inr ⟨_, _, same, rfl, rfl⟩
  | error alike => exact .inl (refusal_alike alike)

/-! ## Two services -/

section Alike

variable {left : Components Stored Kept Engines} {leftWorld : World Stored Kept Engines}
  {right : Components Stored' Kept Engines'} {rightWorld : World Stored' Kept Engines'}

/-- A call gets one reply from both services; the reports on a unit test may tell of different
durations. -/
theorem perform_alike (differ : DifferInFailures left leftWorld right rightWorld) (call : Call) :
    (call.perform left leftWorld).1 = (call.perform right rightWorld).1 ∨
      (∃ testId secret, call = .runTest testId secret) ∧
        SameButDuration (call.perform left leftWorld).1 (call.perform right rightWorld).1 := by
  cases call with
  | health =>
    left
    have same := funext differ.health
    show Reply.json 200 (serviceDocument (left.engines.health leftWorld.engines leftWorld.now)) = _
    rw [same]
    rfl
  | serve configId request => exact .inl (of_alike (differ.serve_alike configId request))
  | runTest testId secret =>
    exact (of_sameVerdict (differ.runTest_alike testId secret)).imp_right fun same =>
      ⟨⟨testId, secret, rfl⟩, same⟩
  | runPlayground language request =>
    exact .inl (of_alike (differ.runPlayground_alike language request))
  | reportError configId codeId secret report =>
    exact .inl (of_alike (differ.reportError_alike configId codeId secret report))

/-- A request asks for a unit test. -/
def AsksForTest (request : Request) : Prop :=
  ∃ testId secret, route request = .ok (.runTest testId secret)

/-- Stores that differ in the texts of failures have the same replies, up to the duration of a
test. -/
theorem reply_alike (differ : DifferInFailures left leftWorld right rightWorld)
    (request : Request) :
    (reply left request leftWorld).1 = (reply right request rightWorld).1 ∨
      AsksForTest request ∧
        SameButDuration (reply left request leftWorld).1 (reply right request rightWorld).1 := by
  unfold reply
  by_cases options : request.method = "OPTIONS"
  · rw [if_pos options, if_pos options]
    exact .inl rfl
  · rw [if_neg options, if_neg options]
    cases routed : route request with
    | error answer => exact .inl rfl
    | ok call =>
      refine (perform_alike differ call).imp_right ?_
      rintro ⟨⟨testId, secret, rfl⟩, same⟩
      exact ⟨⟨testId, secret, routed⟩, same⟩

end Alike

/-! ## Internal faults -/

/-- A reply is the one to a refusal, or has not the status of internal faults if there is none. -/
def Tells (reply : Reply) : Option DeliveryError → Prop
  | some refusal => reply = .refusal refusal
  | none => reply.status ≠ 500

/-- A reply that tells an internal refusal tells that there was a fault. -/
theorem Tells.of_internal {reply : Reply} {detail : String}
    (tells : Tells reply (some (.internal detail))) : reply = internalFault :=
  tells.trans (refusal_internal detail)

/-- A reply has status 500 exactly for an internal refusal. -/
theorem Tells.status_iff {reply : Reply} {refused : Option DeliveryError}
    (tells : Tells reply refused) :
    reply.status = 500 ↔ ∃ detail, refused = some (.internal detail) := by
  cases refused with
  | none => exact ⟨fun fault => absurd fault tells, nofun⟩
  | some refusal =>
    rw [show reply = .refusal refusal from tells, refusal_status, status_eq_500_iff]
    simp

section Faults

variable (components : Components Stored Kept Engines) (world : World Stored Kept Engines)

/-- The refusal in an answer. -/
def refused? : Except DeliveryError Result → Option DeliveryError
  | .ok _ => none
  | .error refusal => some refusal

/-- The refusal that a call comes to. -/
def Call.refusal? : Call → Option DeliveryError
  | health => none
  | serve configId request => refused? ((components.serve configId request).perform world).1
  | runTest testId secret => refused? ((components.runTest testId secret).perform world).1
  | runPlayground language request =>
    refused? ((components.runPlayground language request).perform world).1
  | reportError configId codeId secret report =>
    refused? ((components.reportError configId codeId secret report).perform world).1

/-- The refusal that a request comes to, if it makes a call. -/
def refusal? (request : Request) : Option DeliveryError :=
  if request.method = "OPTIONS" then none
  else
    match route request with
    | .ok call => call.refusal? components world
    | .error _ => none

/-- An answer is told by its reply. -/
theorem of_tells (document : Result → Json.Document) (answer : Except DeliveryError Result) :
    Tells (.of document answer) (refused? answer) := by
  cases answer with
  | ok result => exact (by decide : 200 ≠ 500)
  | error refusal => exact rfl

/-- The reply to a call tells the answer of its operation. -/
theorem perform_tells (call : Call) :
    Tells (call.perform components world).1 (call.refusal? components world) := by
  cases call with
  | health => exact (by decide : 200 ≠ 500)
  | serve configId request => exact of_tells _ _
  | runTest testId secret => exact of_tells _ _
  | runPlayground language request => exact of_tells _ _
  | reportError configId codeId secret report => exact of_tells _ _

/-- An identifier that is none is refused with status 400. -/
theorem requireId_status {id wording : String} {answer : Reply}
    (refused : requireId id wording = .error answer) : answer.status = 400 := by
  unfold requireId at refused
  split at refused
  · cases refused
  · cases refused
    rfl

/-- A body that cannot be read is refused with status 400. -/
theorem readBody_status {decoder : Json.Decoder Result} {request : Request} {answer : Reply}
    (refused : readBody decoder request = .error answer) : answer.status = 400 := by
  unfold readBody at refused
  split at refused
  · cases refused
  · cases refused
    rfl

/-- Steps that refuse with status 400 do so one after the other. -/
theorem bind_status {first : Except Reply Result} {next : Result → Except Reply Result'}
    {answer : Reply} (early : ∀ answer, first = .error answer → answer.status = 400)
    (late : ∀ result answer, next result = .error answer → answer.status = 400)
    (refused : (first >>= next) = .error answer) : answer.status = 400 := by
  cases first with
  | ok result => exact late result answer refused
  | error first =>
    cases refused
    exact early _ rfl

/-- A request that is not a call of its endpoint is refused with status 400. -/
theorem call_status {endpoint : Endpoint} {request : Request} {answer : Reply}
    (refused : endpoint.call request = .error answer) : answer.status = 400 := by
  cases endpoint with
  | health => cases refused
  | config configId =>
    refine bind_status (fun _ => requireId_status) (fun _ _ => ?_) refused
    exact bind_status (fun _ => readBody_status) fun _ _ => nofun
  | test testId =>
    refine bind_status (fun _ => requireId_status) (fun _ _ => ?_) refused
    exact nofun
  | playground language =>
    refine bind_status (fun _ => readBody_status) (fun _ _ => ?_) refused
    exact nofun
  | report configId codeId =>
    refine bind_status (fun _ => requireId_status) (fun _ _ => ?_) refused
    refine bind_status (fun _ => requireId_status) fun _ _ => ?_
    exact bind_status (fun _ => readBody_status) fun _ _ => nofun

/-- A request that makes no call is not answered as if a fault had happened. -/
theorem route_status {request : Request} {answer : Reply}
    (refused : route request = .error answer) : answer.status ≠ 500 := by
  unfold route at refused
  split at refused
  · cases refused
    decide
  · split at refused
    · rw [call_status refused]
      decide
    · cases refused
      decide

/-- Every reply tells the answer to its request. -/
theorem reply_tells (request : Request) :
    Tells (reply components request world).1 (refusal? components world request) := by
  unfold reply refusal?
  by_cases options : request.method = "OPTIONS"
  · rw [if_pos options, if_pos options]
    exact (by decide : 204 ≠ 500)
  · rw [if_neg options, if_neg options]
    cases routed : route request with
    | error answer => exact route_status routed
    | ok call => exact perform_tells components world call

end Faults

/-- Failures of a store do not reach clients. Whatever bytes arrive, two services that differ only
in how their stores describe failures answer with the same bytes; for a unit test that ran, with the
same verdict, if it took another time. A request that is refused for an internal fault is answered
with one reply, whatever the detail, and no other request is answered with its status. -/
theorem serveStream_discreet :
    (∀ {Stored Stored' Kept Engines Engines' : Type} {left : Components Stored Kept Engines}
      {leftWorld} {right : Components Stored' Kept Engines'} {rightWorld},
      DifferInFailures left leftWorld right rightWorld → ∀ settings pieces,
        (serveStream settings left pieces leftWorld).1
          = (serveStream settings right pieces rightWorld).1 ∨
        ∃ request origin answer answer', readRequest pieces = .ok request ∧
          AsksForTest request ∧ SameButDuration answer answer' ∧
          (serveStream settings left pieces leftWorld).1 = Response.text ⟨answer, origin⟩ ∧
          (serveStream settings right pieces rightWorld).1 = Response.text ⟨answer', origin⟩) ∧
    (∀ {Stored Kept Engines : Type} (components : Components Stored Kept Engines) world settings
      pieces request, readRequest pieces = .ok request → ∃ response : Response,
        (serveStream settings components pieces world).1 = response.text ∧
        (∀ detail, refusal? components world request = some (.internal detail) →
          response.reply = ⟨500, "\x7b\"message\":\"internal error\"\x7d"⟩) ∧
        (response.reply.status = 500 ↔
          ∃ detail, refusal? components world request = some (.internal detail))) := by
  constructor
  · intro _ _ _ _ _ left leftWorld right rightWorld differ settings pieces
    unfold serveStream
    cases arrived : readRequest pieces with
    | error fault => exact .inl rfl
    | ok request =>
      let origin := allowedOrigin settings.allowOrigins (request.header? "origin")
      rcases reply_alike differ request with same | ⟨asks, same⟩
      · left
        show Response.text ⟨(reply left request leftWorld).1, origin⟩ = _
        rw [same]
        rfl
      · exact .inr ⟨request, origin, _, _, rfl, asks, same, rfl, rfl⟩
  · intro _ _ _ components world settings pieces request arrived
    let origin := allowedOrigin settings.allowOrigins (request.header? "origin")
    have tells := reply_tells components world request
    refine ⟨⟨(reply components request world).1, origin⟩, ?_, fun detail refused => ?_,
      tells.status_iff⟩
    · unfold serveStream
      rw [arrived]
      rfl
    · rw [refused] at tells
      exact tells.of_internal

namespace FailingStores

/-- A store that cannot read configurations, and says so in some words. -/
def components (words : Failure) : Components Store.MemoryStore Unit Unit where
  store := { Store.MemoryStore.ops with getConfig := fun _ _ => .error words }
  records := none
  engines := BrokenRollout.echo
  wallClock _ := .ok 0
  settings := {}

/-- The state of both services. -/
def world : World Store.MemoryStore Unit Unit := ⟨BrokenRollout.stored, (), (), 0⟩

/-- A request for the result of a configuration. -/
def pieces : List (List UInt8) :=
  ["POST /config/app HTTP/1.1\r\nContent-Length: 2\r\n\r\n\x7b\x7d".toUTF8.toList]

/-- The failure of the first store. -/
def unreadable : Failure := ⟨"disk on fire", ["/var/lib/records"]⟩

/-- The failure of the second store. -/
def locked : Failure := ⟨"database is locked", []⟩

theorem differInFailures :
    DifferInFailures (components unreadable) world (components locked) world where
  config _ := rfl
  code _ := rfl
  testCase _ := rfl
  recordError _ _ _ := rfl
  outcome _ := rfl
  health _ := rfl
  records := rfl
  wallClock := rfl
  settings := rfl
  kept := rfl
  now := rfl

/-- A call is for a unit test. -/
def isForTest : Except Reply Call → Bool
  | .ok (.runTest _ _) => true
  | _ => false

theorem serveStream_discreet_unreadable :
    DifferInFailures (components unreadable) world (components locked) world ∧
    (serveStream {} (components unreadable) pieces world).1
      = (serveStream {} (components locked) pieces world).1 ∧
    ∃ response : Response,
      (serveStream {} (components unreadable) pieces world).1 = response.text ∧
      response.reply = ⟨500, "\x7b\"message\":\"internal error\"\x7d"⟩ := by
  obtain ⟨alike, faults⟩ := serveStream_discreet
  have asked : (readRequest pieces).toOption.map (fun request =>
      (isForTest (route request), refusal? (components unreadable) world request))
      = some (false, some (.internal "disk on fire")) := by decide +kernel
  cases arrived : readRequest pieces with
  | error fault =>
    rw [arrived] at asked
    cases asked
  | ok request =>
    rw [arrived] at asked
    obtain ⟨other, refused⟩ := Prod.mk.inj (Option.some.inj asked)
    obtain ⟨response, sent, fault, _⟩ :=
      faults (components unreadable) world {} pieces request arrived
    refine ⟨differInFailures, ?_, response, sent, fault _ refused⟩
    rcases alike differInFailures {} pieces with
      same | ⟨_, _, _, _, arrived', ⟨testId, secret, routed⟩, _⟩
    · exact same
    · cases arrived.symm.trans arrived'
      rw [routed] at other
      cases other

end FailingStores

end ConfigDelivery.Http
