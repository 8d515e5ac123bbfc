import ConfigDelivery.Delivery.Report
import ConfigDelivery.Delivery.UnitTest
import ConfigDelivery.Http.Response
import ConfigDelivery.Record.Id
/-!
# Routes

A request is first turned into a call of the service, or answered without one; a
call then does one thing. The path counts only as the sequence of its segments
that are not empty, and what a call hands on has been checked.
-/

namespace ConfigDelivery.Http

open ConfigDelivery.Delivery (Action Components World)
open ConfigDelivery.Json (Decoder Document)
open ConfigDelivery.Script (Language)

/-- The segments of a path. -/
def segments (path : String) : List String :=
  ((Text.splitOn '/' path.toList).filter fun segment => !segment.isEmpty).map String.ofList

/-- What the service offers, by the shape of the path. -/
inductive Endpoint where
  | health
  | config (configId : String)
  | test (testId : String)
  | playground (language : String)
  | report (configId codeId : String)
  deriving DecidableEq, Repr

namespace Endpoint

/-- The endpoint of a path. -/
def ofSegments? : List String → Option Endpoint
  | ["health"] => some .health
  | ["config", configId] => some (.config configId)
  | ["test", testId] => some (.test testId)
  | ["playground", language] => some (.playground language)
  | ["report", configId, codeId] => some (.report configId codeId)
  | _ => none

/-- The method that an endpoint is asked with. -/
def method : Endpoint → String
  | health => "GET"
  | config _ => "POST"
  | test _ => "GET"
  | playground _ => "POST"
  | report _ _ => "POST"

end Endpoint

/-- A call of the service. -/
inductive Call where
  | health
  | serve (configId : String) (request : ConfigRequest)
  | runTest (testId : String) (secret : Option String)
  | runPlayground (language : String) (request : PlaygroundRequest)
  | reportError (configId codeId : String) (secret : Option String) (report : ErrorReport)

/-- An identifier from a path can name a record; else a reply says what is wrong. -/
def requireId (id wording : String) : Except Reply Unit :=
  if isRecordId id then .ok () else .error (.message 400 wording)

/-- The body of a request, read as data. -/
def readBody {Result : Type} (decoder : Decoder Result) (request : Request) :
    Except Reply Result :=
  match decoder.readBytes request.body with
  | some result => .ok result
  | none => .error (.message 400 "invalid arguments")

/-- The call that a request makes at an endpoint. Identifiers are judged before the body. -/
def Endpoint.call (request : Request) : Endpoint → Except Reply Call
  | health => .ok .health
  | config configId => do
    requireId configId "invalid config id"
    return .serve configId (← readBody ConfigRequest.decoder request)
  | test testId => do
    requireId testId "invalid test id"
    return .runTest testId request.secret?
  | playground language => do
    return .runPlayground language (← readBody PlaygroundRequest.decoder request)
  | report configId codeId => do
    requireId configId "invalid record id"
    requireId codeId "invalid record id"
    return .reportError configId codeId request.secret? (← readBody ErrorReport.decoder request)

/-- The call that a request makes, or the reply to one that makes none. -/
def route (request : Request) : Except Reply Call :=
  match Endpoint.ofSegments? (segments request.path) with
  | none => .error (.message 404 "not found")
  | some endpoint =>
    if request.method = endpoint.method then endpoint.call request
    else .error (.message 405 "method not allowed")

variable {Stored Kept Engines : Type}

/-- The document about the workers of a language. -/
def healthDocument (health : Engine.Health) : Document :=
  .ofMembers [("busy", .ofInt health.busy), ("cached_programs", .ofInt health.cachedPrograms),
    ("size", .ofInt health.size)]

/-- The document about the health of the service. -/
def serviceDocument (health : Language → Engine.Health) : Document :=
  .ofMembers
    [("pools", .ofMembers
        (([.javascript, .starlark] : List Language).map fun language =>
          (language.name, healthDocument (health language)))),
      ("status", .ofString "ok")]

/-- The document with the result of code from the playground. -/
def resultDocument (result : String) : Document := .ofMembers [("result", .ofString result)]

/-- Make a call and put its outcome into words. -/
def Call.perform (components : Components Stored Kept Engines) :
    Call → StateM (World Stored Kept Engines) Reply
  | health => do
    let world ← get
    return .json 200 (serviceDocument (components.engines.health world.engines world.now))
  | serve configId request =>
    Reply.of ConfigResponse.document <$> (components.serve configId request).run
  | runTest testId secret =>
    Reply.of TestReport.document <$> (components.runTest testId secret).run
  | runPlayground language request =>
    Reply.of resultDocument <$> (components.runPlayground language request).run
  | reportError configId codeId secret report =>
    Reply.of ReportOutcome.document
      <$> (components.reportError configId codeId secret report).run

end ConfigDelivery.Http
