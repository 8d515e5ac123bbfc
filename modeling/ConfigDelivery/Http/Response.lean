import ConfigDelivery.Delivery.Error
import ConfigDelivery.Http.Request
import ConfigDelivery.Record.Codec
/-!
# Responses

Every response carries a JSON text, or nothing, and closes its connection. An
origin that may read it is named together with the methods and header fields that
it may use.
-/

namespace ConfigDelivery.Http

open ConfigDelivery.Json (Document)

/-- What a request is answered with. -/
structure Reply where
  status : Nat
  body : String
  deriving DecidableEq, Repr

namespace Reply

/-- A document as an answer. -/
def json (status : Nat) (document : Document) : Reply := ⟨status, document.render⟩

/-- A message as an answer. -/
def message (status : Nat) (text : String) : Reply :=
  json status (.ofMembers [("message", .ofString text)])

/-- The answer to a refused request. -/
def refusal (error : Delivery.DeliveryError) : Reply := message error.status error.message

/-- The answer with a result, or to a refused request. -/
def of {Result : Type} (document : Result → Document) :
    Except Delivery.DeliveryError Result → Reply
  | .ok result => json 200 (document result)
  | .error error => refusal error

/-- The answer to bytes that are no request. -/
def malformed : Reply := message 400 "malformed request"

/-- The answer to a connection beyond the bound. -/
def busy : Reply := message 503 "server busy"

/-- The answer to a stranger on a private address. -/
def forbidden : Reply := message 403 "forbidden"

/-- The answer that says only which requests are allowed. -/
def empty : Reply := ⟨204, ""⟩

end Reply

/-- The first line of a response. -/
def statusLine : Nat → String
  | 200 => "HTTP/1.1 200 OK"
  | 204 => "HTTP/1.1 204 No Content"
  | 400 => "HTTP/1.1 400 Bad Request"
  | 403 => "HTTP/1.1 403 Forbidden"
  | 404 => "HTTP/1.1 404 Not Found"
  | 405 => "HTTP/1.1 405 Method Not Allowed"
  | 503 => "HTTP/1.1 503 Service Unavailable"
  | _ => "HTTP/1.1 500 Internal Server Error"

/-- A reply together with the origin that may read it. -/
structure Response where
  reply : Reply
  origin : Option String
  deriving DecidableEq, Repr

namespace Response

/-- The header lines that name the origin. -/
def originLines : Option String → List String
  | none => []
  | some origin =>
    ["Access-Control-Allow-Origin: " ++ origin,
      "Access-Control-Allow-Methods: GET, POST, OPTIONS",
      "Access-Control-Allow-Headers: Content-Type, Secret"]

/-- The lines of a response before its body. -/
def headLines (response : Response) : List String :=
  [statusLine response.reply.status,
    "Content-Type: application/json",
    "Content-Length: " ++ Text.integerText response.reply.body.utf8ByteSize,
    "Cache-Control: no-store",
    "Connection: close"] ++ originLines response.origin

/-- The text of a response. -/
def text (response : Response) : String :=
  String.join (response.headLines.map (· ++ "\r\n")) ++ "\r\n" ++ response.reply.body

end Response

/-- The origin that a response names: any when any is allowed, else the request's if it is
allowed. -/
def allowedOrigin (allowed : List String) (origin : Option String) : Option String :=
  if allowed.contains "*" then some "*"
  else origin.filter fun origin => allowed.contains origin

end ConfigDelivery.Http
