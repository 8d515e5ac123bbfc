import ConfigDelivery.Http.Address
import ConfigDelivery.Http.Route
/-!
# The server

What is said on a connection. Connections are counted while they are served, and
those beyond the bound are turned away before anything is read of them; a service
on the machine's own address turns strangers away as well.
-/

namespace ConfigDelivery.Http

open ConfigDelivery.Delivery (Components World)

/-- How many connections are served at a time, unless said otherwise. -/
def defaultMaxConnections : Nat := 256

/-- What a server can be told. -/
structure Settings where
  allowOrigins : List String := []
  maxConnections : Nat := defaultMaxConnections

/-- The connections that are being served, and how many may be. -/
structure Connections where
  active : Nat := 0
  limit : Nat
  deriving DecidableEq, Repr

namespace Connections

/-- Serve one connection more, unless there are enough. -/
def acquire? (connections : Connections) : Option Connections :=
  if connections.active < connections.limit then
    some { connections with active := connections.active + 1 }
  else none

/-- A connection is done with. -/
def release (connections : Connections) : Connections :=
  { connections with active := connections.active - 1 }

end Connections

/-- What the thread keeps that receives connections: their count, and the ones in service, each by
a number of its own. -/
structure Reception where
  connections : Connections
  inService : List Nat := []
  deriving DecidableEq, Repr

namespace Reception

/-- Nothing is in service yet. -/
def new (limit : Nat) : Reception := { connections := { limit } }

/-- Receive a connection: it is served, or there is a response that turns it away. -/
def receive (reception : Reception) (number : Nat) : Option Response × Reception :=
  match reception.connections.acquire? with
  | some connections => (none, { connections, inService := reception.inService ++ [number] })
  | none => (some ⟨.busy, none⟩, reception)

/-- A connection in service is done with. -/
def dismiss (reception : Reception) (number : Nat) : Reception :=
  if number ∈ reception.inService then
    { connections := reception.connections.release
      inService := reception.inService.erase number }
  else reception

end Reception

/-- A connection in service: the addresses of its ends, and the pieces of its stream. -/
structure Connection where
  own : SocketAddress
  peer : SocketAddress
  pieces : List (List UInt8)

/-- A stranger has come to the machine's own address. -/
def isStrange (own peer : SocketAddress) : Bool := own.isLoopback && !peer.isLoopback

variable {Stored Kept Engines : Type}

/-- Answer a request. A request for the allowed requests is answered without looking at its path. -/
def reply (components : Components Stored Kept Engines) (request : Request) :
    StateM (World Stored Kept Engines) Reply :=
  if request.method = "OPTIONS" then pure .empty
  else
    match route request with
    | .ok call => call.perform components
    | .error reply => pure reply

/-- Answer what has been read from a connection. -/
def respond (settings : Settings) (components : Components Stored Kept Engines) :
    Except Malformed Request → StateM (World Stored Kept Engines) Response
  | .error _ => pure ⟨.malformed, none⟩
  | .ok request => do
    let origin := allowedOrigin settings.allowOrigins (request.header? "origin")
    return ⟨← reply components request, origin⟩

/-- Answer a connection; nothing is read of a stranger's. -/
def serveConnection (settings : Settings) (components : Components Stored Kept Engines)
    (connection : Connection) : StateM (World Stored Kept Engines) Response :=
  if isStrange connection.own connection.peer then pure ⟨.forbidden, none⟩
  else respond settings components (readRequest connection.pieces)

/-- Answer the pieces of a stream. -/
def serveStream (settings : Settings) (components : Components Stored Kept Engines)
    (pieces : List (List UInt8)) : StateM (World Stored Kept Engines) String := do
  return (← respond settings components (readRequest pieces)).text

end ConfigDelivery.Http
