/-!
# Refusals of the delivery

A request is refused for one of five kinds of reason. The detail of an internal
fault is kept for the operator and never shown: its message and its status are
the same whatever happened.
-/

namespace ConfigDelivery.Delivery

/-- Why a request was refused. -/
inductive DeliveryError where
  | input (message : String)
  | rejected (message : String)
  | forbidden (message : String)
  | execution (message : String)
  | internal (detail : String)
  deriving DecidableEq, Repr

namespace DeliveryError

/-- What a client is told. -/
def message : DeliveryError → String
  | input message => message
  | rejected message => message
  | forbidden message => message
  | execution message => message
  | internal _ => "internal error"

/-- The status that a client is answered with. -/
def status : DeliveryError → Nat
  | input _ => 400
  | rejected _ => 400
  | forbidden _ => 403
  | execution _ => 400
  | internal _ => 500

end DeliveryError

end ConfigDelivery.Delivery
