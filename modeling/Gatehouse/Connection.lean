import Gatehouse.Network

namespace Gatehouse

namespace RequestTarget

/-- Whether a client can ask a server for a target: the lone star stands for no place of it. -/
def isSendable (t : RequestTarget) : Bool := t ≠ .resource ⟨"*", none⟩

end RequestTarget

namespace Arrival

def transmission (a : Arrival) : Transmission :=
  .ofRequest a.request.method (a.request.headers.withHost a.request.target) a.request.body

def isSendable (a : Arrival) : Bool :=
  a.request.target.isSendable &&
    [Ending.complete, .stalled].contains a.transmission.ending

/-- The request as it arrives over a connection from the gateway's own machine. -/
def overConnection (a : Arrival) (headers : Headers) (body : Body) : Arrival :=
  { a with
    request := { a.request with target := a.request.target.sent a.request.method, headers, body }
    client := some (.v4 127 0 0 1) }

end Arrival

/-- A response that ends the connection with it, if the request wants that. -/
def Response.closing (r : Response) (request : Headers) : Response :=
  if request.keepsConnection then r
  else { r with headers := r.headers.set .connection closeOption }

/--
Serves a request that comes, and is answered, over a connection; nothing when it cannot be sent or
its response does not arrive. A request that cannot be read is answered without being served.
-/
def Gateway.serveConnected (g : Gateway) (a : Arrival) : Exchange (Option Response) :=
  if !a.isSendable then .done none
  else match a.transmission.readRequest with
    | .error status => .done (some (.refusal status))
    | .ok (headers, body) =>
      (g.serve (a.overConnection headers body)).bind fun r =>
        .done ((r.closing headers).delivered? a.request.method)

end Gatehouse
