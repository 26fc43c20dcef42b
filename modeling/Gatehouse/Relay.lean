import Gatehouse.Failure
import Gatehouse.Session.Client

namespace Gatehouse

/-- Who asks the monitoring service: where it is and how long it is waited for. -/
structure Relay where
  destination : Destination
  /-- In milliseconds. -/
  patience : Nat

def maxRelayed : Nat := 8 * 1024 * 1024

/-- The answer to the client, from what came of the call. -/
def relayResult : Outcome → Except Failure Response
  | .refused _ | .broken _ => .error .badGateway
  | .silent => .error .gatewayTimeout
  | .reply r _ =>
    match r.body.collect maxRelayed with
    | .ok body => .ok (.json r.status body)
    | .error _ => .error .badGateway

namespace Relay

def call (relay : Relay) (place : PathAndQuery) (id : Option HeaderValue) : Call where
  collaborator := .monitoring
  method := .get
  target := relay.destination.target place
  headers := Headers.empty.withRequestId id
  body := .empty
  patience := relay.patience
  readLimit := some maxRelayed

def relay (relay : Relay) (target : RequestTarget) (id : Option HeaderValue) :
    Exchange (Except Failure Response) :=
  .ask (relay.call target.forwarded id) fun o => .done (relayResult o)

end Relay

end Gatehouse
