import Gatehouse.Exchange
import Gatehouse.Failure
import Gatehouse.Http.Scrub
import Gatehouse.Net.Address

namespace Gatehouse

/-- Who sends requests on: where the collaborators are and how long they are waited for. -/
structure Forwarder where
  destinations : Destinations
  /-- In milliseconds. -/
  patience : Nat

/-- The addresses that a request has come by, with one more behind them. -/
def forwardedForText (prior : Option String) (ip : IpAddress) : String :=
  match prior with
  | some p => if p.isEmpty then ip.text else p ++ ", " ++ ip.text
  | none => ip.text

namespace Headers

/-- Records the client's address behind those that the first field of this kind lists. -/
def withForwardedFor (h : Headers) : Option IpAddress → Headers
  | none => h
  | some ip =>
    match HeaderValue.ofText? (forwardedForText (h.text? .forwardedFor) ip) with
    | some v => h.set .forwardedFor v
    | none => h

/-- The fields that are sent on: none that concern one connection only, nor the host. -/
def sentOn (h : Headers) (client : Option IpAddress) : Headers :=
  (h.stripHopByHop.remove .host).withForwardedFor client

end Headers

/-- What the client is sent for a collaborator's answer. -/
def Response.scrubbed (r : Response) : Response := { r with headers := r.headers.scrub }

/-- The answer to the client, from how the sending of the call ended and what came of it. -/
def forwardResult (sending : Ending) : Outcome → Except Failure Response
  | .reply r _ => .ok r.scrubbed
  | .silent => .error .gatewayTimeout
  | .refused _ => .error .badGateway
  | .broken _ => .error (match sending with
    | .overLimit => .payloadTooLarge
    | _ => .badGateway)

namespace Forwarder

/-- The call that sends a request on to a place on a collaborator's server. -/
def call (fw : Forwarder) (target : Collaborator) (place : PathAndQuery) (r : Request)
    (client : Option IpAddress) : Call where
  collaborator := target
  method := r.method
  target := (fw.destinations.get target).target place
  headers := r.headers.sentOn client
  body := r.body
  patience := fw.patience
  readLimit := none

/-- Sends a request on. Its own scheme and server play no part. -/
def forward (fw : Forwarder) (target : Collaborator) (r : Request) (client : Option IpAddress) :
    Exchange (Except Failure Response) :=
  let c := fw.call target r.target.forwarded r client
  .ask c fun o => .done (forwardResult c.sent.ending o)

end Forwarder

end Gatehouse
