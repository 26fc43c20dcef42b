import Gatehouse.Config.Load
import Gatehouse.Forward
import Gatehouse.Origin
import Gatehouse.Relay
import Gatehouse.Route.Outbound
import Gatehouse.Route.Surface

namespace Gatehouse

/-- A gateway that is ready to work. -/
structure Gateway where
  routes : RouteTable
  auth : AuthClient
  forwarder : Forwarder
  monitoring : Relay
  policy : OriginPolicy
  bodyLimit : Nat
  /-- For a whole request, in milliseconds. -/
  patience : Nat

/-- A request with what is known of where it comes from. -/
structure Arrival where
  request : Request
  client : Option IpAddress
  /-- The id that the request is given if it brings none. -/
  freshId : HeaderValue

/-- What can go wrong around the handling of a request rather than in it. -/
inductive LayerFault where
  /-- The time for the whole request is up. -/
  | elapsed
  | other
deriving DecidableEq, Repr

def LayerFault.failure : LayerFault → Failure
  | elapsed => .requestTimeout
  | other => .internal

/-- The reply of a gateway that is well. -/
def healthResponse : Response :=
  .json .ok (Json.object [("service", .string "api-gateway"), ("status", .string "ok")]).bytes

def healthPath : String := "/health"

/-- The methods that the health path offers. -/
def healthMethods : HeaderValue := ⟨octetsOf "GET,HEAD", by decide⟩

namespace Request

/-- The length that the first content length field declares. -/
def declaredLength? (r : Request) : Option Nat :=
  (r.headers.text? .contentLength).bind fun text => word64? text.toList

/-- Whether more is declared than may be sent. -/
def isOversized (r : Request) (limit : Nat) : Bool := r.declaredLength?.any (limit < ·)

/-- The request with no more of its body than may be sent and was declared. -/
def withCappedBody (r : Request) (limit : Nat) : Request :=
  { r with body := r.body.cap (min limit (r.declaredLength?.getD limit)) }

/-- The request with an id: its own or the fresh one. -/
def identified (r : Request) (fresh : HeaderValue) : Request :=
  if r.headers.contains .requestId then r
  else { r with headers := r.headers.add .requestId fresh }

end Request

namespace Response

/-- Further cookies behind those that the response sets. -/
def withCookies (r : Response) (cookies : List HeaderValue) : Response :=
  { r with headers := cookies.foldl (·.add .setCookie ·) r.headers }

/-- The id of the request, unless the response brings one of its own. -/
def withRequestId (r : Response) (id : Option HeaderValue) : Response :=
  if r.headers.contains .requestId then r else { r with headers := r.headers.withRequestId id }

/-- What of a response is sent for this method: nothing but its head for some. -/
def sentFor (r : Response) (m : Method) : Response :=
  if m = .head ∨ (m = .connect ∧ r.status.isSuccess) then { r with body := .empty } else r

end Response

namespace Gateway

/-- Sets a gateway up, if its settings can be honoured. -/
def ofConfig (c : Config) : Except ConfigError Gateway := do
  let c ← c.validate
  match Destinations.ofBases c.bases with
  | .error fault => .error (.validation [⟨"upstreams", .unusable fault.message⟩])
  | .ok destinations =>
    let forwardPatience := c.timeouts.forwardSecs * 1000
    return {
      routes := surface
      auth := ⟨destinations.auth, authPatience⟩
      forwarder := ⟨destinations, forwardPatience⟩
      monitoring := ⟨destinations.monitoring, forwardPatience⟩
      policy := ⟨c.cors.allowedOrigins⟩
      bodyLimit := c.limits.maxBodyBytes
      patience := c.timeouts.requestSecs * 1000 }

/-- Whoever owns the session, if the route's transform has to know. -/
def identify (g : Gateway) (route : Route) (m : Method) (token : String)
    (id : Option HeaderValue) : Exchange (Option Identity) :=
  if route.transform.needsIdentity m then
    ((resolveIdentity token id).via g.auth.ask).bind fun found => .done found.toOption
  else .done none

/--
A failure to make the request that is sent on. That a body was waited for in vain shows only when
the time for the whole request is up.
-/
def failed (g : Gateway) (f : Failure) : Exchange (Except Failure Response) :=
  if f = .requestTimeout then .pause (g.patience + 1) (.done (.error f)) else .done (.error f)

/-- Sends the request that the transform makes, once it has the body, on to the route's target. -/
def deliver (g : Gateway) (route : Route) (identity : Option Identity) (r : Request)
    (id : Option HeaderValue) (client : Option IpAddress) : Exchange (Except Failure Response) :=
  .pause (route.transform.readTime r) <|
    match route.transform.apply identity g.bodyLimit r with
    | .error f => g.failed f
    | .ok outbound =>
      match route.target with
      | .monitoring => g.monitoring.relay outbound.target id
      | target => g.forwarder.forward target outbound client

/-- The answer on a route, with the cookies of a refreshed session, which no failure may lose. -/
def dispatch (g : Gateway) (route : Route) (r : Request) (id : Option HeaderValue)
    (client : Option IpAddress) : Exchange (Except Failure Response × List HeaderValue) :=
  if route.requiresAuth then
    ((validateSession r.headers id).via g.auth.ask).bind fun
      | .error f => .done (.error f.failure, [])
      | .ok session =>
        (g.identify route r.method session.token id).bind fun identity =>
          (g.deliver route identity r id client).bind fun result => .done (result, session.cookies)
  else (g.deliver route none r id client).bind fun result => .done (result, [])

/-- What the client is told when there is no route. -/
def NoRoute.failure : NoRoute → Failure
  | .path => .notFound
  | .method => .methodNotAllowed

/-- The response to a request that failed or was answered. -/
def responseOf : Except Failure Response → Response
  | .ok r => r
  | .error f => f.response

/-- Finds the route of a request, follows it and counts the answer. -/
def handle (g : Gateway) (r : Request) (client : Option IpAddress) : Exchange Response :=
  match g.routes.resolve r.method r.target.path with
  | .error e =>
    let response := (NoRoute.failure e).response
    .note (.request r.method response.status "none") (.done response)
  | .ok route =>
    (g.dispatch route r (r.headers.first? .requestId) client).bind fun (result, cookies) =>
      let response := (responseOf result).withCookies cookies
      .note (.request r.method response.status route.name) (.done response)

/-- The answer on the health path. -/
def health (m : Method) : Response :=
  if m = .get ∨ m = .head then healthResponse else Failure.methodNotAllowed.response

/-- Refuses bodies that are declared too long, before anything else is looked at. -/
def limited (g : Gateway) (r : Request) (client : Option IpAddress) : Exchange Response :=
  if r.isOversized g.bodyLimit then .done Failure.payloadTooLarge.response
  else if r.target.path = healthPath then .done (health r.method)
  else g.handle (r.withCappedBody g.bodyLimit) client

/-- Answers a preflight at once and any other request within the deadline. -/
def timed (g : Gateway) (r : Request) (client : Option IpAddress) : Exchange Response :=
  if r.method = .options then .done ⟨.noContent, .empty, .empty⟩
  else (g.limited r client).within g.patience LayerFault.elapsed.failure.response

/-- On the health path, methods it does not offer are told which it does. -/
def withAllowed (r : Request) (response : Response) : Response :=
  if r.target.path = healthPath ∧ r.method ≠ .get ∧ r.method ≠ .head then
    { response with headers := response.headers.set .allow healthMethods }
  else response

/-- The response as it leaves: with the decision on its origin and the id of the request. -/
def finish (g : Gateway) (r : Request) (response : Response) : Response :=
  let decided := { response with
    headers := (g.policy.decide r.headers).apply response.headers }
  (withAllowed r (decided.withRequestId (r.headers.first? .requestId))).sentFor r.method

/-- Serves a request. -/
def serve (g : Gateway) (a : Arrival) : Exchange Response :=
  let r := a.request.identified a.freshId
  (g.timed r a.client).bind fun response => .done (g.finish r response)

end Gateway

end Gatehouse
