import Gatehouse.Failure
import Gatehouse.Json.Parser
import Gatehouse.Route.Table
import Gatehouse.Session.Identity

namespace Gatehouse

/-- The path with `new` in place of `old` at its start; other paths stay. -/
def replaceStart (old new path : String) : String :=
  match dropStart? old.toList path.toList with
  | some rest => String.ofList (new.toList ++ rest)
  | none => path

/-- The same target at another path; the query stays. A target without a path gets none. -/
def RequestTarget.withPath (t : RequestTarget) (path : String) : Except Failure RequestTarget :=
  let text := match t.query with
    | some query => path ++ "?" ++ query
    | none => path
  match PathAndQuery.ofText text, t with
  | .ok place, .resource _ => .ok (.resource place)
  | .ok place, .absolute scheme authority _ => .ok (.absolute scheme authority place)
  | _, _ => .error .internal

/-- The members of a JSON object with `field` bound to the identity, as octets again. -/
def assertIdentity (field : String) (id : Option Identity) (body : ByteArray) :
    Except Failure ByteArray :=
  match Json.objectOfBytes? body with
  | none => .error .invalidPayload
  | some members =>
    match id with
    | none => .error .identityUnavailable
    | some id => .ok (Json.object (members.insert field (.string id.text))).bytes

/-- A body that cannot be read to its end is too large or invalid, or it is waited for in vain. -/
def ReadFault.failure : ReadFault → Failure
  | .overLimit => .payloadTooLarge
  | .brokenOff => .invalidPayload
  | .stalled => .requestTimeout

/-- Asks for the path that the identity has to itself. -/
def Request.scoped (r : Request) (template : String) (id : Option Identity) :
    Except Failure Request := do
  let some id := id | .error .identityUnavailable
  let some path := id.scopedPath? template | .error .identityUnavailable
  return { r with target := ← r.target.withPath path }

/-- Reads the body and puts one that asserts the identity in its place. -/
def Request.withAssertedBody (r : Request) (field : String) (id : Option Identity) (limit : Nat) :
    Except Failure Request := do
  let body ← (r.body.collect limit).mapError ReadFault.failure
  let asserted ← assertIdentity field id body
  let headers := (r.headers.set .contentLength (.ofNat asserted.size)).remove .transferEncoding
  return { r with headers, body := .whole asserted }

/-- How long the transform waits for the body of a request, in milliseconds. -/
def Transform.readTime (t : Transform) (r : Request) : Nat :=
  if t.readsBody r.method then r.bodyTime else 0

/-- The request that the transform makes of the one that came in. -/
def Transform.apply (t : Transform) (id : Option Identity) (limit : Nat) (r : Request) :
    Except Failure Request :=
  match t with
  | keep => .ok r
  | replaceStart old new => do
    return { r with target := ← r.target.withPath (Gatehouse.replaceStart old new r.target.path) }
  | assertIdentity field scopedPath =>
    if r.method = .get then
      match scopedPath with
      | none => .ok r
      | some template => r.scoped template id
    else if r.method.carriesBody then r.withAssertedBody field id limit
    else .ok r

end Gatehouse
