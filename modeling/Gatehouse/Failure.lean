import Gatehouse.Http.Message
import Gatehouse.Json.Printer

namespace Gatehouse

inductive Failure where
  /-- There is no session, or it was rejected outright. -/
  | unauthorized
  /-- The session has expired and could not be refreshed. -/
  | sessionExpired
  /-- The session is valid but its owner could not be found out. -/
  | identityUnavailable
  /-- The auth service gave no answer. -/
  | authServiceUnavailable
  /-- The body that identity is asserted in is no JSON object. -/
  | invalidPayload
  | notFound
  | methodNotAllowed
  /-- The body exceeds the limit. -/
  | payloadTooLarge
  /-- The time for the whole request is up. -/
  | requestTimeout
  /-- A collaborator other than the auth service could not be talked to. -/
  | badGateway
  /-- A collaborator other than the auth service did not answer in time. -/
  | gatewayTimeout
  | internal
deriving DecidableEq, Repr

namespace Failure

def message : Failure → String
  | unauthorized => "unauthorized"
  | sessionExpired => "session expired"
  | identityUnavailable => "failed to get user id"
  | authServiceUnavailable => "auth service unavailable"
  | invalidPayload => "invalid payload"
  | notFound => "not found"
  | methodNotAllowed => "method not allowed"
  | payloadTooLarge => "payload too large"
  | requestTimeout => "request timed out"
  | badGateway => "upstream unavailable"
  | gatewayTimeout => "upstream timed out"
  | internal => "internal error"

def status : Failure → Status
  | unauthorized | sessionExpired | identityUnavailable => .unauthorized
  | authServiceUnavailable => .serviceUnavailable
  | invalidPayload => .badRequest
  | notFound => .notFound
  | methodNotAllowed => .methodNotAllowed
  | payloadTooLarge => .payloadTooLarge
  | requestTimeout => .requestTimeout
  | badGateway => .badGateway
  | gatewayTimeout => .gatewayTimeout
  | internal => .internalError

/-- What the client is sent. -/
def response (f : Failure) : Response :=
  .json f.status (Json.object [("error", .string f.message)]).bytes

end Failure

end Gatehouse
