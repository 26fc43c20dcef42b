import Gatehouse.Cookie
import Gatehouse.Failure
import Gatehouse.Json.Parser
import Gatehouse.Metrics
import Gatehouse.Program
import Gatehouse.Session.Identity

namespace Gatehouse

/-- The questions to the auth service, each with the id of the request they are asked for. -/
inductive AuthQuestion where
  /-- Who owns the session of this token? -/
  | me (token : String) (id : Option HeaderValue)
  /-- A new session in place of the one in these cookies, please. -/
  | refresh (cookies : String) (id : Option HeaderValue)
deriving DecidableEq

/-- What the auth service answered. -/
structure AuthReply where
  status : Status
  /-- The cookies it wants set, in order. -/
  setCookies : List HeaderValue
  body : ByteArray

/-- Why no answer could be had. -/
inductive AuthFault where
  /-- None came within so many milliseconds. -/
  | timeout (patience : Nat)
  | transport
  /-- The body of the answer cannot be read or is too long. -/
  | body
deriving DecidableEq, Repr

/-- So many milliseconds in the largest unit that leaves no leading zero. -/
def durationText (ms : Nat) : String :=
  if ms = 0 then "0ns"
  else if ms < 1000 then decimalText ms ++ "ms"
  else
    let thousandths := padLeft '0' 3 (decimal (ms % 1000))
    let fraction := (thousandths.reverse.dropWhile (· == '0')).reverse
    let fraction := if fraction.isEmpty then "" else "." ++ String.ofList fraction
    decimalText (ms / 1000) ++ fraction ++ "s"

def AuthFault.timeoutText (patience : Nat) : String :=
  "auth call timed out after " ++ durationText patience

abbrev AuthAnswer := Except AuthFault AuthReply

/-- A program that talks to the auth service only. -/
abbrev SessionProgram (β : Type) := Program Event AuthQuestion AuthAnswer β

structure ValidSession where
  /-- The token as the client sent it. -/
  token : String
  refreshed : Bool
  /-- The cookies that came with a new session. -/
  cookies : List HeaderValue
deriving DecidableEq

inductive SessionFailure where
  | noSession
  | serviceDown
  | stillUnauthorized
  | rejected (status : Status)
deriving DecidableEq, Repr

namespace SessionFailure

def message : SessionFailure → String
  | noSession => "no session cookie"
  | serviceDown => "auth service unreachable"
  | stillUnauthorized => "session expired and refresh failed"
  | rejected s => "session rejected with status " ++ s.text

def outcome : SessionFailure → SessionOutcome
  | noSession => .noSession
  | serviceDown => .serviceDown
  | stillUnauthorized => .expired
  | rejected _ => .rejected

def failure : SessionFailure → Failure
  | noSession | rejected _ => .unauthorized
  | serviceDown => .authServiceUnavailable
  | stillUnauthorized => .sessionExpired

end SessionFailure

inductive IdentityFailure where
  | serviceDown
  | rejected (status : Status)
  | malformed
deriving DecidableEq, Repr

namespace IdentityFailure

def message : IdentityFailure → String
  | serviceDown => "auth service unreachable"
  | rejected s => "identity lookup rejected with status " ++ s.text
  | malformed => "identity reply has no usable uid field"

/-- What the client is told: why the lookup failed makes no difference. -/
def failure (_ : IdentityFailure) : Failure := .identityUnavailable

end IdentityFailure

/-- The name that the owner of a session has in the reply. -/
def identityField : String := "uid"

def AuthReply.identity (r : AuthReply) : Except IdentityFailure Identity :=
  if r.status ≠ .ok then .error (.rejected r.status)
  else match (Json.objectOfBytes? r.body).bind (Members.get? identityField) with
    | some (.string uid) => if uid.isEmpty then .error .malformed else .ok ⟨uid⟩
    | _ => .error .malformed

/-- Asks for a new session with all cookies of the request. -/
def refreshSession (h : Headers) (token : String) (id : Option HeaderValue) :
    SessionProgram (Except SessionFailure (List HeaderValue)) :=
  .ask (.refresh (h.fullCookie?.getD (sessionCookie ++ "=" ++ token)) id) fun
    | .ok reply =>
      .done (if reply.status = .ok then .ok reply.setCookies else .error .stillUnauthorized)
    | .error _ => .done (.error .stillUnauthorized)

/-- Checks the session that the cookies of a request name. -/
def checkSession (h : Headers) (id : Option HeaderValue) :
    SessionProgram (Except SessionFailure ValidSession) :=
  match h.sessionToken? with
  | none => .done (.error .noSession)
  | some token =>
    .ask (.me token id) fun
      | .error _ => .done (.error .serviceDown)
      | .ok reply =>
        if reply.status = .ok then .done (.ok ⟨token, false, []⟩)
        else if reply.status = .unauthorized then
          (refreshSession h token id).bind fun cookies =>
            .done (cookies.map fun cs => ⟨token, true, cs⟩)
        else .done (.error (.rejected reply.status))

/-- How a check is counted. -/
def checkOutcome : Except SessionFailure ValidSession → SessionOutcome
  | .ok session => if session.refreshed then .refreshed else .valid
  | .error f => f.outcome

/-- Checks the session of a request and counts how that ended. -/
def validateSession (h : Headers) (id : Option HeaderValue) :
    SessionProgram (Except SessionFailure ValidSession) :=
  (checkSession h id).bind fun result => .note (.sessionCheck (checkOutcome result)) (.done result)

/-- Asks who owns the session of a token. -/
def resolveIdentity (token : String) (id : Option HeaderValue) :
    SessionProgram (Except IdentityFailure Identity) :=
  .ask (.me token id) fun
    | .error _ => .done (.error .serviceDown)
    | .ok reply => .done reply.identity

end Gatehouse
