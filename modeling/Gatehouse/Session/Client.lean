import Gatehouse.Exchange
import Gatehouse.Session.Protocol

namespace Gatehouse

/-- Where the auth service is and how long each answer of it is waited for. -/
structure AuthClient where
  destination : Destination
  /-- In milliseconds. -/
  patience : Nat

/-- How long the gateway waits for the auth service, in milliseconds. -/
def authPatience : Nat := 5000

def maxAuthReply : Nat := 64 * 1024

def mePlace : PathAndQuery := ⟨"/auth/me", none⟩

def refreshPlace : PathAndQuery := ⟨"/auth/refresh", none⟩

namespace AuthQuestion

def method : AuthQuestion → Method
  | me .. => .get
  | refresh .. => .post

def place : AuthQuestion → PathAndQuery
  | me .. => mePlace
  | refresh .. => refreshPlace

/-- The text of the only cookie field that is sent. -/
def cookie : AuthQuestion → String
  | me token _ => sessionCookie ++ "=" ++ token
  | refresh cookies _ => cookies

def requestId : AuthQuestion → Option HeaderValue
  | me _ id | refresh _ id => id

end AuthQuestion

/-- A request id on top of other fields. -/
def Headers.withRequestId (h : Headers) : Option HeaderValue → Headers
  | some id => h.add .requestId id
  | none => h

/-- What an outcome means to the one who asked. -/
def Outcome.authAnswer (patience : Nat) : Outcome → AuthAnswer
  | refused _ | broken _ => .error .transport
  | silent => .error (.timeout patience)
  | reply r _ =>
    match r.body.collect maxAuthReply with
    | .ok body => .ok ⟨r.status, r.headers.all .setCookie, body⟩
    | .error _ => .error .body

namespace AuthClient

/-- The call that asks a question with this cookie field. -/
def call (client : AuthClient) (q : AuthQuestion) (cookie : HeaderValue) : Call where
  collaborator := .auth
  method := q.method
  target := client.destination.target q.place
  headers := (Headers.empty.add .cookie cookie).withRequestId q.requestId
  body := .empty
  patience := client.patience
  readLimit := some maxAuthReply

/-- Asks a question; cookies that no header field can carry are not sent at all. -/
def ask (client : AuthClient) (q : AuthQuestion) : Exchange AuthAnswer :=
  match HeaderValue.ofText? q.cookie with
  | none => .done (.error .transport)
  | some cookie => .ask (client.call q cookie) fun o => .done (o.authAnswer client.patience)

end AuthClient

end Gatehouse
