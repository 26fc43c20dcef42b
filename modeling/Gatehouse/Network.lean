import Gatehouse.Gateway

namespace Gatehouse

/-- One scripted answer. -/
inductive Scripted where
  | answer (response : Response)
  /-- The answer is never given. -/
  | hang
  /-- The connection is closed instead. -/
  | close
  /-- The connection is lost before the body is complete. -/
  | truncate (response : Response)

/-- A request as a collaborator received it. -/
structure Received where
  collaborator : Collaborator
  method : Method
  place : PathAndQuery
  headers : Headers
  body : ByteArray

structure Network where
  /-- The collaborator that takes connections for a target, if any does. -/
  listener : RequestTarget → Option Collaborator
  /-- The answers that are left. -/
  script : Collaborator → List Scripted
  /-- What has been received, the last first. -/
  log : List Received

/-- What comes of a request of this method that is answered so, without delay. -/
def Scripted.outcome (m : Method) : Scripted → Outcome
  | answer r => delivered r
  | truncate r => delivered { r with body := .stream r.body.chunks .brokenOff }
  | hang => .silent
  | close => .broken 0
where
  /-- A response that is lost on the way is as good as none. -/
  delivered (r : Response) : Outcome :=
    match r.delivered? m with
    | some r => .reply r 0
    | none => .broken 0

/-- What a server answers a request that it cannot read. -/
def Response.refusal (s : Status) : Response :=
  ⟨s, Headers.empty.add .connection closeOption, .empty⟩

/-- Whether a caller that reads so much of the answer waits for more than there is. -/
def Outcome.keepsWaiting (o : Outcome) (readLimit : Option Nat) : Bool :=
  match o, readLimit with
  | .reply r _, some limit => (r.body.cap limit).ending = .stalled
  | _, _ => false

namespace Network

/-- The answer once the script has run out. -/
def blank : Scripted := .answer ⟨.ok, .empty, .empty⟩

/-- A collaborator takes a whole request in and answers it by the script. -/
def receive (n : Network) (r : Received) : Outcome × Network :=
  let left := n.script r.collaborator
  ((left.headD blank).outcome r.method,
    { n with
      script := fun who => if who = r.collaborator then left.tail else n.script who
      log := r :: n.log })

/--
What comes of a request. One that does not arrive in full leaves no trace, and neither does one that
is refused.
-/
def exchange (n : Network) (m : Method) (target : RequestTarget) (sent : Transmission) :
    Outcome × Network :=
  match n.listener target with
  | none => (.refused 0, n)
  | some who =>
    if sent.ending = .brokenOff ∨ sent.ending = .overLimit then (.broken 0, n)
    else match sent.readRequest with
      | .error status => (.reply (.refusal status) 0, n)
      | .ok (headers, body) =>
        if body.ending = .complete then
          n.receive ⟨who, m, (target.sent m).forwarded, headers, body.bytes⟩
        else (.silent, n)

def ask (n : Network) (m : Method) (target : RequestTarget) : Outcome × Network :=
  n.exchange m target (.ofRequest m (Headers.empty.withHost target) .empty)

def answer (n : Network) (c : Call) : Outcome × Network :=
  let (o, n) := n.exchange c.method c.target c.sent
  (if o.keepsWaiting c.readLimit then .silent else o, n)

end Network

end Gatehouse
