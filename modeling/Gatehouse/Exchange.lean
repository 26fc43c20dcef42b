import Gatehouse.Destination
import Gatehouse.Http.Framing
import Gatehouse.Metrics
import Gatehouse.Program

namespace Gatehouse

structure Call where
  collaborator : Collaborator
  method : Method
  target : RequestTarget
  headers : Headers
  body : Body
  /-- How long an answer is waited for, in milliseconds. -/
  patience : Nat
  /--
  How many octets of the answer are read while it is waited for, or nothing where the answer counts
  as given once it has begun.
  -/
  readLimit : Option Nat

/-- The server that a target names. -/
def RequestTarget.authority? : RequestTarget → Option String
  | .absolute _ authority _ | .server authority => some authority
  | .resource _ => none

/-- A target as a server reads it: a place of its own, or a server to be connected with. -/
def RequestTarget.sent (t : RequestTarget) (m : Method) : RequestTarget :=
  if m = .connect then .server (t.authority?.getD "") else .resource t.forwarded

/-- The fields with one that names the server, where there was none. -/
def Headers.withHost (h : Headers) (target : RequestTarget) : Headers :=
  if h.contains .host then h
  else match target.authority?.bind HeaderValue.ofText? with
    | some host => h.add .host host
    | none => h

def Call.sent (c : Call) : Transmission :=
  .ofRequest c.method (c.headers.withHost c.target) c.body

/-- What comes of a call, and after how many milliseconds it does. -/
inductive Outcome where
  | refused (took : Nat)
  /-- The connection was lost without an answer. -/
  | broken (took : Nat)
  /-- No answer comes while it is waited for. -/
  | silent
  | reply (response : Response) (took : Nat)

instance Outcome.decidableSilent : (o : Outcome) → Decidable (o = .silent)
  | silent => isTrue rfl
  | refused _ | broken _ | reply _ _ => isFalse nofun

/-- How long an outcome keeps a caller waiting who waits no longer than `patience`. -/
def Outcome.wait (patience : Nat) : Outcome → Nat
  | silent => patience
  | refused took | broken took | reply _ took => took

/-- What is heard of an outcome: one that comes later than it is waited for is not heard of. -/
def Call.hears (c : Call) (o : Outcome) : Outcome :=
  if o.wait c.patience ≤ c.patience then o else .silent

/-- A program that calls collaborators and counts what it does. -/
abbrev Exchange (β : Type) := Program Event Call Outcome β

namespace Exchange

/-- What is heard of someone who answers calls. -/
def hearing {σ : Type} (answer : σ → Call → Outcome × σ) (s : σ) (c : Call) : Outcome × σ :=
  let (o, s) := answer s c
  (c.hears o, s)

/-- Runs an exchange with someone who answers its calls in any time. -/
def run {β σ : Type} (answer : σ → Call → Outcome × σ) (s : σ) (p : Exchange β) :
    Program.Run σ Event Call Outcome β := Program.run (hearing answer) s p

/--
The same program with a deadline: when a call or a pause lasts beyond what is left of `budget`, the
program ends with `late`. A call whose own patience ends no later is given up first.
-/
def within {β : Type} (budget : Nat) (late : β) : Exchange β → Exchange β
  | .done b => .done b
  | .note e next => .note e (within budget late next)
  | .pause ms next =>
    if ms ≤ budget then .pause ms (within (budget - ms) late next) else .done late
  | .ask c next => .ask { c with patience := min c.patience budget } fun o =>
    let wait := o.wait c.patience
    if wait ≤ budget then within (budget - wait) late (next o) else .done late

end Exchange

end Gatehouse
