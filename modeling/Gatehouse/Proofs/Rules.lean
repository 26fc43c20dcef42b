import Gatehouse.Gateway
import Gatehouse.Proofs.AuthCalls
import Gatehouse.Proofs.Rewriting

namespace Gatehouse

section

variable {α : Type}

def firstApplicable (rules : List (Bool × α)) : Option α := (rules.find? (·.1)).map Prod.snd

@[simp] theorem firstApplicable_nil : firstApplicable ([] : List (Bool × α)) = none := rfl

theorem firstApplicable_cons (applies : Bool) (x : α) (rest : List (Bool × α)) :
    firstApplicable ((applies, x) :: rest) = if applies then some x else firstApplicable rest := by
  cases applies <;> rfl

@[simp] theorem firstApplicable_cons_true (x : α) (rest : List (Bool × α)) :
    firstApplicable ((true, x) :: rest) = some x := rfl

@[simp] theorem firstApplicable_cons_false (x : α) (rest : List (Bool × α)) :
    firstApplicable ((false, x) :: rest) = firstApplicable rest := rfl

theorem firstApplicable_append (rules more : List (Bool × α)) :
    firstApplicable (rules ++ more) = (firstApplicable rules).or (firstApplicable more) := by
  unfold firstApplicable
  rw [List.find?_append]
  cases rules.find? (·.1) <;> rfl

end

/-- The outcomes of the calls for a request, by what each was made for. -/
structure Replies where
  check : Option Outcome
  renewal : Option Outcome
  owner : Option Outcome
  onward : Option Outcome

/-- Takes the first member off a list, if there is a use for it. -/
def takeIf {α : Type} (wanted : Bool) (xs : List α) : Option α × List α :=
  if wanted then (xs.head?, xs.tail) else (none, xs)

theorem takeIf_nil {α : Type} (wanted : Bool) : takeIf wanted ([] : List α) = (none, []) := by
  cases wanted <;> rfl

namespace Replies

/--
The outcomes in the order of their calls: the session is checked on a guarded route, then renewed
if it has expired, and its owner looked up where the route needs one.
-/
def ofOutcomes (guarded needsOwner : Bool) (outcomes : List Outcome) : Replies :=
  let (check, rest) := takeIf guarded outcomes
  let (renewal, rest) := takeIf (check.bind Outcome.authStatus? = some .unauthorized) rest
  let (owner, rest) := takeIf needsOwner rest
  ⟨check, renewal, owner, rest.head?⟩

def checkStatus? (replies : Replies) : Option Status := replies.check.bind Outcome.authStatus?

def renewalStatus? (replies : Replies) : Option Status := replies.renewal.bind Outcome.authStatus?

def owner? (replies : Replies) : Option Identity := replies.owner.bind Outcome.owner?

/-- The cookies of a renewed session. -/
def cookies (replies : Replies) : List HeaderValue :=
  if replies.renewalStatus? = some .ok then replies.renewal.elim [] Outcome.setCookies else []

/-- The response of the route's target, if it gave one. -/
def response? (replies : Replies) : Option Response :=
  match replies.onward with
  | some (.reply r _) => some r
  | _ => none

theorem ofOutcomes_nil (guarded needsOwner : Bool) :
    ofOutcomes guarded needsOwner [] = ⟨none, none, none, none⟩ := by
  cases guarded <;> cases needsOwner <;> rfl

theorem ofOutcomes_open (outcomes : List Outcome) :
    ofOutcomes false false outcomes = ⟨none, none, none, outcomes.head?⟩ := rfl

theorem ofOutcomes_checked {o : Outcome} (h : o.authStatus? ≠ some .unauthorized)
    (needsOwner : Bool) (more : List Outcome) :
    ofOutcomes true needsOwner (o :: more) =
      ⟨some o, none, (takeIf needsOwner more).1, (takeIf needsOwner more).2.head?⟩ := by
  simp [ofOutcomes, takeIf, h]

theorem ofOutcomes_renewed {o : Outcome} (h : o.authStatus? = some .unauthorized)
    (needsOwner : Bool) (o' : Outcome) (more : List Outcome) :
    ofOutcomes true needsOwner (o :: o' :: more) =
      ⟨some o, some o', (takeIf needsOwner more).1, (takeIf needsOwner more).2.head?⟩ := by
  simp [ofOutcomes, takeIf, h]

end Replies

/-- Whether the body of a request is sent on while it arrives. -/
def Route.streamsBody (route : Route) (m : Method) : Bool :=
  !route.transform.readsBody m && route.target ≠ .monitoring

namespace Request

/-- The route of a request on the public surface. -/
def route? (r : Request) : Option Route := (surface.resolve r.method r.target.path).toOption

def postsTenant (r : Request) : Bool := r.target.path = tenantsPath && r.method = .post

def listsTenants (r : Request) : Bool := r.target.path = tenantsPath && r.method = .get

/-- Whether the target gets too long with the collection of an identity in place of its path. -/
def outgrows (r : Request) (id : Identity) : Bool :=
  maxTargetLength < (PathAndQuery.mk id.collection r.target.query).text.utf8ByteSize

/--
Whether a request is one that a server reads, whose body comes to its end with the length that is
declared and, where it is sent on while it arrives, stays within the limit.
-/
structure IsWhole (r : Request) (limit : Nat) : Prop where
  read : ∃ text, RequestTarget.ofText text = .ok r.target
  ends : r.body.ending = .complete
  declared : ∀ n, r.declaredLength? = some n → n = r.body.bytes.size
  streamed : ∀ route, r.route? = some route → route.streamsBody r.method →
    r.body.bytes.size ≤ limit

/-- The routes of the public surface that cover the path of a request. -/
def covering (r : Request) : List Route := surfaceRoutes.filter (·.path.accepts r.target.path)

/-- Rules for requests that no route is followed for. -/
def entryRules (r : Request) (limit : Nat) : List (Bool × Failure) :=
  [(r.isOversized limit, .payloadTooLarge),
   (r.covering.isEmpty, .notFound),
   (!r.covering.any (·.methods.allows r.method), .methodNotAllowed)]

def sessionRules (r : Request) (replies : Replies) : List (Bool × Failure) :=
  let check := replies.checkStatus?
  [(r.headers.sessionToken?.isNone, .unauthorized),
   (check.isNone, .authServiceUnavailable),
   (check = some .unauthorized && replies.renewalStatus? ≠ some .ok, .sessionExpired),
   (check ≠ some .unauthorized && check ≠ some .ok, .unauthorized)]

/-- Rules for requests that concern the caller's tenants. -/
def tenantRules (r : Request) (limit : Nat) (owner : Option Identity) : List (Bool × Failure) :=
  [(r.postsTenant && limit < r.body.bytes.size, .payloadTooLarge),
   (r.postsTenant && (Json.objectOfBytes? r.body.bytes).isNone, .invalidPayload),
   (r.postsTenant && owner.isNone, .identityUnavailable),
   (r.listsTenants && !owner.any Identity.isPathSafe, .identityUnavailable),
   (r.listsTenants && owner.any r.outgrows, .internal)]

/-- Whether a request is for the monitoring service, whose replies are read to their end. -/
def monitors (r : Request) : Bool := r.route?.any (·.target = .monitoring)

/-- Rules for requests that the route's target was asked for. -/
def targetRules (r : Request) (replies : Replies) : List (Bool × Failure) :=
  [(replies.response?.isNone, .badGateway),
   (r.monitors && !replies.response?.any fun reply =>
      reply.body.ending = .complete && reply.body.bytes.size ≤ maxRelayed, .badGateway)]

def rules (r : Request) (limit : Nat) (replies : Replies) : List (Bool × Failure) :=
  r.entryRules limit ++
    ((if r.route?.any (·.requiresAuth) then r.sessionRules replies else []) ++
      (r.tenantRules limit replies.owner? ++ r.targetRules replies))

def replies (r : Request) (outcomes : List Outcome) : Replies :=
  .ofOutcomes (r.route?.any (·.requiresAuth)) (r.postsTenant || r.listsTenants) outcomes

/-- What the client is sent of a reply. -/
def relayed (r : Request) (reply : Response) : Response :=
  if r.monitors then .json reply.status reply.body.bytes else reply.scrubbed

end Request

end Gatehouse
