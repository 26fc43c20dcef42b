import Gatehouse.Gateway
import Gatehouse.Proofs.AuthCalls
import Gatehouse.Proofs.Deadline
import Gatehouse.Proofs.Transform

namespace Gatehouse

open Program

namespace Gateway

variable {g : Gateway} {route : Route} {r : Request} {id : Option HeaderValue}
  {client : Option IpAddress}

/-- The call that asks the route's target for what the transform made. -/
def onwardCall (g : Gateway) (route : Route) (outbound : Request) (id : Option HeaderValue)
    (client : Option IpAddress) : Call :=
  match route.target with
  | .monitoring => g.monitoring.call outbound.target.forwarded id
  | target => g.forwarder.call target outbound.target.forwarded outbound client

/-- The answer to the client, from what came of that call. -/
def onwardResult (g : Gateway) (route : Route) (outbound : Request) (id : Option HeaderValue)
    (client : Option IpAddress) (o : Outcome) : Except Failure Response :=
  match route.target with
  | .monitoring => relayResult o
  | _ => forwardResult (g.onwardCall route outbound id client).sent.ending o

theorem onwardCall_of_monitoring (hm : route.target = .monitoring) (outbound : Request) :
    g.onwardCall route outbound id client =
      g.monitoring.call outbound.target.forwarded id := by
  simp [onwardCall, hm]

theorem onwardCall_of_ne (hm : route.target ≠ .monitoring) (outbound : Request) :
    g.onwardCall route outbound id client =
      g.forwarder.call route.target outbound.target.forwarded outbound client := by
  unfold onwardCall
  split
  next h => exact absurd h hm
  next => rfl

theorem onwardResult_of_monitoring (hm : route.target = .monitoring) (outbound : Request)
    (o : Outcome) : g.onwardResult route outbound id client o = relayResult o := by
  simp [onwardResult, hm]

theorem onwardResult_of_ne (hm : route.target ≠ .monitoring) (outbound : Request) (o : Outcome) :
    g.onwardResult route outbound id client o =
      forwardResult (g.onwardCall route outbound id client).sent.ending o := by
  unfold onwardResult
  split
  next h => exact absurd h hm
  next => rfl

theorem onwardCall_collaborator (g : Gateway) (route : Route) (outbound : Request)
    (id : Option HeaderValue) (client : Option IpAddress) :
    (g.onwardCall route outbound id client).collaborator = route.target := by
  unfold onwardCall
  split
  next h => rw [h]; rfl
  next => rfl

def failureWait (g : Gateway) (f : Failure) : Nat :=
  if f = .requestTimeout then g.patience + 1 else 0

/-- The calls that identify the caller, as far as the route's transform has to know. -/
inductive Identifies (g : Gateway) (route : Route) (m : Method) (t : String)
    (id : Option HeaderValue) : List (Call × Outcome) → Option Identity → Prop where
  | needless (hn : route.transform.needsIdentity m = false) : Identifies g route m t id [] none
  | asked {c : Call} (o : Outcome) (hn : route.transform.needsIdentity m = true)
      (hc : g.auth.Asks (.me t id) c) : Identifies g route m t id [(c, o)] o.owner?

/-- The call that a request is sent on by, if it is, how long that takes, and the answer. -/
inductive Delivers (g : Gateway) (route : Route) (identity : Option Identity) (r : Request)
    (id : Option HeaderValue) (client : Option IpAddress) :
    List (Call × Outcome) → Nat → Except Failure Response → Prop where
  | failed {f : Failure} (hf : route.transform.apply identity g.bodyLimit r = .error f) :
      Delivers g route identity r id client [] (route.transform.readTime r + g.failureWait f)
        (.error f)
  | sent {outbound : Request} (o : Outcome)
      (hs : route.transform.apply identity g.bodyLimit r = .ok outbound) :
      Delivers g route identity r id client [(g.onwardCall route outbound id client, o)]
        (route.transform.readTime r) (g.onwardResult route outbound id client o)

/-- The calls for a request on a route, how long they pause, and the answer with its cookies. -/
inductive Dispatches (g : Gateway) (route : Route) (r : Request) (id : Option HeaderValue)
    (client : Option IpAddress) :
    List (Call × Outcome) → Nat → Except Failure Response × List HeaderValue → Prop where
  | unguarded {qs : List (Call × Outcome)} {d : Nat} {result : Except Failure Response}
      (ha : route.requiresAuth = false) (hd : Delivers g route none r id client qs d result) :
      Dispatches g route r id client qs d (result, [])
  | noSession (ha : route.requiresAuth = true) (ht : r.headers.sessionToken? = none) :
      Dispatches g route r id client [] 0 (.error .unauthorized, [])
  | denied {t : String} {qs : List (Call × Outcome)} {f : Failure}
      (ha : route.requiresAuth = true) (ht : r.headers.sessionToken? = some t)
      (hc : g.auth.Denies r.headers id t qs f) :
      Dispatches g route r id client qs 0 (.error f, [])
  | admitted {t : String} {qs qs' qs'' : List (Call × Outcome)} {cookies : List HeaderValue}
      {identity : Option Identity} {d : Nat} {result : Except Failure Response}
      (ha : route.requiresAuth = true) (ht : r.headers.sessionToken? = some t)
      (hc : g.auth.Admits r.headers id t qs cookies)
      (hi : Identifies g route r.method t id qs' identity)
      (hd : Delivers g route identity r id client qs'' d result) :
      Dispatches g route r id client (qs ++ (qs' ++ qs'')) d (result, cookies)

theorem Identifies.asksWith {m : Method} {t : String} {qs : List (Call × Outcome)}
    {identity : Option Identity} (hi : Identifies g route m t id qs identity) :
    ∀ x ∈ qs, g.auth.AsksWith id x.1 := by
  cases hi with
  | needless => simp
  | asked o hn hc => simpa using ⟨_, hc, rfl⟩

theorem Identifies.asks {m : Method} {t : String} {qs : List (Call × Outcome)}
    {identity : Option Identity} (hi : Identifies g route m t id qs identity) :
    ∀ x ∈ qs, ∃ q, g.auth.Asks q x.1 := fun x hx => (hi.asksWith x hx).asks

theorem Identifies.answered_of_ok {t : String} {qs : List (Call × Outcome)}
    {identity : Option Identity} (hi : Identifies g route r.method t id qs identity) {limit : Nat}
    {outbound : Request} (hs : route.transform.apply identity limit r = .ok outbound) :
    ∀ x ∈ qs, x.2.IsReply := by
  cases hi with
  | needless => simp
  | asked o hn _ =>
    intro x hx
    obtain rfl := List.mem_singleton.mp hx
    cases howner : o.owner? with
    | none =>
      obtain ⟨f, hf⟩ := Transform.apply_of_needsIdentity hn
      rw [howner, hf] at hs
      cases hs
    | some owner => exact Outcome.isReply_of_owner? howner

theorem Delivers.made {identity : Option Identity} {qs : List (Call × Outcome)} {d : Nat}
    {result : Except Failure Response} (hd : Delivers g route identity r id client qs d result) :
    ∀ x ∈ qs, ∃ outbound, route.transform.apply identity g.bodyLimit r = .ok outbound ∧
      x.1 = g.onwardCall route outbound id client := by
  cases hd with
  | failed => simp
  | @sent outbound o hs => simpa using ⟨outbound, hs, rfl⟩

theorem Delivers.call {identity : Option Identity} {qs : List (Call × Outcome)} {d : Nat}
    {result : Except Failure Response} (hd : Delivers g route identity r id client qs d result) :
    ∀ x ∈ qs, ∃ outbound, x.1 = g.onwardCall route outbound id client := by
  intro x hx
  obtain ⟨outbound, -, hcall⟩ := hd.made x hx
  exact ⟨outbound, hcall⟩

/-- Each call of a dispatch is a question with the id or asks for what the transform made. -/
theorem Dispatches.made {course : List (Call × Outcome)} {d : Nat}
    {answer : Except Failure Response × List HeaderValue}
    (hd : Dispatches g route r id client course d answer) :
    ∀ x ∈ course, (route.requiresAuth = true ∧ g.auth.AsksWith id x.1) ∨
      ∃ identity outbound, route.transform.apply identity g.bodyLimit r = .ok outbound ∧
        x.1 = g.onwardCall route outbound id client := by
  intro x hx
  cases hd with
  | unguarded ha hd => exact Or.inr ⟨_, hd.made x hx⟩
  | noSession => cases hx
  | denied ha _ hc => exact Or.inl ⟨ha, hc.asksWith x hx⟩
  | admitted ha _ hc hi hd =>
    rcases List.mem_append.mp hx with hx | hx
    · exact Or.inl ⟨ha, hc.asksWith x hx⟩
    rcases List.mem_append.mp hx with hx | hx
    · exact Or.inl ⟨ha, hi.asksWith x hx⟩
    · exact Or.inr ⟨_, hd.made x hx⟩

/-- The calls of a dispatch are questions to the auth service or for the route's target. -/
theorem Dispatches.call {course : List (Call × Outcome)} {d : Nat}
    {answer : Except Failure Response × List HeaderValue}
    (hd : Dispatches g route r id client course d answer) :
    ∀ x ∈ course, (route.requiresAuth = true ∧ ∃ q, g.auth.Asks q x.1) ∨
      ∃ outbound, x.1 = g.onwardCall route outbound id client := by
  intro x hx
  rcases hd.made x hx with ⟨ha, hasks⟩ | ⟨identity, outbound, -, hcall⟩
  · exact Or.inl ⟨ha, hasks.asks⟩
  · exact Or.inr ⟨outbound, hcall⟩

theorem trace_identify {t : String} (ht : r.headers.sessionToken? = some t) {es : List Event}
    {qs : List (Call × Outcome)} {d : Nat} {identity : Option Identity}
    (htrace : Trace (g.identify route r.method t id) es qs d (some identity)) :
    es = [] ∧ d = 0 ∧ Identifies g route r.method t id qs identity := by
  unfold identify at htrace
  split at htrace
  next hn =>
    obtain ⟨found, _, _, _, _, _, _, hr, hd, rfl, rfl, rfl⟩ := htrace.bind_some_inv
    obtain ⟨rfl, rfl, c, o, hc, rfl, howner⟩ := AuthClient.trace_resolve ht hr
    cases hd
    rw [howner]
    exact ⟨rfl, rfl, .asked o hn hc⟩
  next hn =>
    cases htrace
    exact ⟨rfl, rfl, .needless (by simpa using hn)⟩

theorem deliver_of_ok {identity : Option Identity} {outbound : Request}
    (hs : route.transform.apply identity g.bodyLimit r = .ok outbound) :
    g.deliver route identity r id client = .pause (route.transform.readTime r)
      (.ask (g.onwardCall route outbound id client) fun o =>
        .done (g.onwardResult route outbound id client o)) := by
  unfold deliver onwardCall onwardResult
  rw [hs]
  cases ht : route.target with
  | monitoring => rfl
  | _ => simp [onwardCall, ht, Forwarder.forward]

theorem trace_deliver {identity : Option Identity} {es : List Event} {qs : List (Call × Outcome)}
    {d : Nat} {result : Except Failure Response}
    (htrace : Trace (g.deliver route identity r id client) es qs d (some result)) :
    es = [] ∧ Delivers g route identity r id client qs d result := by
  cases hs : route.transform.apply identity g.bodyLimit r with
  | ok outbound =>
    rw [deliver_of_ok hs] at htrace
    cases htrace with
    | pause rest =>
      cases rest with
      | @ask _ _ o _ _ _ _ rest =>
        cases rest
        exact ⟨rfl, .sent o hs⟩
  | error f =>
    have hfailed : Delivers g route identity r id client []
        (route.transform.readTime r + g.failureWait f) (.error f) := .failed hs
    unfold deliver at htrace
    rw [hs] at htrace
    dsimp only at htrace
    unfold failed at htrace
    unfold failureWait at hfailed
    cases htrace with
    | pause rest =>
      split at rest
      next hf =>
        rw [if_pos hf] at hfailed
        cases rest with
        | pause rest =>
          cases rest
          exact ⟨rfl, hfailed⟩
      next hf =>
        rw [if_neg hf] at hfailed
        cases rest
        exact ⟨rfl, hfailed⟩

theorem trace_dispatch {es : List Event} {qs : List (Call × Outcome)} {d : Nat}
    {answer : Except Failure Response × List HeaderValue}
    (htrace : Trace (g.dispatch route r id client) es qs d (some answer)) :
    Dispatches g route r id client qs d answer := by
  unfold dispatch at htrace
  split at htrace
  next ha =>
    obtain ⟨checked, _, _, _, _, _, _, hv, hrest, rfl, rfl, rfl⟩ := htrace.bind_some_inv
    obtain ⟨_, rfl, ⟨ht, rfl, rfl⟩ | ⟨t, ht, h⟩⟩ := AuthClient.trace_validate hv
    · cases hrest
      exact .noSession ha ht
    rcases h with ⟨f, rfl, hdenies⟩ | ⟨session, rfl, htoken, hadmits⟩
    · cases hrest
      simpa using Dispatches.denied ha ht hdenies
    · obtain ⟨identity, _, _, _, _, _, _, hi, hlast, rfl, rfl, rfl⟩ := hrest.bind_some_inv
      obtain ⟨rfl, rfl, hidentifies⟩ := trace_identify ht (htoken ▸ hi)
      obtain ⟨result, _, _, _, _, _, _, hd, hdone, rfl, rfl, rfl⟩ := hlast.bind_some_inv
      obtain ⟨rfl, hdelivers⟩ := trace_deliver hd
      cases hdone
      simpa using Dispatches.admitted ha ht hadmits hidentifies hdelivers
  next ha =>
    obtain ⟨result, _, _, _, _, _, _, hd, hdone, rfl, rfl, rfl⟩ := htrace.bind_some_inv
    obtain ⟨rfl, hdelivers⟩ := trace_deliver hd
    cases hdone
    simpa using Dispatches.unguarded (by simpa using ha) hdelivers

end Gateway

end Gatehouse
