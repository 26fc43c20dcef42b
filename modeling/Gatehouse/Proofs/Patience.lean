import Gatehouse.Proofs.Serve
import Gatehouse.Proofs.Transform

namespace Gatehouse

/-- How long a call on a route may be waited for, whatever time is left to the request. -/
def Gateway.ownPatience (g : Gateway) (route : Route) (c : Call) : Nat :=
  if c.collaborator ≠ route.target then g.auth.patience
  else match route.target with
    | .monitoring => g.monitoring.patience
    | _ => g.forwarder.patience

/-- How long the calls on a route are waited for, each within its own patience. -/
def Gateway.ownWaits (g : Gateway) (route : Route) (qs : List (Call × Outcome)) : Nat :=
  waitedBy (g.ownPatience route) qs

/-- Whether the transform of a route reads the body of a request, and it stalls. -/
def Gateway.Stalls (g : Gateway) (route : Route) (r : Request) : Prop :=
  route.transform.readsBody r.method = true ∧
    (r.withCappedBody g.bodyLimit).body.collect g.bodyLimit = .error .stalled

/--
Whether the time runs out for a request that its route's target is to be asked for: the calls and
the reading of its body together last longer than the whole request may.
-/
def Gateway.RunsOut (g : Gateway) (route : Route) (r : Request) (asked : List (Call × Outcome)) :
    Prop :=
  g.patience < g.ownWaits route asked + route.transform.readTime r ∨ g.Stalls route r

namespace Gateway

variable {g : Gateway} {route : Route} {r : Request} {id : Option HeaderValue}
  {client : Option IpAddress} {qs : List (Call × Outcome)}

theorem ownWaits_congr {rs : List (Call × Outcome)} (h : timeless qs = timeless rs) :
    g.ownWaits route qs = g.ownWaits route rs := by
  have hown (c : Call) : g.ownPatience route c.timeless = g.ownPatience route c := rfl
  unfold ownWaits
  rw [← waitedBy_timeless hown, h, waitedBy_timeless hown]

theorem waited_eq_ownWaits (h : ∀ x ∈ qs, x.1.patience = g.ownPatience route x.1) :
    waited qs = g.ownWaits route qs := waitedBy_congr h

theorem ownPatience_onwardCall (g : Gateway) (route : Route) (outbound : Request)
    (id : Option HeaderValue) (client : Option IpAddress) :
    (g.onwardCall route outbound id client).patience =
      g.ownPatience route (g.onwardCall route outbound id client) := by
  unfold ownPatience
  rw [onwardCall_collaborator, if_neg (by simp)]
  unfold onwardCall
  cases route.target <;> rfl

theorem Dispatches.patience (htarget : route.requiresAuth = true → route.target ≠ .auth)
    {course : List (Call × Outcome)} {d : Nat}
    {answer : Except Failure Response × List HeaderValue}
    (hd : Dispatches g route r id client course d answer) :
    ∀ x ∈ course, x.1.patience = g.ownPatience route x.1 := by
  intro x hx
  rcases hd.call x hx with ⟨ha, q, hq⟩ | ⟨outbound, ho⟩
  · unfold ownPatience
    rw [if_pos (by rw [hq.collaborator]; exact (htarget ha).symm)]
    exact hq.patience
  · rw [ho]
    exact ownPatience_onwardCall g route outbound id client

theorem apply_of_stalls (hs : g.Stalls route r) (identity : Option Identity) :
    route.transform.apply identity g.bodyLimit (r.withCappedBody g.bodyLimit) =
      .error .requestTimeout := Transform.apply_requestTimeout_iff.mpr hs

/-- Only the body makes the way to the answer itself take time, and one that stalls too much. -/
theorem Delivers.pause {identity : Option Identity} {d : Nat} {result : Except Failure Response}
    (hd : Delivers g route identity (r.withCappedBody g.bodyLimit) id client qs d result) :
    (g.Stalls route r ∧ g.patience < d) ∨
      (¬g.Stalls route r ∧ d = route.transform.readTime r) := by
  cases hd with
  | @failed f hf =>
    unfold failureWait
    by_cases hr : f = .requestTimeout
    · subst hr
      rw [if_pos rfl]
      exact Or.inl ⟨Transform.apply_requestTimeout_iff.mp hf, by omega⟩
    · rw [if_neg hr]
      refine Or.inr ⟨fun hs => hr ?_, rfl⟩
      exact Except.error.inj (hf.symm.trans (apply_of_stalls hs identity))
  | sent o hs =>
    refine Or.inr ⟨fun hstalls => ?_, rfl⟩
    exact absurd (hs.symm.trans (apply_of_stalls hstalls identity)) (by simp)

end Gateway

end Gatehouse
