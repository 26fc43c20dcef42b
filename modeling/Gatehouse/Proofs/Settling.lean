import Gatehouse.Proofs.Stages

namespace Gatehouse

open Program

section

variable {client : AuthClient} {r : Request} {id : Option HeaderValue} {t : String}
  {qs : List (Call × Outcome)}

theorem Request.sessionRules_of_denies {f : Failure} (ht : r.headers.sessionToken? = some t)
    (hd : client.Denies r.headers id t qs f) (needsOwner : Bool) :
    firstApplicable (r.sessionRules (.ofOutcomes true needsOwner (qs.map (·.2)))) = some f ∧
      (Replies.ofOutcomes true needsOwner (qs.map (·.2))).cookies = [] := by
  cases hd with
  | serviceDown hc ho =>
    rw [List.map_cons, Replies.ofOutcomes_checked (by simp [ho])]
    simp [sessionRules, Replies.checkStatus?, Replies.renewalStatus?, Replies.cookies, ht, ho]
  | rejected hc ho hs hu =>
    rw [List.map_cons, Replies.ofOutcomes_checked (by simp [ho, hu])]
    simp [sessionRules, Replies.checkStatus?, Replies.renewalStatus?, Replies.cookies, ht, ho, hs,
      hu]
  | expired hc ho hc' ho' =>
    rw [List.map_cons, List.map_cons, Replies.ofOutcomes_renewed ho]
    simp [sessionRules, Replies.checkStatus?, Replies.renewalStatus?, Replies.cookies, ht, ho, ho']

/-- An accepted session passes its rules, and the further calls are for what comes behind them. -/
theorem Request.sessionRules_of_admits {cookies : List HeaderValue}
    (ht : r.headers.sessionToken? = some t) (ha : client.Admits r.headers id t qs cookies)
    (needsOwner : Bool) (more : List Outcome) :
    let replies := Replies.ofOutcomes true needsOwner (qs.map (·.2) ++ more)
    firstApplicable (r.sessionRules replies) = none ∧ replies.cookies = cookies ∧
      replies.owner = (takeIf needsOwner more).1 ∧
      replies.onward = (takeIf needsOwner more).2.head? := by
  cases ha with
  | valid hc ho =>
    have hne : (some Status.ok) ≠ some .unauthorized := by decide
    rw [List.map_cons, List.cons_append, Replies.ofOutcomes_checked (by rw [ho]; exact hne)]
    simp [sessionRules, Replies.checkStatus?, Replies.renewalStatus?, Replies.cookies, ht, ho, hne]
  | refreshed hc ho hc' ho' =>
    rw [List.map_cons, List.map_cons, List.cons_append, List.cons_append,
      Replies.ofOutcomes_renewed ho]
    simp [sessionRules, Replies.checkStatus?, Replies.renewalStatus?, Replies.cookies, ht, ho, ho',
      Outcome.setCookies]

end

/-- Whether a result is what the first rule says that applies, or a reply of the route's target. -/
def Request.Settles (r : Request) (rules : List (Bool × Failure)) (replies : Replies)
    (result : Except Failure Response) : Prop :=
  match firstApplicable rules with
  | some f => result = .error f
  | none => ∃ reply, replies.response? = some reply ∧ result = .ok (r.relayed reply)

namespace Request

variable {r : Request} {replies : Replies} {rules more : List (Bool × Failure)} {f : Failure}
  {result : Except Failure Response}

theorem settles_of_some (h : firstApplicable rules = some f) :
    r.Settles (rules ++ more) replies (.error f) := by
  unfold Settles
  rw [firstApplicable_append, h]
  rfl

theorem settles_of_none (h : firstApplicable rules = none) (hmore : r.Settles more replies result) :
    r.Settles (rules ++ more) replies result := by
  unfold Settles
  rw [firstApplicable_append, h]
  exact hmore

variable {o : Outcome}

theorem relayResult_settles (hm : r.monitors = true) (ho : o ≠ .silent)
    (hreplies : replies.onward = some o) :
    r.Settles (r.targetRules replies) replies (relayResult o) := by
  unfold Settles targetRules
  cases o with
  | refused | broken => simp [Replies.response?, hreplies, relayResult]
  | silent => exact absurd rfl ho
  | reply reply =>
    by_cases hread : reply.body.ending = .complete ∧ reply.body.bytes.size ≤ maxRelayed
    · have hbody : reply.body.collect maxRelayed = .ok reply.body.bytes :=
        Body.collect_eq_ok_iff.mpr ⟨hread.1, hread.2, rfl⟩
      simp [Replies.response?, hreplies, relayResult, hm, hread, hbody, relayed]
    · have hfault : ∃ fault, reply.body.collect maxRelayed = .error fault := by
        cases hc : reply.body.collect maxRelayed with
        | error fault => exact ⟨fault, rfl⟩
        | ok octets =>
          obtain ⟨hends, hs, _⟩ := Body.collect_eq_ok_iff.mp hc
          exact absurd ⟨hends, hs⟩ hread
      obtain ⟨fault, hfault⟩ := hfault
      have hrule : (decide (reply.body.ending = .complete) &&
          decide (reply.body.bytes.size ≤ maxRelayed)) = false := by simpa using hread
      simp [Replies.response?, hreplies, relayResult, hm, hrule, hfault]

theorem forwardResult_settles {sending : Ending} (hm : r.monitors = false)
    (hsent : sending ≠ .overLimit) (ho : o ≠ .silent) (hreplies : replies.onward = some o) :
    r.Settles (r.targetRules replies) replies (forwardResult sending o) := by
  unfold Settles targetRules
  cases o with
  | refused => simp [Replies.response?, hreplies, forwardResult]
  | broken => cases sending <;> simp_all [Replies.response?, forwardResult]
  | silent => exact absurd rfl ho
  | reply reply => simp [Replies.response?, hreplies, forwardResult, hm, relayed]

end Request

namespace Gateway

variable {g : Gateway} {route : Route} {r : Request} {id : Option HeaderValue}
  {client : Option IpAddress} {replies : Replies} {qs : List (Call × Outcome)}

theorem onwardResult_settles (hr : r.route? = some route) {outbound : Request} {o : Outcome}
    (hbody : route.target ≠ .monitoring → outbound.body.ending ≠ .overLimit) (ho : o ≠ .silent)
    (hreplies : replies.onward = some o) :
    r.Settles (r.targetRules replies) replies (g.onwardResult route outbound id client o) := by
  have hmonitors : r.monitors = decide (route.target = .monitoring) := by
    simp [Request.monitors, hr]
  unfold onwardResult
  split
  next hm => exact Request.relayResult_settles (by simp [hmonitors, hm]) ho hreplies
  next hm =>
    have hm : route.target ≠ .monitoring := hm
    have hsent : (g.onwardCall route outbound id client).sent.ending ≠ .overLimit := by
      rw [onwardCall_of_ne hm]
      exact Transmission.ending_ofRequest (hbody hm)
    exact Request.forwardResult_settles (by simp [hmonitors, hm]) hsent ho hreplies

theorem Reaches.route? (hr : Reaches g r route) (hg : g.routes = surface) :
    r.route? = some route := Request.route?_eq_some_iff.mpr (hg ▸ hr.found)

theorem Delivers.settles {owner : Option Identity} {d : Nat} {result : Except Failure Response}
    (hd : Delivers g route owner (r.withCappedBody g.bodyLimit) id client qs d result)
    (hg : g.routes = surface) (hr : Reaches g r route) (hw : r.IsWhole g.bodyLimit)
    (hs : ∀ x ∈ qs, x.2 ≠ .silent) (hreplies : replies.onward = (qs.map (·.2)).head?) :
    r.Settles (r.tenantRules g.bodyLimit owner ++ r.targetRules replies) replies result := by
  have hmakes := hw.makes hr.request hr.small (hr.route? hg) owner
  unfold Request.Makes at hmakes
  cases hd with
  | @failed f hf =>
    cases hrules : firstApplicable (r.tenantRules g.bodyLimit owner) with
    | some f' =>
      rw [hrules, hf] at hmakes
      cases hmakes
      exact Request.settles_of_some hrules
    | none =>
      rw [hrules, hf] at hmakes
      obtain ⟨_, hmade, _⟩ := hmakes
      cases hmade
  | @sent outbound o hsent =>
    cases hrules : firstApplicable (r.tenantRules g.bodyLimit owner) with
    | some f' =>
      rw [hrules, hsent] at hmakes
      cases hmakes
    | none =>
      rw [hrules, hsent] at hmakes
      obtain ⟨_, hmade, hbody⟩ := hmakes
      cases hmade
      exact Request.settles_of_none hrules
        (onwardResult_settles (hr.route? hg) hbody (hs _ (List.mem_singleton_self _)) hreplies)

/-- The owner is asked for exactly where the rules expect an outcome of that call. -/
theorem Identifies.takeIf_outcomes {m : Method} {t : String} {owner : Option Identity}
    (hi : Identifies g route m t id qs owner) (sent : List (Call × Outcome)) :
    (takeIf (route.transform.needsIdentity m) ((qs ++ sent).map (·.2))).1.bind Outcome.owner? =
        owner ∧
      (takeIf (route.transform.needsIdentity m) ((qs ++ sent).map (·.2))).2 =
        sent.map (·.2) := by
  cases hi with
  | needless hn => simp [takeIf, hn]
  | asked o hn => simp [takeIf, hn]

theorem Dispatches.settles {d : Nat} {result : Except Failure Response}
    {cookies : List HeaderValue}
    (hd : Dispatches g route (r.withCappedBody g.bodyLimit) id client qs d (result, cookies))
    (hg : g.routes = surface) (hr : Reaches g r route) (hw : r.IsWhole g.bodyLimit)
    (hs : ∀ x ∈ qs, x.2 ≠ .silent) :
    let replies := r.replies (qs.map (·.2))
    r.Settles (r.rules g.bodyLimit replies) replies result ∧ cookies = replies.cookies := by
  have hroute := hr.route? hg
  have hentry := Request.entryRules_of_routed hr.small hroute
  have hneeds := Request.needsIdentity_eq hr.request hroute
  have hguard : r.route?.any (·.requiresAuth) = route.requiresAuth := by simp [hroute]
  unfold Request.replies Request.rules
  rw [hguard, ← hneeds]
  cases hd with
  | unguarded ha hd =>
    have hmem := (Surface.resolve_ok_inv (Request.route?_eq_some_iff.mp hroute)).1
    rw [ha, Surface.needsIdentity_of_open route hmem ha, Replies.ofOutcomes_open]
    exact ⟨Request.settles_of_none hentry (hd.settles hg hr hw hs rfl), rfl⟩
  | noSession ha ht =>
    have ht : r.headers.sessionToken? = none := ht
    rw [ha, List.map_nil, Replies.ofOutcomes_nil]
    refine ⟨Request.settles_of_none hentry (Request.settles_of_some ?_), rfl⟩
    simp [Request.sessionRules, ht]
  | denied ha ht hc =>
    obtain ⟨hrules, hcookies⟩ :=
      Request.sessionRules_of_denies (r := r) ht hc (route.transform.needsIdentity r.method)
    rw [ha]
    exact ⟨Request.settles_of_none hentry (Request.settles_of_some hrules), hcookies.symm⟩
  | @admitted t checks lookup sent _ owner _ _ ha ht hc hi hd =>
    obtain ⟨hrules, hcookies, howner, honward⟩ :=
      Request.sessionRules_of_admits (r := r) ht hc (route.transform.needsIdentity r.method)
        ((lookup ++ sent).map (·.2))
    have hi : Identifies g route r.method t id lookup owner := hi
    have hlookup := hi.takeIf_outcomes sent
    have hsent : ∀ x ∈ sent, x.2 ≠ .silent := fun x hx => hs x (by simp [hx])
    rw [ha, List.map_append]
    refine ⟨Request.settles_of_none hentry (Request.settles_of_none hrules ?_), hcookies.symm⟩
    rw [Replies.owner?, howner, hlookup.1]
    exact hd.settles hg hr hw hsent (by rw [honward, hlookup.2])

end Gateway

end Gatehouse
