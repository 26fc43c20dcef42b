import Gatehouse.Proofs.Answers
import Gatehouse.Proofs.Patience
import Gatehouse.Proofs.Precedence
import Gatehouse.Proofs.Startup

namespace Gatehouse

open Program

/-- Whether the last call is never answered, and how long it would be waited for. -/
def EndsInSilence (patience : Nat) (qs : List (Call × Outcome)) : Prop :=
  ∃ before c, qs = before ++ [(c, .silent)] ∧ c.patience = patience

/-- Whether an outcome comes at once if it is an answer. -/
def Outcome.IsPrompt : Outcome → Prop
  | reply _ took => took = 0
  | _ => True

instance Outcome.decidableIsPrompt : (o : Outcome) → Decidable o.IsPrompt
  | reply _ took => inferInstanceAs (Decidable (took = 0))
  | refused _ | broken _ | silent => isTrue trivial

theorem Outcome.IsPrompt.wait_eq_zero {o : Outcome} (hp : o.IsPrompt) (hr : o.IsReply)
    (patience : Nat) : o.wait patience = 0 := by
  cases o with
  | reply => exact hp
  | _ => cases hr

theorem EndsInSilence.waited {patience : Nat} {qs : List (Call × Outcome)}
    (h : EndsInSilence patience qs) (hbefore : ∀ x ∈ qs.dropLast, x.2.wait x.1.patience = 0) :
    waited qs = patience := by
  obtain ⟨before, c, rfl, hc⟩ := h
  rw [List.dropLast_concat] at hbefore
  rw [waited_append, waited_eq_zero hbefore, Nat.zero_add, ← hc]
  rfl

theorem EndsInSilence.after {patience : Nat} {qs : List (Call × Outcome)}
    (h : EndsInSilence patience qs) (first : List (Call × Outcome)) :
    EndsInSilence patience (first ++ qs) := by
  obtain ⟨before, c, rfl, hc⟩ := h
  exact ⟨first ++ before, c, (List.append_assoc ..).symm, hc⟩

/-- Where none but the last call is waited for, no wait is added to another. -/
theorem waited_le {bound : Nat} {qs : List (Call × Outcome)}
    (hbefore : ∀ x ∈ qs.dropLast, x.2.wait x.1.patience = 0)
    (hbound : ∀ x ∈ qs, x.2.wait x.1.patience ≤ bound) : waited qs ≤ bound := by
  rcases List.eq_nil_or_concat qs with rfl | ⟨before, ⟨c, o⟩, rfl⟩
  · exact Nat.zero_le _
  · rw [List.concat_eq_append] at hbefore hbound ⊢
    rw [List.dropLast_concat] at hbefore
    have hlast : o.wait c.patience ≤ bound := hbound (c, o) (by simp)
    rw [waited_append, waited_eq_zero hbefore, Nat.zero_add, waited_cons, waited_nil]
    exact hlast

theorem mem_dropLast_append {α : Type} {x : α} {first last : List α}
    (h : x ∈ (first ++ last).dropLast) : x ∈ first ∨ x ∈ last.dropLast := by
  by_cases hl : last = []
  · rw [hl, List.append_nil] at h
    exact Or.inl ((List.dropLast_sublist first).mem h)
  · rw [List.dropLast_append_of_ne_nil hl] at h
    exact List.mem_append.mp h

theorem Failure.eq_requestTimeout {f : Failure} (h : f.status = .requestTimeout) :
    f = .requestTimeout := by
  revert h
  cases f <;> decide

theorem AuthClient.Denies.answered {client : AuthClient} {h : Headers} {id : Option HeaderValue}
    {t : String} {qs : List (Call × Outcome)} {f : Failure} (hd : client.Denies h id t qs f) :
    ∀ x ∈ qs.dropLast, x.2.IsReply := by
  cases hd with
  | serviceDown | rejected => simp
  | expired _ ho => simpa using Outcome.isReply_of_authStatus? ho

namespace Gateway

variable {g : Gateway} {route : Route} {r r' : Request} {id : Option HeaderValue}
  {client : Option IpAddress} {response : Response} {qs : List (Call × Outcome)}

theorem Identifies.length_le {m : Method} {t : String} {identity : Option Identity}
    (hi : Identifies g route m t id qs identity) : qs.length ≤ 1 := by
  cases hi <;> simp

/-- No call follows one that is not answered. -/
theorem Dispatches.answered {d : Nat} {answer : Except Failure Response × List HeaderValue}
    (hd : Dispatches g route r' id client qs d answer) : ∀ x ∈ qs.dropLast, x.2.IsReply := by
  cases hd with
  | unguarded _ hd => cases hd <;> simp
  | noSession => simp
  | denied _ _ hc => exact hc.answered
  | @admitted t checks lookup sent _ _ _ _ _ _ hc hi hd =>
    intro x hx
    rcases mem_dropLast_append hx with hx | hx
    · exact hc.answered x hx
    cases hd with
    | failed =>
      have hnone : (lookup ++ []).dropLast = [] := by
        rw [List.append_nil]
        exact List.eq_nil_of_length_eq_zero (by have := hi.length_le; simp; omega)
      rw [hnone] at hx
      cases hx
    | sent o hs =>
      rw [List.dropLast_concat] at hx
      exact hi.answered_of_ok hs x hx

theorem Dispatches.pause_eq_zero (hends : r.body.ending = .complete) (hhere : r.bodyTime = 0)
    {d : Nat} {answer : Except Failure Response × List HeaderValue}
    (hd : Dispatches g route (r.withCappedBody g.bodyLimit) id client qs d answer) : d = 0 := by
  have hmoves : ¬g.Stalls route r := fun hs => Body.collect_cap_ne_stalled hends _ hs.2
  have hread : route.transform.readTime r = 0 := by
    unfold Transform.readTime
    rw [hhere, ite_self]
  cases hd with
  | unguarded _ hd | admitted _ _ _ _ hd =>
    rcases hd.pause with ⟨hstalls, _⟩ | ⟨_, hpause⟩
    · exact absurd hstalls hmoves
    · exact hpause.trans hread
  | noSession | denied => rfl

/--
A request whose body is there either is answered at once or takes a course on a route to its end,
which is its answer unless the calls take more time than there is.
-/
theorem Serves.decided (hs : Serves g r client qs response) (hends : r.body.ending = .complete)
    (hhere : r.bodyTime = 0) (hprompt : ∀ x ∈ qs, x.2.IsPrompt) :
    (qs = [] ∧ Answers g r response) ∨
      ∃ route result cookies, Reaches g r route ∧
        Dispatches g route (r.withCappedBody g.bodyLimit) (r.headers.first? .requestId) client qs 0
          (result, cookies) ∧
        (waited qs ≤ g.patience ∧ response = (responseOf result).withCookies cookies ∨
          g.patience < waited qs ∧ response = Failure.requestTimeout.response) := by
  cases hs with
  | atOnce ha => exact Or.inl ⟨rfl, ha⟩
  | inTime hr hd ht =>
    obtain rfl := hd.pause_eq_zero hends hhere
    exact Or.inr ⟨_, _, _, hr, hd, Or.inl ⟨ht, rfl⟩⟩
  | @late _ hr _ more d d' answer hd ht =>
    have hpause := hd.pause_eq_zero hends hhere
    obtain rfl : d = 0 := by omega
    obtain rfl : d' = 0 := by omega
    have hmore : more = [] := by
      by_contra hne
      have hanswered : ∀ x ∈ qs, x.2.wait x.1.patience = 0 := by
        intro x hx
        refine (hprompt x hx).wait_eq_zero (hd.answered x ?_) _
        rw [List.dropLast_append_of_ne_nil hne]
        exact List.mem_append_left _ hx
      rw [waited_eq_zero hanswered] at ht
      omega
    subst hmore
    rw [List.append_nil] at hd
    exact Or.inr ⟨_, answer.1, answer.2, hr, hd, Or.inr ⟨ht, rfl⟩⟩

end Gateway

/-- What a request that needs an owner fails with where none is found: its body goes first. -/
def Request.unownedFailure (r : Request) (limit : Nat) : Failure :=
  if r.postsTenant then
    if min limit (r.declaredLength?.getD limit) < r.body.bytes.size then .payloadTooLarge
    else if (Json.objectOfBytes? r.body.bytes).isNone then .invalidPayload
    else .identityUnavailable
  else .identityUnavailable

namespace Request

variable {r : Request} {route : Route}

theorem collect_withCappedBody (hends : r.body.ending = .complete) (limit : Nat) :
    (r.withCappedBody limit).body.collect limit =
      if min limit (r.declaredLength?.getD limit) < r.body.bytes.size then .error .overLimit
      else .ok r.body.bytes := by
  split
  next hlong => exact Body.collect_of_overLimit (Body.cap_of_lt hlong)
  next hfits =>
    have hle := Nat.le_of_not_lt hfits
    have hbytes : (r.withCappedBody limit).body.bytes = r.body.bytes := Body.bytes_cap_of_le hle
    refine Body.collect_eq_ok_iff.mpr ⟨(Body.cap_of_le hle).2.trans hends, ?_, hbytes⟩
    rw [hbytes]
    omega

theorem apply_unowned (hends : r.body.ending = .complete) (hm : r.method ≠ .options)
    (hr : r.route? = some route) (hn : route.transform.needsIdentity r.method = true)
    (limit : Nat) :
    route.transform.apply none limit (r.withCappedBody limit) =
      .error (r.unownedFailure limit) := by
  rw [needsIdentity_eq hm hr, Bool.or_eq_true] at hn
  rcases hn with hposts | hlists
  · obtain ⟨hpath, hpost⟩ := postsTenant_iff.mp hposts
    obtain rfl := route?_eq_tenants hr hpath
    have hreads : surfaceRoutes[1].transform.readsBody r.method = true := by
      rw [hpost]
      rfl
    have happly : surfaceRoutes[1].transform.apply none limit (r.withCappedBody limit) =
        (r.withCappedBody limit).withAssertedBody "firebase_uid" none limit :=
      Transform.apply_asserted hreads
    rw [happly, unownedFailure, if_pos hposts]
    have hread := collect_withCappedBody hends limit
    split at hread
    next hlong =>
      rw [withAssertedBody_of_error hread, if_pos hlong]
      rfl
    next hfits =>
      rw [withAssertedBody_of_ok hread, if_neg hfits]
      unfold Gatehouse.assertIdentity
      cases Json.objectOfBytes? r.body.bytes <;> rfl
  · obtain ⟨hpath, hget⟩ := listsTenants_iff.mp hlists
    obtain rfl := route?_eq_tenants hr hpath
    have hposts : r.postsTenant = false := by simp [postsTenant, hget, Method.get, Method.post]
    have happly : surfaceRoutes[1].transform.apply none limit (r.withCappedBody limit) =
        (r.withCappedBody limit).scoped "/api/user/\x7bidentity\x7d/tenants" none :=
      Transform.apply_scoped (r := r.withCappedBody limit) hget _ _
    rw [happly, unownedFailure, hposts]
    rfl

theorem replies_eq (hm : r.method ≠ .options) (hr : r.route? = some route)
    (outcomes : List Outcome) : r.replies outcomes =
      .ofOutcomes route.requiresAuth (route.transform.needsIdentity r.method) outcomes := by
  rw [replies, needsIdentity_eq hm hr, hr]
  rfl

end Request

theorem Replies.answered_of_admits {client : AuthClient} {h : Headers} {id : Option HeaderValue}
    {t : String} {qs : List (Call × Outcome)} {cookies : List HeaderValue}
    (ha : client.Admits h id t qs cookies) (needsOwner : Bool) (more : List Outcome) :
    let replies := Replies.ofOutcomes true needsOwner (qs.map (·.2) ++ more)
    replies.check ≠ some .silent ∧ replies.renewal ≠ some .silent := by
  have hanswered : ∀ x ∈ qs, x.2 ≠ .silent := fun x hx => (ha.answered x hx).ne_silent
  cases ha with
  | valid _ ho =>
    have hne : (some Status.ok) ≠ some .unauthorized := by decide
    rw [List.map_cons, List.cons_append, Replies.ofOutcomes_checked (by rw [ho]; exact hne)]
    simpa using hanswered
  | refreshed _ ho _ ho' =>
    rw [List.map_cons, List.map_cons, List.cons_append, List.cons_append,
      Replies.ofOutcomes_renewed ho]
    simpa using hanswered

namespace Gateway

variable {c : Config} {ds : Destinations} {route : Route} {r r' : Request}
  {id : Option HeaderValue} {client : Option IpAddress} {qs : List (Call × Outcome)}
  {cookies : List HeaderValue} {result : Except Failure Response}

theorem patience_onwardCall (c : Config) (ds : Destinations) (route : Route) (outbound : Request)
    (id : Option HeaderValue) (client : Option IpAddress) :
    ((setUp c ds).onwardCall route outbound id client).patience = c.timeouts.forwardSecs * 1000 := by
  unfold onwardCall
  cases route.target <;> rfl

theorem onwardResult_silent (g : Gateway) (route : Route) (outbound : Request)
    (id : Option HeaderValue) (client : Option IpAddress) :
    g.onwardResult route outbound id client .silent = .error .gatewayTimeout := by
  unfold onwardResult
  cases route.target <;> rfl

theorem Delivers.hushed {identity : Option Identity} {d : Nat}
    (hd : Delivers (setUp c ds) route identity r' id client qs d result)
    (hs : (qs.map (·.2)).head? = some .silent) :
    EndsInSilence (c.timeouts.forwardSecs * 1000) qs ∧ result = .error .gatewayTimeout := by
  cases hd with
  | failed => cases hs
  | sent o =>
    obtain rfl := Option.some.inj hs
    exact ⟨⟨[], _, rfl, patience_onwardCall ..⟩, onwardResult_silent ..⟩

/--
Which call of a course is never answered, by what it was made for, how long it would be waited for,
and what the request fails with for it.
-/
structure Hushes (c : Config) (r : Request) (qs : List (Call × Outcome)) (replies : Replies)
    (result : Except Failure Response) (cookies : List HeaderValue) : Prop where
  check : replies.check = some .silent →
    EndsInSilence authPatience qs ∧ result = .error .authServiceUnavailable ∧ cookies = []
  renewal : replies.renewal = some .silent →
    EndsInSilence authPatience qs ∧ result = .error .sessionExpired ∧ cookies = []
  owner : replies.owner = some .silent →
    EndsInSilence authPatience qs ∧ replies.onward = none ∧
      result = .error (r.unownedFailure c.limits.maxBodyBytes) ∧ cookies = replies.cookies
  onward : replies.onward = some .silent → EndsInSilence (c.timeouts.forwardSecs * 1000) qs ∧
    result = .error .gatewayTimeout ∧ cookies = replies.cookies

theorem hushes_of_denies {f : Failure} {t : String} (needsOwner : Bool)
    (hd : (setUp c ds).auth.Denies r.headers id t qs f) :
    Hushes c r qs (.ofOutcomes true needsOwner (qs.map (·.2))) (.error f) [] := by
  cases hd with
  | @serviceDown call o hc ho =>
    rw [List.map_singleton, Replies.ofOutcomes_checked (by simp [ho]), takeIf_nil]
    refine ⟨fun hs => ⟨⟨[], call, ?_, hc.patience⟩, rfl, rfl⟩, nofun, nofun, nofun⟩
    obtain rfl : o = .silent := Option.some.inj hs
    rfl
  | rejected _ ho hs hu =>
    rw [List.map_singleton, Replies.ofOutcomes_checked (by simp [ho, hu]), takeIf_nil]
    exact ⟨fun h => absurd (Option.some.inj h) (Outcome.isReply_of_authStatus? ho).ne_silent, nofun,
      nofun, nofun⟩
  | @expired first call o o' _ ho hc' ho' =>
    rw [List.map_cons, List.map_singleton, Replies.ofOutcomes_renewed ho, takeIf_nil]
    refine ⟨fun h => absurd (Option.some.inj h) (Outcome.isReply_of_authStatus? ho).ne_silent,
      fun hs => ⟨⟨[(first, o)], call, ?_, hc'.patience⟩, rfl, rfl⟩, nofun, nofun⟩
    obtain rfl : o' = .silent := Option.some.inj hs
    rfl

/-- Where the lookup of the owner is never answered, nothing is sent on for want of an owner. -/
theorem Delivers.unowned {t : String} {owner : Option Identity}
    {lookup sent : List (Call × Outcome)} {d : Nat}
    (hd : Delivers (setUp c ds) route owner (r.withCappedBody c.limits.maxBodyBytes) id client sent
      d result)
    (hi : Identifies (setUp c ds) route r.method t id lookup owner) (hm : r.method ≠ .options)
    (hroute : r.route? = some route) (hends : r.body.ending = .complete)
    (hs : (takeIf (route.transform.needsIdentity r.method)
      ((lookup ++ sent).map (·.2))).1 = some .silent) :
    EndsInSilence authPatience (lookup ++ sent) ∧
      (takeIf (route.transform.needsIdentity r.method)
        ((lookup ++ sent).map (·.2))).2.head? = none ∧
      result = .error (r.unownedFailure c.limits.maxBodyBytes) := by
  cases hi with
  | needless hn => simp [takeIf, hn] at hs
  | @asked call o hn hme =>
    obtain rfl : o = .silent := by simpa [takeIf, hn] using hs
    have hfails := Request.apply_unowned hends hm hroute hn c.limits.maxBodyBytes
    cases hd with
    | failed hf =>
      refine ⟨⟨[], call, rfl, hme.patience⟩, by simp [takeIf, hn], ?_⟩
      exact congrArg Except.error (Except.error.inj (hf.symm.trans hfails))
    | sent _ hmade => cases hmade.symm.trans hfails

theorem Dispatches.hushed {d : Nat}
    (hd : Dispatches (setUp c ds) route (r.withCappedBody c.limits.maxBodyBytes) id client qs d
      (result, cookies))
    (hr : Reaches (setUp c ds) r route) (hends : r.body.ending = .complete) :
    Hushes c r qs (r.replies (qs.map (·.2))) result cookies := by
  have hroute : r.route? = some route := hr.route? rfl
  rw [Request.replies_eq hr.request hroute]
  cases hd with
  | unguarded ha hd =>
    have hmem := (Surface.resolve_ok_inv (Request.route?_eq_some_iff.mp hroute)).1
    rw [ha, Surface.needsIdentity_of_open route hmem ha, Replies.ofOutcomes_open]
    refine ⟨nofun, nofun, nofun, fun hs => ?_⟩
    obtain ⟨hsilence, hresult⟩ := hd.hushed hs
    exact ⟨hsilence, hresult, rfl⟩
  | noSession =>
    rw [List.map_nil, Replies.ofOutcomes_nil]
    exact ⟨nofun, nofun, nofun, nofun⟩
  | denied ha _ hc =>
    rw [ha]
    exact hushes_of_denies _ hc
  | @admitted t checks lookup sent _ owner _ _ ha ht hc hi hd =>
    obtain ⟨-, hcookies, howner, honward⟩ := Request.sessionRules_of_admits (r := r) ht hc
      (route.transform.needsIdentity r.method) ((lookup ++ sent).map (·.2))
    obtain ⟨hcheck, hrenewal⟩ := Replies.answered_of_admits hc
      (route.transform.needsIdentity r.method) ((lookup ++ sent).map (·.2))
    have hi : Identifies (setUp c ds) route r.method t id lookup owner := hi
    rw [ha, List.map_append]
    refine ⟨fun hs => absurd hs hcheck, fun hs => absurd hs hrenewal, fun hs => ?_, fun hs => ?_⟩
    · rw [howner] at hs
      rw [honward, hcookies]
      obtain ⟨hsilence, hnone, hresult⟩ := hd.unowned hi hr.request hroute hends hs
      exact ⟨hsilence.after checks, hnone, hresult, rfl⟩
    · rw [honward, (hi.takeIf_outcomes sent).2] at hs
      rw [hcookies]
      obtain ⟨hsilence, hresult⟩ := hd.hushed hs
      exact ⟨(hsilence.after lookup).after checks, hresult, rfl⟩

theorem Dispatches.waited_le {d bound : Nat} {answer : Except Failure Response × List HeaderValue}
    (hd : Dispatches (setUp c ds) route r' id client qs d answer)
    (hprompt : ∀ x ∈ qs, x.2.IsPrompt) (hauth : authPatience ≤ bound)
    (honward : c.timeouts.forwardSecs * 1000 ≤ bound) (hheard : ∀ x ∈ qs, x.2.wait 0 ≤ bound) :
    waited qs ≤ bound := by
  refine Gatehouse.waited_le (fun x hx => ?_) fun x hx => ?_
  · exact (hprompt x (List.dropLast_subset qs hx)).wait_eq_zero (hd.answered x hx) _
  by_cases hsilent : x.2 = .silent
  · rw [hsilent]
    rcases hd.call x hx with ⟨-, q, hq⟩ | ⟨outbound, hcall⟩
    · exact hq.patience.le.trans hauth
    · rw [hcall, Outcome.wait, patience_onwardCall]
      exact honward
  · exact (Outcome.wait_of_ne_silent hsilent ..).le.trans (hheard x hx)

theorem Answers.status_ne {g : Gateway} {response : Response} (ha : Answers g r response) :
    response.status ≠ .requestTimeout := by
  cases ha with
  | preflight | oversized => decide
  | health =>
    unfold Gateway.health
    split <;> decide
  | @unrouted _ _ _ e => cases e <;> decide

theorem onwardResult_ne {g : Gateway} {outbound : Request} (o : Outcome) :
    g.onwardResult route outbound id client o ≠ .error .requestTimeout := by
  unfold onwardResult
  split
  · cases o with
    | reply reply =>
      rw [relayResult]
      cases reply.body.collect maxRelayed <;> simp
    | _ => simp [relayResult]
  · cases o with
    | broken =>
      unfold forwardResult
      dsimp only
      split <;> simp
    | _ => simp [forwardResult]

/-- Only a body that is waited for in vain lets a request time out by itself. -/
theorem Delivers.pause_pos {g : Gateway} {identity : Option Identity} {d : Nat}
    (hd : Delivers g route identity r' id client qs d (.error .requestTimeout)) : 0 < d := by
  generalize hresult : (Except.error .requestTimeout : Except Failure Response) = result at hd
  cases hd with
  | failed =>
    cases hresult
    exact Nat.succ_pos _
  | sent o => exact absurd hresult.symm (onwardResult_ne o)

theorem Dispatches.pause_pos {g : Gateway} {d : Nat}
    (hd : Dispatches g route r' id client qs d (.error .requestTimeout, cookies)) : 0 < d := by
  cases hd with
  | unguarded _ hd => exact hd.pause_pos
  | denied _ _ hc => cases hc
  | admitted _ _ _ _ hd => exact hd.pause_pos

/--
What the client gets when a call is never answered that is waited for so many seconds: what it is
told of that, unless the time for the whole request is shorter.
-/
def GivesUp (g : Gateway) (r : Request) (patience limit : Nat) (told result : Response) : Prop :=
  (patience < limit → result = g.finish r told) ∧
    (limit < patience → result = g.finish r Failure.requestTimeout.response)

theorem givesUp_of_ends {g : Gateway} {patience limit : Nat} {told response given : Response}
    (hends : EndsInSilence (patience * 1000) qs)
    (hbefore : ∀ x ∈ qs.dropLast, x.2.wait x.1.patience = 0)
    (hdecided : waited qs ≤ limit * 1000 ∧ response = told ∨
      limit * 1000 < waited qs ∧ response = Failure.requestTimeout.response)
    (hgiven : given = g.finish r response) : g.GivesUp r patience limit told given := by
  rw [hends.waited hbefore] at hdecided
  rw [hgiven]
  refine ⟨fun htime => ?_, fun hlate => ?_⟩
  · rcases hdecided with ⟨-, rfl⟩ | ⟨hlong, -⟩
    · rfl
    · omega
  · rcases hdecided with ⟨hshort, -⟩ | ⟨-, rfl⟩
    · omega
    · rfl

/--
However a request is served whose body is there, the calls are answered but for the last, it does
not time out by itself, and it ends as what came of the calls says, unless they take too long.
-/
theorem Serves.ends {response : Response} (hs : Serves (setUp c ds) r client qs response)
    (hends : r.body.ending = .complete) (hhere : r.bodyTime = 0)
    (hprompt : ∀ x ∈ qs, x.2.IsPrompt) :
    (∀ x ∈ qs.dropLast, x.2.IsReply) ∧
    (∀ bound, authPatience ≤ bound → c.timeouts.forwardSecs * 1000 ≤ bound →
      (∀ x ∈ qs, x.2.wait 0 ≤ bound) → waited qs ≤ bound) ∧
    ∃ result cookies, Told r qs result ∧ result ≠ .error .requestTimeout ∧
      Hushes c r qs (r.replies (qs.map (·.2))) result cookies ∧
      (waited qs ≤ c.timeouts.requestSecs * 1000 ∧
          response = (responseOf result).withCookies cookies ∨
        c.timeouts.requestSecs * 1000 < waited qs ∧
          response = Failure.requestTimeout.response) := by
  rcases hs.decided hends hhere hprompt with ⟨rfl, ha⟩ | ⟨route, result, cookies, hr, hd, hdecided⟩
  · obtain ⟨told, htold, rfl⟩ := ha.told
    refine ⟨by simp, fun _ _ _ _ => Nat.zero_le _, told, [], htold, ?_, ?_,
      Or.inl ⟨Nat.zero_le _, rfl⟩⟩
    · rintro rfl
      exact ha.status_ne rfl
    · rw [List.map_nil, Request.replies, Replies.ofOutcomes_nil]
      exact ⟨nofun, nofun, nofun, nofun⟩
  · refine ⟨hd.answered, fun _ => hd.waited_le hprompt, result, cookies, hd.told, ?_,
      hd.hushed hr hends, hdecided⟩
    rintro rfl
    exact absurd hd.pause_pos (Nat.lt_irrefl 0)

/--
Where whoever answers does so at once, a call that is never answered is the last one made for a
request whose body is there. If the whole request has more time than any of its calls, it is told in
the way of that call: a session that is not checked for want of the service, one that is not renewed
as expired, an owner who is not found as the transform reports it, and a target that does not answer
in time. If it has less time than the call, it is told that its own time is up. But for that, it is
told so only where the reply that is handed on says the same.
-/
theorem serve_silence {σ : Type} {g : Gateway} (hg : ofConfig c = .ok g) (a : Arrival)
    (hends : a.request.body.ending = .complete) (hhere : a.request.bodyTime = 0)
    (answer : σ → Call → Outcome × σ) (s : σ)
    (hprompt : ∀ x ∈ ((g.serve a).run answer s).asked, x.2.IsPrompt) :
    let r := a.request.identified a.freshId
    let run := (g.serve a).run answer s
    let replies := r.replies (run.asked.map (·.2))
    let limit := c.timeouts.requestSecs
    (∀ x ∈ run.asked.dropLast, x.2 ≠ .silent) ∧
    (5 < limit → c.timeouts.forwardSecs < limit → run.result.status = .requestTimeout →
      ∃ call reply took, run.asked.getLast? = some (call, .reply reply took) ∧
        (call.isStreamed = true ∨ call.collaborator = .monitoring) ∧
        reply.status = .requestTimeout) ∧
    (replies.check = some .silent →
      g.GivesUp r 5 limit Failure.authServiceUnavailable.response run.result) ∧
    (replies.renewal = some .silent →
      g.GivesUp r 5 limit Failure.sessionExpired.response run.result) ∧
    (replies.owner = some .silent → replies.onward = none ∧
      g.GivesUp r 5 limit
        ((r.unownedFailure c.limits.maxBodyBytes).response.withCookies replies.cookies)
        run.result) ∧
    (replies.onward = some .silent →
      g.GivesUp r c.timeouts.forwardSecs limit
        (Failure.gatewayTimeout.response.withCookies replies.cookies) run.result) := by
  intro r run replies limit
  obtain ⟨-, ds, -, rfl⟩ := ofConfig_ok_inv hg
  have hbody : r.body = a.request.body := a.request.identified_body a.freshId
  obtain ⟨qs, response, heq, hserves, hresult⟩ := serves_run (setUp c ds) a answer s
  have houtcomes : run.asked.map (·.2) = qs.map (·.2) := outcomes_of_timeless heq
  have hreplies : replies = r.replies (qs.map (·.2)) := congrArg r.replies houtcomes
  have hquick : ∀ x ∈ qs, x.2.IsPrompt := forall_outcomes_of_timeless Outcome.IsPrompt heq hprompt
  obtain ⟨hanswered, hwaited, result, cookies, htold, hne, hhushes, hdecided⟩ :=
    hserves.ends (hbody ▸ hends) (a.request.identified_bodyTime a.freshId ▸ hhere) hquick
  have hheard : ∀ x ∈ qs, x.2.wait 0 ≤ limit * 1000 :=
    forall_outcomes_of_timeless (·.wait 0 ≤ limit * 1000) heq fun _ hx => wait_le_of_asked hx
  have hbefore : ∀ x ∈ qs.dropLast, x.2.wait x.1.patience = 0 := fun x hx =>
    (hquick x (List.dropLast_subset qs hx)).wait_eq_zero (hanswered x hx) _
  rw [← hreplies] at hhushes
  refine ⟨fun x hx hsilent => ?_, fun hauth honward hstatus => ?_, fun hs => ?_, fun hs => ?_,
    fun hs => ?_, fun hs => ?_⟩
  · have hmem : x.2 ∈ (qs.map (·.2)).dropLast := by
      rw [← houtcomes, ← List.map_dropLast]
      exact List.mem_map_of_mem hx
    rw [← List.map_dropLast] at hmem
    obtain ⟨y, hy, hyx⟩ := List.mem_map.mp hmem
    exact (hanswered y hy).ne_silent (hyx.trans hsilent)
  · have htime := hwaited (limit * 1000) (by unfold authPatience; omega) (by omega) hheard
    rcases hdecided with ⟨-, rfl⟩ | ⟨hlong, -⟩
    · rw [hresult, status_finish] at hstatus
      have hstatus : (responseOf result).status = .requestTimeout := hstatus
      have htold : Told r run.asked result := htold.congr heq.symm
      cases htold with
      | preflight | healthy => exact absurd hstatus (by decide)
      | failed f => exact absurd (congrArg Except.error (Failure.eq_requestTimeout hstatus)) hne
      | forwarded hlast hc => exact ⟨_, _, _, hlast, Or.inl hc, hstatus⟩
      | relayed hlast _ hm => exact ⟨_, _, _, hlast, Or.inr hm, hstatus⟩
    · omega
  · obtain ⟨hend, rfl, rfl⟩ := hhushes.check hs
    exact givesUp_of_ends hend hbefore hdecided hresult
  · obtain ⟨hend, rfl, rfl⟩ := hhushes.renewal hs
    exact givesUp_of_ends hend hbefore hdecided hresult
  · obtain ⟨hend, hnone, rfl, rfl⟩ := hhushes.owner hs
    exact ⟨hnone, givesUp_of_ends hend hbefore hdecided hresult⟩
  · obtain ⟨hend, rfl, rfl⟩ := hhushes.onward hs
    exact givesUp_of_ends hend hbefore hdecided hresult

/-- The owner's lookup is never answered: the backend is not asked, and the owner not found. -/
theorem serve_silence_owner :
    ofConfig {} = .ok (setUp {} usualDestinations) ∧
      (sampleArrival tenantsPath).request.body.ending = .complete ∧
      (sampleArrival tenantsPath).request.bodyTime = 0 ∧
      let run := ((setUp {} usualDestinations).serve (sampleArrival tenantsPath)).run
        Outcome.scripted [.reply ⟨.ok, .empty, .empty⟩ 0, .silent]
      run.asked.map (·.1.collaborator) = [.auth, .auth] ∧
        run.result = (setUp {} usualDestinations).finish (sampleArrival tenantsPath).request
          Failure.identityUnavailable.response := by
  refine ⟨ofConfig_empty, rfl, rfl, ?_⟩
  intro run
  have hroute : (sampleArrival tenantsPath).request.route? = some surfaceRoutes[1] := by
    unfold Request.route?
    rw [Surface.eq_ordered]
    rfl
  have hasked : run.asked.map (·.1.collaborator) = [.auth, .auth] := by
    unfold run
    rw [setUp_eq]
    decide +kernel
  refine ⟨hasked, ?_⟩
  have hprompt : ∀ x ∈ run.asked, x.2.IsPrompt := by
    unfold run
    rw [setUp_eq]
    decide +kernel
  have howner : ((sampleArrival tenantsPath).request.replies
      (run.asked.map (·.2))).owner.map (decide <| · = .silent) = some true := by
    unfold run Request.replies
    rw [hroute, setUp_eq]
    decide +kernel
  have hcookies : ((sampleArrival tenantsPath).request.replies
      (run.asked.map (·.2))).cookies = [] := by
    unfold run Request.replies
    rw [hroute, setUp_eq]
    decide +kernel
  obtain ⟨o, ho, hsilent⟩ := Option.map_eq_some_iff.mp howner
  obtain rfl : o = .silent := of_decide_eq_true hsilent
  have hresult := ((serve_silence ofConfig_empty (sampleArrival tenantsPath) rfl rfl
    Outcome.scripted [.reply ⟨.ok, .empty, .empty⟩ 0, .silent] hprompt).2.2.2.2.1 ho).2.1
    (by decide)
  have hid : (sampleArrival tenantsPath).request.identified (sampleArrival tenantsPath).freshId =
    (sampleArrival tenantsPath).request := by rfl
  dsimp only at hresult
  rw [hid, hcookies] at hresult
  exact hresult

/-- The target's own reply may say what the gateway never says where it has the time. -/
theorem timeout_handed :
    ofConfig {} = .ok (setUp {} usualDestinations) ∧
      5 < ({} : Config).timeouts.requestSecs ∧
      ({} : Config).timeouts.forwardSecs < ({} : Config).timeouts.requestSecs ∧
      (sampleArrival "/auth/login").request.body.ending = .complete ∧
      (sampleArrival "/auth/login").request.bodyTime = 0 ∧
      let run := ((setUp {} usualDestinations).serve (sampleArrival "/auth/login")).run
        Outcome.scripted [.reply ⟨.requestTimeout, .empty, .empty⟩ 0]
      (∀ x ∈ run.asked, x.2.IsReply ∧ x.2.IsPrompt) ∧ run.result.status = .requestTimeout := by
  refine ⟨ofConfig_empty, by decide, by decide, rfl, rfl, ?_⟩
  rw [setUp_eq]
  decide +kernel

end Gateway

end Gatehouse
