import Gatehouse.Proofs.Answers
import Gatehouse.Proofs.Body
import Gatehouse.Proofs.Grant
import Gatehouse.Proofs.Rephrasing

namespace Gatehouse

open Program

/-- A request without its origin fields. -/
def Request.originless (r : Request) : Request := { r with headers := r.headers.remove .origin }

def Arrival.originless (a : Arrival) : Arrival := { a with request := a.request.originless }

def Call.originless (c : Call) : Call := { c with headers := c.headers.remove .origin }

@[simp] theorem Request.originless_method (r : Request) : r.originless.method = r.method := rfl

@[simp] theorem Request.originless_target (r : Request) : r.originless.target = r.target := rfl

namespace Headers

variable {name other : HeaderName}

theorem contains_remove_of_ne (h : Headers) (hne : name ≠ other) :
    (h.remove name).contains other = h.contains other :=
  contains_congr (all_remove_of_ne h hne)

theorem first?_remove_of_ne (h : Headers) (hne : name ≠ other) :
    (h.remove name).first? other = h.first? other := by
  rw [first?, all_remove_of_ne h hne, first?]

theorem text?_remove_of_ne (h : Headers) (hne : name ≠ other) :
    (h.remove name).text? other = h.text? other := by
  rw [text?, first?_remove_of_ne h hne, text?]

theorem stripHopByHop_remove (h : Headers) (hne : name ≠ .connection) :
    (h.remove name).stripHopByHop = h.stripHopByHop.remove name := by
  have hlisted : (h.remove name).perConnection = h.perConnection := by
    unfold perConnection
    rw [all_remove_of_ne h hne]
  unfold stripHopByHop
  rw [hlisted, remove_foldl_remove]

theorem withForwardedFor_remove (h : Headers) (hne : name ≠ .forwardedFor)
    (client : Option IpAddress) :
    (h.remove name).withForwardedFor client = (h.withForwardedFor client).remove name := by
  unfold withForwardedFor
  cases client with
  | none => rfl
  | some ip =>
    dsimp only
    rw [text?_remove_of_ne h hne]
    split
    · rw [remove_set_of_ne h hne]
    · rfl

theorem sentOn_remove_origin (h : Headers) (client : Option IpAddress) :
    (h.remove .origin).sentOn client = (h.sentOn client).remove .origin := by
  rw [sentOn, stripHopByHop_remove h (by decide), remove_comm,
    withForwardedFor_remove _ (by decide), sentOn]

theorem withRequestId_remove_origin (h : Headers) (id : Option HeaderValue) :
    (h.withRequestId id).remove .origin = (h.remove .origin).withRequestId id := by
  cases id with
  | none => rfl
  | some v => exact remove_add_of_ne h (by decide) v

theorem cookieFields_remove_origin (h : Headers) :
    (h.remove .origin).cookieFields = h.cookieFields := by
  unfold cookieFields
  rw [all_remove_of_ne h (by decide)]

theorem sessionToken?_remove_origin (h : Headers) :
    (h.remove .origin).sessionToken? = h.sessionToken? := by
  unfold sessionToken? cookieValue?
  rw [first?_remove_of_ne h (by decide), cookieFields_remove_origin]

theorem fullCookie?_remove_origin (h : Headers) :
    (h.remove .origin).fullCookie? = h.fullCookie? := by
  unfold fullCookie?
  rw [cookieFields_remove_origin]

end Headers

namespace Request

variable {r : Request}

theorem identified_originless (r : Request) (fresh : HeaderValue) :
    (r.identified fresh).originless = r.originless.identified fresh := by
  have hsame : r.originless.headers.contains .requestId = r.headers.contains .requestId :=
    Headers.contains_remove_of_ne _ (by decide)
  unfold identified
  rw [hsame]
  split
  · rfl
  · have hadded : (r.headers.add .requestId fresh).remove .origin =
        (r.headers.remove .origin).add .requestId fresh :=
      Headers.remove_add_of_ne _ (by decide) fresh
    exact congrArg ({ r with headers := · }) hadded

theorem declaredLength?_originless (r : Request) :
    r.originless.declaredLength? = r.declaredLength? := by
  have hsame : r.originless.headers.text? .contentLength = r.headers.text? .contentLength :=
    Headers.text?_remove_of_ne _ (by decide)
  unfold declaredLength?
  rw [hsame]

theorem isOversized_originless (r : Request) (limit : Nat) :
    r.originless.isOversized limit = r.isOversized limit := by
  rw [isOversized, declaredLength?_originless, isOversized]

theorem withCappedBody_originless (r : Request) (limit : Nat) :
    (r.withCappedBody limit).originless = r.originless.withCappedBody limit := by
  unfold withCappedBody
  rw [declaredLength?_originless]
  rfl

theorem withAssertedBody_originless (r : Request) (field : String) (id : Option Identity)
    (limit : Nat) : r.originless.withAssertedBody field id limit =
      (r.withAssertedBody field id limit).map originless := by
  cases hc : r.body.collect limit with
  | error fault =>
    have hc' : r.originless.body.collect limit = .error fault := hc
    rw [withAssertedBody_of_error hc, withAssertedBody_of_error hc']
    rfl
  | ok body =>
    have hc' : r.originless.body.collect limit = .ok body := hc
    rw [withAssertedBody_of_ok hc, withAssertedBody_of_ok hc']
    cases Gatehouse.assertIdentity field id body with
    | error f => rfl
    | ok asserted =>
      have hsame : ((r.headers.remove .origin).set .contentLength (.ofNat asserted.size)).remove
            .transferEncoding =
          ((r.headers.set .contentLength (.ofNat asserted.size)).remove .transferEncoding).remove
            .origin := by
        rw [← Headers.remove_set_of_ne _ (by decide), Headers.remove_comm]
      exact congrArg (fun headers => Except.ok { r with headers, body := .whole asserted }) hsame

theorem originless_scoped (r : Request) (template : String) (id : Option Identity) :
    r.originless.scoped template id = (r.scoped template id).map originless := by
  unfold Request.scoped
  cases id with
  | none => rfl
  | some owner =>
    dsimp only
    cases owner.scopedPath? template with
    | none => rfl
    | some path =>
      rw [originless_target]
      dsimp only
      cases r.target.withPath path <;> rfl

end Request

/-- Every transform treats a request the same way without its origin. -/
theorem Transform.apply_originless (t : Transform) (id : Option Identity) (limit : Nat)
    (r : Request) : t.apply id limit r.originless = (t.apply id limit r).map Request.originless := by
  cases t with
  | keep => rfl
  | replaceStart old new =>
    rw [apply_replaceStart, apply_replaceStart, Request.originless_target]
    cases r.target.withPath (Gatehouse.replaceStart old new r.target.path) <;> rfl
  | assertIdentity field scopedPath =>
    unfold apply
    dsimp only
    rw [Request.originless_method]
    split
    · cases scopedPath with
      | none => rfl
      | some template => exact r.originless_scoped template id
    split
    · exact r.withAssertedBody_originless field id limit
    · rfl

theorem Call.ending_originless (c : Call) : c.originless.sent.ending = c.sent.ending := by
  have hframe {name : HeaderName} (hhost : HeaderName.host ≠ name)
      (horigin : HeaderName.origin ≠ name) :
      (c.originless.headers.withHost c.target).all name = (c.headers.withHost c.target).all name := by
    rw [Headers.all_withHost_of_ne _ hhost, Headers.all_withHost_of_ne _ hhost]
    exact Headers.all_remove_of_ne _ horigin
  exact Transmission.ending_ofRequest_congr (hframe (by decide) (by decide))
    (Headers.contains_congr (hframe (by decide) (by decide))) c.method c.body

theorem AuthClient.call_originless (client : AuthClient) (q : AuthQuestion) (cookie : HeaderValue) :
    (client.call q cookie).originless = client.call q cookie := by
  have hheaders : ((Headers.empty.add .cookie cookie).withRequestId q.requestId).remove .origin =
      (Headers.empty.add .cookie cookie).withRequestId q.requestId := by
    rw [Headers.withRequestId_remove_origin, Headers.remove_add_of_ne _ (by decide)]
    rfl
  exact congrArg ({ client.call q cookie with headers := · }) hheaders

theorem Exchange.within_originless {β : Type} (budget : Nat) (late : β) (p : Exchange β) :
    (p.within budget late).rephrase Call.originless =
      Exchange.within budget late (p.rephrase Call.originless) := by
  induction p generalizing budget with
  | done b => rfl
  | note e next ih => exact congrArg (note e) (ih budget)
  | pause ms next ih =>
    rw [rephrase, within, within]
    split
    · exact congrArg (pause ms) (ih (budget - ms))
    · rfl
  | ask c next ih =>
    rw [rephrase, within, within, rephrase]
    refine congrArg _ (funext fun o => ?_)
    change rephrase _ (if o.wait c.patience ≤ budget then _ else _) =
      if o.wait c.patience ≤ budget then _ else _
    split
    · exact ih o (budget - o.wait c.patience)
    · rfl

theorem Exchange.run_of_rephrase_eq {β σ τ : Type} {f : Call → Call}
    {answer : σ → Call → Outcome × σ} {answer' : τ → Call → Outcome × τ} {p q : Exchange β}
    (hpq : p.rephrase f = q.rephrase f) {s : σ} {t : τ}
    (ha : AnsweredAlike f (p.run answer s).asked (q.run answer' t).asked) :
    (p.run answer s).result = (q.run answer' t).result ∧
      (p.run answer s).events = (q.run answer' t).events ∧
      (p.run answer s).asked.map (Prod.map f id) =
        (q.run answer' t).asked.map (Prod.map f id) :=
  Program.run_of_rephrase_eq hpq ha

theorem validateSession_remove_origin (h : Headers) (id : Option HeaderValue) :
    validateSession (h.remove .origin) id = validateSession h id := by
  unfold validateSession checkSession refreshSession
  rw [Headers.sessionToken?_remove_origin, Headers.fullCookie?_remove_origin]

theorem AuthClient.rephrase_via_ask {β : Type} (client : AuthClient) (p : SessionProgram β) :
    (p.via client.ask).rephrase Call.originless = p.via client.ask := by
  rw [rephrase_via]
  congr 1
  funext q
  unfold ask
  split
  · rfl
  · rw [rephrase, call_originless]
    rfl

namespace Gateway

variable {g : Gateway} {route : Route} {id : Option HeaderValue} {client : Option IpAddress}

theorem onwardCall_originless (outbound : Request) :
    g.onwardCall route outbound.originless id client =
      (g.onwardCall route outbound id client).originless := by
  by_cases hm : route.target = .monitoring
  · rw [onwardCall_of_monitoring hm, onwardCall_of_monitoring hm]
    exact congrArg ({ g.monitoring.call outbound.target.forwarded id with headers := · })
      (Headers.withRequestId_remove_origin .empty id).symm
  · rw [onwardCall_of_ne hm, onwardCall_of_ne hm]
    exact congrArg ({ g.forwarder.call route.target outbound.target.forwarded outbound client with
      headers := · }) (Headers.sentOn_remove_origin outbound.headers client)

theorem onwardResult_originless (outbound : Request) (o : Outcome) :
    g.onwardResult route outbound.originless id client o =
      g.onwardResult route outbound id client o := by
  by_cases hm : route.target = .monitoring
  · rw [onwardResult_of_monitoring hm, onwardResult_of_monitoring hm]
  · rw [onwardResult_of_ne hm, onwardResult_of_ne hm, onwardCall_originless,
      Call.ending_originless]

theorem identify_originless (g : Gateway) (route : Route) (m : Method) (token : String)
    (id : Option HeaderValue) :
    (g.identify route m token id).rephrase Call.originless = g.identify route m token id := by
  unfold identify
  split
  · rw [rephrase_bind, AuthClient.rephrase_via_ask]
    rfl
  · rfl

theorem deliver_originless (g : Gateway) (route : Route) (identity : Option Identity) (r : Request)
    (id : Option HeaderValue) (client : Option IpAddress) :
    (g.deliver route identity r id client).rephrase Call.originless =
      g.deliver route identity r.originless id client := by
  have happly := route.transform.apply_originless identity g.bodyLimit r
  cases hs : route.transform.apply identity g.bodyLimit r with
  | error f =>
    rw [hs] at happly
    unfold deliver
    rw [hs, happly]
    refine congrArg (pause _) ?_
    change (g.failed f).rephrase Call.originless = g.failed f
    unfold failed
    split <;> rfl
  | ok outbound =>
    rw [hs] at happly
    rw [deliver_of_ok hs, deliver_of_ok happly, onwardCall_originless]
    refine congrArg (pause _) (congrArg (ask _) (funext fun o => ?_))
    rw [onwardResult_originless]
    rfl

theorem dispatch_originless (g : Gateway) (route : Route) (r : Request) (id : Option HeaderValue)
    (client : Option IpAddress) :
    (g.dispatch route r id client).rephrase Call.originless =
      g.dispatch route r.originless id client := by
  have hcheck : validateSession r.originless.headers id = validateSession r.headers id :=
    validateSession_remove_origin r.headers id
  unfold dispatch
  rw [hcheck]
  split
  · rw [rephrase_bind, AuthClient.rephrase_via_ask]
    refine congrArg _ (funext fun checked => ?_)
    cases checked with
    | error f => rfl
    | ok session =>
      dsimp only
      rw [rephrase_bind, identify_originless, Request.originless_method]
      refine congrArg _ (funext fun identity => ?_)
      rw [rephrase_bind, deliver_originless]
      rfl
  · rw [rephrase_bind, deliver_originless]
    rfl

theorem handle_originless (g : Gateway) (r : Request) (client : Option IpAddress) :
    (g.handle r client).rephrase Call.originless = g.handle r.originless client := by
  have hid : r.originless.headers.first? .requestId = r.headers.first? .requestId :=
    Headers.first?_remove_of_ne _ (by decide)
  unfold handle
  rw [Request.originless_method, Request.originless_target, hid]
  split
  · rfl
  · rw [rephrase_bind, dispatch_originless]
    rfl

theorem timed_originless (g : Gateway) (r : Request) (client : Option IpAddress) :
    (g.timed r client).rephrase Call.originless = g.timed r.originless client := by
  have hlimited : (g.limited r client).rephrase Call.originless = g.limited r.originless client := by
    unfold limited
    rw [Request.isOversized_originless, Request.originless_target, Request.originless_method,
      ← Request.withCappedBody_originless, ← handle_originless]
    split
    · rfl
    · split <;> rfl
  unfold timed
  rw [Request.originless_method, ← hlimited, ← Exchange.within_originless]
  split <;> rfl

end Gateway

/-- The names of the fields that a decision grants an origin the reading of a response by. -/
def grantNames : List HeaderName := [.allowOrigin, .allowCredentials, .allowMethods, .allowHeaders]

namespace Headers

variable {name : HeaderName}

/-- The fields but those that grant an origin the reading of a response. -/
def ungranted (h : Headers) : Headers := ⟨h.fields.filter (·.name ∉ grantNames)⟩

/-- The fields but the last one that is equal to this one. -/
def withoutLast (h : Headers) (f : Field) : Headers := ⟨(h.fields.reverse.erase f).reverse⟩

theorem ungranted_add (h : Headers) (hn : name ∉ grantNames) (value : HeaderValue) :
    (h.add name value).ungranted = h.ungranted.add name value := by
  simp [ungranted, add, List.filter_append, hn]

theorem ungranted_remove (h : Headers) (name : HeaderName) :
    (h.remove name).ungranted = h.ungranted.remove name := by
  simp [ungranted, remove, List.filter_filter, Bool.and_comm]

theorem ungranted_set (h : Headers) (hn : name ∉ grantNames) (value : HeaderValue) :
    (h.set name value).ungranted = h.ungranted.set name value := by
  rw [set, ungranted_add _ hn, ungranted_remove]
  rfl

theorem ungranted_set_of_mem (h : Headers) (hn : name ∈ grantNames) (value : HeaderValue) :
    (h.set name value).ungranted = h.ungranted := by
  have hkept : (h.fields.filter fun f => decide (f.name ∉ grantNames) && decide (f.name ≠ name)) =
      h.fields.filter (·.name ∉ grantNames) := by
    refine List.filter_congr fun f _ => ?_
    by_cases hf : f.name = name
    · simp [hf, hn]
    · simp [hf]
  unfold ungranted set remove add
  rw [List.filter_append, List.filter_filter, hkept]
  simp [hn]

theorem all_ungranted (h : Headers) (hn : name ∉ grantNames) :
    h.ungranted.all name = h.all name :=
  h.all_filter (· ∉ grantNames) (by simpa using hn)

theorem all_withoutLast (h : Headers) {f : Field} (hn : name ≠ f.name) :
    (h.withoutLast f).all name = h.all name := by
  have hmem : f ∉ h.fields.reverse.filter (·.name = name) := by simp [hn.symm]
  unfold all withoutLast
  rw [List.filter_reverse, ← List.erase_filter, List.erase_of_not_mem hmem, List.filter_reverse,
    List.reverse_reverse]

theorem withoutLast_add_self (h : Headers) (name : HeaderName) (value : HeaderValue) :
    (h.add name value).withoutLast ⟨name, value⟩ = h := by
  simp [withoutLast, add]

theorem withoutLast_add (h : Headers) {f : Field} (hn : name ≠ f.name) (value : HeaderValue) :
    (h.add name value).withoutLast f = (h.withoutLast f).add name value := by
  have hne : (⟨name, value⟩ : Field) ≠ f := fun he => hn (congrArg Field.name he)
  simp [withoutLast, add, hne]

theorem withoutLast_remove (h : Headers) (f : Field) (name : HeaderName) :
    (h.remove name).withoutLast f = (h.withoutLast f).remove name := by
  unfold withoutLast remove
  rw [← List.filter_reverse, List.erase_filter, List.filter_reverse]

end Headers

namespace OriginDecision

/-- The header fields of a response without what the decision has written onto them. -/
def withdraw : OriginDecision → Headers → Headers
  | deny, h => h.ungranted
  | allow _, h => h.ungranted.withoutLast ⟨.vary, variesByOrigin⟩

variable {name : HeaderName}

theorem withdraw_apply (decision : OriginDecision) (h : Headers) :
    decision.withdraw (decision.apply h) = h.ungranted := by
  cases decision with
  | deny => rfl
  | allow origin =>
    rw [apply, withdraw, Headers.ungranted_add _ (by decide), Headers.withoutLast_add_self,
      Headers.ungranted_set_of_mem _ (by decide), Headers.ungranted_set_of_mem _ (by decide),
      Headers.ungranted_set_of_mem _ (by decide), Headers.ungranted_set_of_mem _ (by decide)]

theorem withdraw_add (decision : OriginDecision) (h : Headers) (hn : name ∉ grantNames)
    (hvary : name ≠ .vary) (value : HeaderValue) :
    decision.withdraw (h.add name value) = (decision.withdraw h).add name value := by
  cases decision with
  | deny => exact Headers.ungranted_add h hn value
  | allow origin =>
    rw [withdraw, Headers.ungranted_add h hn, Headers.withoutLast_add _ hvary, withdraw]

theorem withdraw_set (decision : OriginDecision) (h : Headers) (hn : name ∉ grantNames)
    (hvary : name ≠ .vary) (value : HeaderValue) :
    decision.withdraw (h.set name value) = (decision.withdraw h).set name value := by
  cases decision with
  | deny => exact Headers.ungranted_set h hn value
  | allow origin =>
    rw [Headers.set, withdraw_add _ _ hn hvary, withdraw, Headers.ungranted_remove,
      Headers.withoutLast_remove, withdraw, Headers.set]

theorem contains_withdraw (decision : OriginDecision) (h : Headers) (hn : name ∉ grantNames)
    (hvary : name ≠ .vary) : (decision.withdraw h).contains name = h.contains name := by
  refine Headers.contains_congr ?_
  cases decision with
  | deny => exact h.all_ungranted hn
  | allow origin => rw [withdraw, Headers.all_withoutLast _ hvary, h.all_ungranted hn]

end OriginDecision

theorem Response.headers_withRequestId (x : Response) (id : Option HeaderValue) :
    (x.withRequestId id).headers =
      if x.headers.contains .requestId then x.headers else x.headers.withRequestId id := by
  unfold withRequestId
  split <;> rfl

namespace Gateway

theorem headers_withAllowed (r : Request) (x : Response) :
    (withAllowed r x).headers =
      if r.target.path = healthPath ∧ r.method ≠ .get ∧ r.method ≠ .head then
        x.headers.set .allow healthMethods
      else x.headers := by
  unfold withAllowed
  split <;> rfl

/--
The fields of a finished response without what the decision has written: the origin of the request
has no say in them.
-/
theorem withdraw_finish (g : Gateway) (r : Request) (response : Response) :
    (g.policy.decide r.headers).withdraw (g.finish r response).headers =
      (withAllowed r.originless ({ response with headers := response.headers.ungranted }.withRequestId
        (r.originless.headers.first? .requestId))).headers := by
  have hfirst : r.originless.headers.first? .requestId = r.headers.first? .requestId :=
    Headers.first?_remove_of_ne _ (by decide)
  generalize hd : g.policy.decide r.headers = decision
  have hid (h : Headers) (id : Option HeaderValue) :
      decision.withdraw (if h.contains .requestId then h else h.withRequestId id) =
        if (decision.withdraw h).contains .requestId then decision.withdraw h
        else (decision.withdraw h).withRequestId id := by
    rw [decision.contains_withdraw h (by decide) (by decide)]
    split
    · rfl
    · cases id with
      | none => rfl
      | some v => exact decision.withdraw_add h (by decide) (by decide) v
  have hallowed (h : Headers) :
      decision.withdraw (h.set .allow healthMethods) =
        (decision.withdraw h).set .allow healthMethods :=
    decision.withdraw_set h (by decide) (by decide) healthMethods
  unfold finish
  rw [Response.headers_sentFor, headers_withAllowed, headers_withAllowed,
    Response.headers_withRequestId, Response.headers_withRequestId, hfirst, hd]
  dsimp only
  rw [apply_ite decision.withdraw, hallowed, hid, decision.withdraw_apply]
  rfl

theorem scripted_answersAlike :
    AnswersAlike Call.originless (Exchange.hearing Outcome.scripted) Eq where
  reply {s t q q'} hs hq := by
    have hpatience : q.patience = q'.patience := (congrArg Call.patience hq :)
    unfold Exchange.hearing Call.hears
    rw [hs, hpatience]
    rfl
  peer hs _ := by
    rw [hs]
    rfl

/--
The origin of a request has a say in nothing but the header fields of its answer. Two requests that
differ in their origin fields only lead to calls that differ in these only, as long as they make no
difference to the replies. What is counted is the same, and so are the status and the body of the
answer, and its header fields without what the decision on each origin has written.
-/
theorem serve_indifferent {σ τ : Type} (g : Gateway) {a b : Arrival}
    (hab : a.originless = b.originless) (answer : σ → Call → Outcome × σ)
    (answer' : τ → Call → Outcome × τ) (s : σ) (t : τ) :
    let run := (g.serve a).run answer s
    let other := (g.serve b).run answer' t
    AnsweredAlike Call.originless run.asked other.asked →
      run.asked.map (Prod.map Call.originless id) =
          other.asked.map (Prod.map Call.originless id) ∧
        run.events = other.events ∧
        run.result.status = other.result.status ∧ run.result.body = other.result.body ∧
        (g.policy.decide a.request.headers).withdraw run.result.headers =
          (g.policy.decide b.request.headers).withdraw other.result.headers := by
  intro run other hreplies
  have hrequest : a.request.originless = b.request.originless :=
    (congrArg Arrival.request hab :)
  have hclient : a.client = b.client := (congrArg Arrival.client hab :)
  have hfresh : a.freshId = b.freshId := (congrArg Arrival.freshId hab :)
  let r := a.request.identified a.freshId
  let r' := b.request.identified b.freshId
  have hsame : r.originless = r'.originless := by
    rw [Request.identified_originless, Request.identified_originless, hrequest, hfresh]
  have hmethod : r.method = r'.method := (congrArg Request.method hsame :)
  have htimed : (g.timed r a.client).rephrase Call.originless =
      (g.timed r' b.client).rephrase Call.originless := by
    rw [timed_originless, timed_originless, hsame, hclient]
  have hrun : run = _ := run_serve g a answer s
  have hother : other = _ := run_serve g b answer' t
  rw [hrun, hother] at hreplies ⊢
  obtain ⟨hresult, hevents, hasked⟩ := Exchange.run_of_rephrase_eq htimed hreplies
  refine ⟨hasked, hevents, ?_, ?_, ?_⟩
  · rw [status_finish, status_finish, hresult]
  · rw [body_finish, body_finish, hmethod, hresult]
  · rw [← OriginPolicy.decide_identified _ _ a.freshId, withdraw_finish, hsame, hresult,
      ← withdraw_finish, OriginPolicy.decide_identified]

/-- A request of a browser and the same one without its origin. -/
theorem serve_indifferent_browser :
    browserArrival.originless = (sampleArrival "/auth/login").originless ∧
      let g := setUp {} usualDestinations
      let run := (g.serve browserArrival).run Outcome.scripted [.reply grasping 0]
      let other := (g.serve (sampleArrival "/auth/login")).run Outcome.scripted [.reply grasping 0]
      AnsweredAlike Call.originless run.asked other.asked ∧ run.asked.length = 1 ∧
        run.asked.map (Prod.map Call.originless id) =
          other.asked.map (Prod.map Call.originless id) ∧
        run.events = other.events ∧
        run.result.status = other.result.status ∧ run.result.body = other.result.body ∧
        run.result.headers ≠ other.result.headers ∧
        (OriginDecision.allow browserOrigin).withdraw run.result.headers =
          OriginDecision.deny.withdraw other.result.headers := by
  have hheaders : browserArrival.request.headers.remove .origin =
      (sampleArrival "/auth/login").request.headers.remove .origin := by decide
  have hsame : browserArrival.originless = (sampleArrival "/auth/login").originless :=
    congrArg (fun headers => { sampleArrival "/auth/login" with
      request := { (sampleArrival "/auth/login").request with headers } }) hheaders
  refine ⟨hsame, ?_⟩
  intro g run other
  have hreplies : AnsweredAlike Call.originless run.asked other.asked :=
    scripted_answersAlike.run _ _ rfl
  obtain ⟨hasked, hevents, hstatus, hbody, hfields⟩ :=
    serve_indifferent g hsame Outcome.scripted Outcome.scripted [.reply grasping 0]
      [.reply grasping 0] hreplies
  refine ⟨hreplies, ?_, hasked, hevents, hstatus, hbody, ?_, hfields⟩
  · unfold run g
    rw [setUp_eq]
    decide +kernel
  · unfold run other g
    rw [setUp_eq]
    decide +kernel

end Gateway

end Gatehouse
