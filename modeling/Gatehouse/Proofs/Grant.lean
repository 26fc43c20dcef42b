import Gatehouse.Proofs.HandedOn
import Gatehouse.Proofs.Startup
import Gatehouse.Proofs.Transform

namespace Gatehouse

open Program

namespace Headers

variable {name : HeaderName}

/-- The fields that tell browsers who may read the response. -/
def accessControl (h : Headers) : List Field := h.fields.filter (isAccessControl ·.name)

theorem accessControl_add (h : Headers) (hn : isAccessControl name = true) (value : HeaderValue) :
    (h.add name value).accessControl = h.accessControl ++ [⟨name, value⟩] := by
  simp [accessControl, add, List.filter_append, hn]

theorem accessControl_add_of_not (h : Headers) (hn : isAccessControl name = false)
    (value : HeaderValue) : (h.add name value).accessControl = h.accessControl := by
  simp [accessControl, add, List.filter_append, hn]

theorem accessControl_remove (h : Headers) (name : HeaderName) :
    (h.remove name).accessControl = h.accessControl.filter (·.name ≠ name) := by
  simp [accessControl, remove, List.filter_filter, Bool.and_comm]

theorem accessControl_set (h : Headers) (hn : isAccessControl name = true) (value : HeaderValue) :
    (h.set name value).accessControl =
      h.accessControl.filter (·.name ≠ name) ++ [⟨name, value⟩] := by
  rw [set, accessControl_add _ hn, accessControl_remove]

theorem accessControl_set_of_not (h : Headers) (hn : isAccessControl name = false)
    (value : HeaderValue) : (h.set name value).accessControl = h.accessControl := by
  rw [set, accessControl_add_of_not _ hn, accessControl_remove]
  refine List.filter_eq_self.mpr fun f hf => ?_
  have hf : isAccessControl f.name = true := (List.mem_filter.mp hf).2
  have hne : f.name ≠ name := fun he => by simp [he, hn] at hf
  simpa using hne

theorem accessControl_scrub (h : Headers) : h.scrub.accessControl = [] := by
  unfold accessControl scrub
  rw [List.filter_filter, List.filter_eq_nil_iff]
  intro f _
  simp

theorem accessControl_withRequestId (h : Headers) (id : Option HeaderValue) :
    (h.withRequestId id).accessControl = h.accessControl := by
  cases id with
  | none => rfl
  | some v => exact accessControl_add_of_not h (by decide) v

theorem accessControl_foldl_add (hn : isAccessControl name = false) (values : List HeaderValue)
    (h : Headers) : (values.foldl (·.add name ·) h).accessControl = h.accessControl := by
  induction values generalizing h with
  | nil => rfl
  | cons v rest ih => rw [List.foldl_cons, ih, accessControl_add_of_not h hn]

end Headers

namespace OriginDecision

/-- The fields that a decision grants an origin the reading of a response by. -/
def grant : OriginDecision → List Field
  | allow origin =>
    [⟨.allowOrigin, origin⟩, ⟨.allowCredentials, credentialsAllowed⟩,
     ⟨.allowMethods, allowedMethods⟩, ⟨.allowHeaders, allowedHeaders⟩]
  | deny => []

/-- What a decision says a response varies by. -/
def varies : OriginDecision → List HeaderValue
  | allow _ => [variesByOrigin]
  | deny => []

theorem accessControl_apply (decision : OriginDecision) {h : Headers}
    (hclean : h.accessControl = []) : (decision.apply h).accessControl = decision.grant := by
  cases decision with
  | deny => exact hclean
  | allow origin =>
    unfold apply
    rw [Headers.accessControl_add_of_not _ (by decide), Headers.accessControl_set _ (by decide),
      Headers.accessControl_set _ (by decide), Headers.accessControl_set _ (by decide),
      Headers.accessControl_set _ (by decide), hclean]
    simp [grant, show HeaderName.allowOrigin ≠ .allowCredentials by decide,
      show HeaderName.allowOrigin ≠ .allowMethods by decide,
      show HeaderName.allowOrigin ≠ .allowHeaders by decide,
      show HeaderName.allowCredentials ≠ .allowMethods by decide,
      show HeaderName.allowCredentials ≠ .allowHeaders by decide,
      show HeaderName.allowMethods ≠ .allowHeaders by decide]

theorem all_vary_apply (decision : OriginDecision) (h : Headers) :
    (decision.apply h).all .vary = h.all .vary ++ decision.varies := by
  cases decision with
  | deny => simp [apply, varies]
  | allow origin =>
    unfold apply
    rw [Headers.all_add_self, Headers.all_set_of_ne _ (by decide),
      Headers.all_set_of_ne _ (by decide), Headers.all_set_of_ne _ (by decide),
      Headers.all_set_of_ne _ (by decide)]
    rfl

end OriginDecision

/-- An origin is allowed when the first origin field can be read and is listed as it stands. -/
theorem OriginPolicy.decide_eq_allow_iff {policy : OriginPolicy} {h : Headers}
    {origin : HeaderValue} :
    policy.decide h = .allow origin ↔ h.first? .origin = some origin ∧
      ∃ text, origin.text? = some text ∧ text ∈ policy.allowed := by
  unfold decide
  cases hf : h.first? .origin with
  | none => simp
  | some v =>
    cases ht : v.text? with
    | none =>
      simp only [ht, Option.some.injEq]
      constructor
      · intro he
        cases he
      · rintro ⟨rfl, text, htext, _⟩
        simp [ht] at htext
    | some text =>
      simp only [ht, Option.some.injEq, List.contains_eq_mem]
      constructor
      · intro he
        split at he
        next hmem =>
          cases he
          exact ⟨rfl, text, ht, by simpa using hmem⟩
        next => cases he
      · rintro ⟨rfl, text', htext, hmem⟩
        obtain rfl := Option.some.inj (ht.symm.trans htext)
        simp [hmem]

/-- The id that a request is given has no say in the decision. -/
theorem OriginPolicy.decide_identified (policy : OriginPolicy) (r : Request) (id : HeaderValue) :
    policy.decide (r.identified id).headers = policy.decide r.headers := by
  have hfirst : (r.identified id).headers.first? .origin = r.headers.first? .origin := by
    rw [Headers.first?, r.all_identified_of_ne id (by decide), Headers.first?]
  unfold decide
  rw [hfirst]

namespace Gateway

variable {g : Gateway} {r : Request} {response : Response}

theorem accessControl_finish (g : Gateway) (r : Request)
    (hclean : response.headers.accessControl = []) :
    (g.finish r response).headers.accessControl = (g.policy.decide r.headers).grant := by
  have hallowed (x : Response) :
      (withAllowed r x).headers.accessControl = x.headers.accessControl := by
    unfold withAllowed
    split
    · exact Headers.accessControl_set_of_not _ (by decide) _
    · rfl
  have hid (x : Response) (id : Option HeaderValue) :
      (x.withRequestId id).headers.accessControl = x.headers.accessControl := by
    unfold Response.withRequestId
    split
    · rfl
    · exact Headers.accessControl_withRequestId _ id
  unfold finish
  rw [Response.headers_sentFor, hallowed, hid]
  exact OriginDecision.accessControl_apply _ hclean

theorem all_vary_finish (g : Gateway) (r : Request) (response : Response) :
    (g.finish r response).headers.all .vary =
      response.headers.all .vary ++ (g.policy.decide r.headers).varies := by
  unfold finish
  rw [Response.headers_sentFor, all_withAllowed_of_ne _ _ (by decide),
    Response.all_withRequestId_of_ne _ (by decide)]
  exact OriginDecision.all_vary_apply _ _

end Gateway

/-- What a reply says it varies by, unless that is for one connection only. -/
def Response.brings (r : Response) : List HeaderValue :=
  if .vary ∈ r.headers.perConnection then [] else r.headers.all .vary

/-- Whether an answer says nothing of who may read it, and varies by what some replies vary by. -/
structure Response.IsPlain (r : Response) (replies : List Response) : Prop where
  accessControl : r.headers.accessControl = []
  vary : r.headers.all .vary = replies.flatMap Response.brings

theorem Response.json_isPlain (status : Status) (bytes : ByteArray) :
    (Response.json status bytes).IsPlain [] :=
  ⟨Headers.accessControl_add_of_not .empty (by decide) _,
    Headers.all_add_of_ne .empty (by decide) _⟩

theorem Failure.response_isPlain (f : Failure) : f.response.IsPlain [] := Response.json_isPlain _ _

theorem Response.scrubbed_isPlain (r : Response) : r.scrubbed.IsPlain [r] where
  accessControl := Headers.accessControl_scrub _
  vary := by
    have hhop : HeaderName.vary ∉ hopByHop := by decide
    rw [List.flatMap_singleton, scrubbed, Headers.all_scrub _ (by decide), brings]
    simp [hhop]

theorem Response.IsPlain.withCookies {r : Response} {replies : List Response}
    (h : r.IsPlain replies) (cookies : List HeaderValue) :
    (r.withCookies cookies).IsPlain replies where
  accessControl := (Headers.accessControl_foldl_add (by decide) cookies _).trans h.accessControl
  vary := (Headers.all_foldl_add_of_ne (by decide) cookies _).trans h.vary

namespace Gateway

variable {g : Gateway} {route : Route} {r : Request} {id : Option HeaderValue}
  {client : Option IpAddress} {response : Response} {qs : List (Call × Outcome)}

theorem Answers.isPlain (ha : Answers g r response) : response.IsPlain [] := by
  cases ha with
  | preflight => exact ⟨rfl, rfl⟩
  | oversized => exact Failure.response_isPlain _
  | health =>
    unfold Gateway.health
    split
    · exact Response.json_isPlain _ _
    · exact Failure.response_isPlain _
  | unrouted => exact Failure.response_isPlain _

theorem relayResult_isPlain (o : Outcome) : (responseOf (relayResult o)).IsPlain [] := by
  cases o with
  | reply reply =>
    simp only [relayResult]
    cases reply.body.collect maxRelayed with
    | ok body => exact Response.json_isPlain _ _
    | error fault => exact Failure.response_isPlain _
  | _ => exact Failure.response_isPlain _

theorem forwardResult_isPlain (sending : Ending) (o : Outcome) :
    (responseOf (forwardResult sending o)).IsPlain o.reply?.toList := by
  cases o with
  | reply reply => exact reply.scrubbed_isPlain
  | _ => exact Failure.response_isPlain _

theorem Delivers.isPlain {identity : Option Identity} {d : Nat} {result : Except Failure Response}
    (hd : Delivers g route identity r id client qs d result) :
    (responseOf result).IsPlain (handedOn qs) := by
  cases hd with
  | failed => exact Failure.response_isPlain _
  | sent o =>
    by_cases hm : route.target = .monitoring
    · rw [onwardResult_of_monitoring hm, onwardCall_of_monitoring hm,
        handedOn_eq_nil (by simp; rfl)]
      exact relayResult_isPlain o
    · rw [onwardResult_of_ne hm, onwardCall_of_ne hm]
      exact forwardResult_isPlain _ o

theorem Dispatches.isPlain {d : Nat} {result : Except Failure Response}
    {cookies : List HeaderValue} (hd : Dispatches g route r id client qs d (result, cookies)) :
    (responseOf result).IsPlain (handedOn qs) := by
  cases hd with
  | unguarded _ hd => exact hd.isPlain
  | noSession => exact Failure.response_isPlain _
  | denied _ _ hc =>
    rw [handedOn_of_asks hc.asks]
    exact Failure.response_isPlain _
  | admitted _ _ hc hi hd =>
    rw [handedOn_append, handedOn_append, handedOn_of_asks hc.asks, handedOn_of_asks hi.asks]
    exact hd.isPlain

theorem Completes.isPlain {d : Nat} (hc : Completes g r client qs d response) :
    response.IsPlain (handedOn qs) := by
  cases hc with
  | atOnce ha => exact ha.isPlain
  | followed hr hd => exact hd.isPlain.withCookies _

/-- Whatever becomes of a request, its answer leaves with the fields of the decision alone. -/
theorem serve_decided {σ : Type} (g : Gateway) (a : Arrival) (answer : σ → Call → Outcome × σ)
    (s : σ) :
    let run := (g.serve a).run answer s
    let decision := g.policy.decide a.request.headers
    run.result.headers.accessControl = decision.grant ∧
      run.result.headers.all .vary = (handedOn run.asked).flatMap Response.brings ++
        decision.varies := by
  intro run decision
  have hdecision : g.policy.decide (a.request.identified a.freshId).headers = decision :=
    OriginPolicy.decide_identified g.policy a.request a.freshId
  obtain ⟨response, hplain, hresult⟩ : ∃ response : Response,
      response.IsPlain (handedOn run.asked) ∧
        run.result = g.finish (a.request.identified a.freshId) response := by
    rcases completes_or_isCutOff g a answer s with
      ⟨qs, d, response, heq, hc, hresult⟩ | ⟨hcut, hresult⟩
    · rw [← handedOn_timeless, heq, handedOn_timeless]
      exact ⟨response, hc.isPlain, hresult⟩
    · rw [handedOn_of_isCutOff hcut]
      exact ⟨_, Failure.response_isPlain _, hresult⟩
  constructor
  · rw [hresult, accessControl_finish g _ hplain.accessControl, hdecision]
  · rw [hresult, all_vary_finish, hplain.vary, hdecision]

/--
Only the decision on the origin tells browsers who may read an answer, whatever the answer is and
whatever a collaborator replied. An origin that is listed is granted the reading, and the answer
varies by it besides what the reply varied by; otherwise nothing is granted.
-/
theorem serve_grants {σ : Type} {c : Config} {g : Gateway} (hg : ofConfig c = .ok g) (a : Arrival)
    (answer : σ → Call → Outcome × σ) (s : σ) :
    let run := (g.serve a).run answer s
    let brought := (handedOn run.asked).flatMap Response.brings
    (∀ origin text, a.request.headers.first? .origin = some origin → origin.text? = some text →
      text ∈ c.cors.allowedOrigins →
        run.result.headers.accessControl =
          [⟨.allowOrigin, origin⟩, ⟨.allowCredentials, credentialsAllowed⟩,
            ⟨.allowMethods, allowedMethods⟩, ⟨.allowHeaders, allowedHeaders⟩] ∧
        run.result.headers.all .vary = brought ++ [variesByOrigin]) ∧
    ((∀ origin text, a.request.headers.first? .origin = some origin →
        origin.text? = some text → text ∉ c.cors.allowedOrigins) →
      run.result.headers.accessControl = [] ∧ run.result.headers.all .vary = brought) := by
  intro run brought
  obtain ⟨-, ds, -, rfl⟩ := ofConfig_ok_inv hg
  obtain ⟨hgrant, hvary⟩ := serve_decided (setUp c ds) a answer s
  refine ⟨fun origin text hfirst htext hlisted => ?_, fun hunlisted => ?_⟩
  · have hallow : (setUp c ds).policy.decide a.request.headers = .allow origin :=
      OriginPolicy.decide_eq_allow_iff.mpr ⟨hfirst, text, htext, hlisted⟩
    rw [hallow] at hgrant hvary
    exact ⟨hgrant, hvary⟩
  · cases hd : (setUp c ds).policy.decide a.request.headers with
    | allow origin =>
      obtain ⟨hfirst, text, htext, hlisted⟩ := OriginPolicy.decide_eq_allow_iff.mp hd
      exact absurd hlisted (hunlisted origin text hfirst htext)
    | deny =>
      rw [hd] at hgrant hvary
      exact ⟨hgrant, hvary.trans (List.append_nil _)⟩

/-- A reply that claims the reading of it for everyone. -/
def grasping : Response :=
  ⟨.ok, ((Headers.empty.add .allowOrigin ⟨octetsOf "*", by decide⟩).add
    ⟨"access-control-expose-headers", by decide⟩ ⟨octetsOf "*", by decide⟩).add .vary
    ⟨octetsOf "accept", by decide⟩, .empty⟩

def browserOrigin : HeaderValue := ⟨octetsOf "http://localhost:5173", by decide⟩

def browserArrival : Arrival :=
  let a := sampleArrival "/auth/login"
  { a with request.headers := a.request.headers.add .origin browserOrigin }

theorem serve_grants_listed :
    ofConfig {} = .ok (setUp {} usualDestinations) ∧
      let run := ((setUp {} usualDestinations).serve browserArrival).run Outcome.scripted
        [.reply grasping 0]
      run.result.headers.accessControl =
          [⟨.allowOrigin, browserOrigin⟩, ⟨.allowCredentials, credentialsAllowed⟩,
            ⟨.allowMethods, allowedMethods⟩, ⟨.allowHeaders, allowedHeaders⟩] ∧
        run.result.headers.all .vary = [⟨octetsOf "accept", by decide⟩, variesByOrigin] := by
  refine ⟨ofConfig_empty, ?_⟩
  intro run
  have hbrought : (handedOn run.asked).flatMap Response.brings =
      [⟨octetsOf "accept", by decide⟩] := by
    unfold run
    rw [setUp_eq]
    decide +kernel
  obtain ⟨hgrant, hvary⟩ := (serve_grants ofConfig_empty browserArrival Outcome.scripted
    [.reply grasping 0]).1 browserOrigin "http://localhost:5173" (by decide) (by decide +kernel)
    (List.mem_singleton_self _)
  exact ⟨hgrant, hvary.trans (congrArg (· ++ [variesByOrigin]) hbrought)⟩

end Gateway

end Gatehouse
