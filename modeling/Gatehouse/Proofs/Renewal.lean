import Gatehouse.Proofs.Fields
import Gatehouse.Proofs.Patience

namespace Gatehouse

open Program

/-- The cookies that an outcome brings the client, once a reply is scrubbed. -/
def Outcome.scrubbedCookies : Outcome → List HeaderValue
  | reply r _ => r.scrubbed.headers.all .setCookie
  | _ => []

/-- The cookies that the target of a route brings the client. -/
def targetCookies (route : Route) (qs : List (Call × Outcome)) : List HeaderValue :=
  (qs.filter (·.1.collaborator = route.target)).flatMap fun x => x.2.scrubbedCookies

theorem targetCookies_timeless (route : Route) (qs : List (Call × Outcome)) :
    targetCookies route (timeless qs) = targetCookies route qs := by
  unfold targetCookies timeless
  rw [List.filter_map, List.flatMap_map]
  rfl

theorem targetCookies_append (route : Route) (qs rs : List (Call × Outcome)) :
    targetCookies route (qs ++ rs) = targetCookies route qs ++ targetCookies route rs := by
  simp [targetCookies, List.filter_append]

theorem targetCookies_eq_nil {route : Route} {qs : List (Call × Outcome)}
    (h : ∀ x ∈ qs, x.1.collaborator ≠ route.target) : targetCookies route qs = [] := by
  have hnil : qs.filter (·.1.collaborator = route.target) = [] :=
    List.filter_eq_nil_iff.mpr fun x hx => by simpa using h x hx
  rw [targetCookies, hnil, List.flatMap_nil]

theorem forwardResult_cookies (sending : Ending) (o : Outcome) :
    (Gateway.responseOf (forwardResult sending o)).headers.all .setCookie = o.scrubbedCookies := by
  cases o with
  | reply r => rfl
  | _ => exact Failure.all_response _ (by decide)

namespace Gateway

variable {g : Gateway} {route : Route} {r : Request} {id : Option HeaderValue}
  {client : Option IpAddress}

theorem targetCookies_eq_nil_of_asks (htarget : route.target ≠ .auth)
    {qs : List (Call × Outcome)} (h : ∀ x ∈ qs, ∃ q, g.auth.Asks q x.1) :
    targetCookies route qs = [] := by
  refine targetCookies_eq_nil fun x hx => ?_
  obtain ⟨q, hq⟩ := h x hx
  rw [hq.collaborator]
  exact htarget.symm

theorem Delivers.cookies {identity : Option Identity} {sent : List (Call × Outcome)} {d : Nat}
    {result : Except Failure Response} (htarget : route.target ≠ .monitoring)
    (hd : Delivers g route identity r id client sent d result) :
    (responseOf result).headers.all .setCookie = targetCookies route sent := by
  cases hd with
  | failed => exact Failure.all_response _ (by decide)
  | @sent outbound o hs =>
    rw [onwardResult_of_ne htarget, forwardResult_cookies]
    simp [targetCookies, onwardCall_collaborator]

/-- A dispatch that begins with a renewed session goes on with it and brings its cookies. -/
theorem Dispatches.renewed (hguard : route.requiresAuth = true) {course : List (Call × Outcome)}
    {d : Nat} {answered : Except Failure Response × List HeaderValue}
    (hd : Dispatches g route r id client course d answered) {check renewal : Call}
    {old new : Outcome} {rest : List (Call × Outcome)}
    (hp : timeless ((check, old) :: (renewal, new) :: rest) <+: timeless course)
    (hold : old.authStatus? = some .unauthorized) (hnew : new.authStatus? = some .ok) :
    ∃ checks t lookup identity sent, course = checks ++ (lookup ++ sent) ∧
      (∀ x ∈ checks, ∃ q, g.auth.Asks q x.1) ∧ Identifies g route r.method t id lookup identity ∧
      Delivers g route identity r id client sent d answered.1 ∧
      answered.2 = new.setCookies := by
  cases hd with
  | unguarded ha _ => simp [ha] at hguard
  | noSession => simp [timeless] at hp
  | denied _ _ hc =>
    cases hc with
    | serviceDown | rejected => simp [timeless] at hp
    | @expired c c' o o' _ _ _ ho' =>
      obtain ⟨_, hp⟩ := List.cons_prefix_cons.mp hp
      obtain ⟨hrenewal, _⟩ := List.cons_prefix_cons.mp hp
      have ho : new = o' := congrArg Prod.snd hrenewal
      exact absurd (ho ▸ hnew) ho'
  | @admitted t checks lookup sent cookies identity _ _ _ _ hc hi hdelivers =>
    have hasks := hc.asks
    cases hc with
    | @valid c o _ ho =>
      have he : old = o := congrArg Prod.snd (List.cons_prefix_cons.mp hp).1
      rw [he, ho] at hold
      exact absurd hold (by decide)
    | @refreshed c c' o o' _ _ _ _ =>
      obtain ⟨_, hp⟩ := List.cons_prefix_cons.mp hp
      obtain ⟨hrenewal, _⟩ := List.cons_prefix_cons.mp hp
      have ho : new = o' := congrArg Prod.snd hrenewal
      subst ho
      exact ⟨_, t, lookup, identity, sent, rfl, hasks, hi, hdelivers, rfl⟩

/-- A renewed session's request is answered with its cookies, unless its time runs out. -/
theorem Serves.renewed {qs : List (Call × Outcome)} {response : Response}
    (hserves : Serves g r client qs response) (hg : g.routes = surface) (hr : Reaches g r route)
    (hguard : route.requiresAuth = true) {check renewal : Call} {old new : Outcome}
    {rest : List (Call × Outcome)}
    (hbegins : timeless ((check, old) :: (renewal, new) :: rest) = timeless qs)
    (hold : old.authStatus? = some .unauthorized) (hnew : new.authStatus? = some .ok) :
    (¬g.RunsOut route r qs ∧
        response.headers.all .setCookie = targetCookies route qs ++ new.setCookies) ∨
      (g.RunsOut route r qs ∧ response = Failure.requestTimeout.response) := by
  have htarget := (Surface.guarded_iff route (Surface.resolve_ok_inv (hg ▸ hr.found)).1).mp hguard
  have hauth : route.target ≠ .auth := by rcases htarget with h | h <;> simp [h]
  have hmonitoring : route.target ≠ .monitoring := by rcases htarget with h | h <;> simp [h]
  cases hserves with
  | atOnce => simp [timeless] at hbegins
  | @inTime _ hr' _ d result cookies hd ht =>
    obtain rfl := hr.unique hr'
    rw [waited_eq_ownWaits (hd.patience fun _ => hauth)] at ht
    have hprefix : timeless ((check, old) :: (renewal, new) :: rest) <+: timeless qs :=
      hbegins ▸ List.prefix_refl _
    obtain ⟨checks, t, lookup, identity, sent, rfl, hchecks, hi, hdelivers, hcookies⟩ :=
      hd.renewed hguard hprefix hold hnew
    refine Or.inl ⟨fun hout => ?_, ?_⟩
    · rcases hdelivers.pause with ⟨_, hpause⟩ | ⟨hnot, hpause⟩
      · omega
      · rcases hout with hlate | hstalls
        · omega
        · exact hnot hstalls
    · have hbrings : targetCookies route (checks ++ (lookup ++ sent)) =
          targetCookies route sent := by
        rw [targetCookies_append, targetCookies_append, targetCookies_eq_nil_of_asks hauth hchecks,
          targetCookies_eq_nil_of_asks hauth hi.asks, List.nil_append, List.nil_append]
      have hcookies : cookies = new.setCookies := hcookies
      rw [Response.all_withCookies, hdelivers.cookies hmonitoring, hbrings, hcookies]
  | @late _ hr' _ more d d' answered hd ht =>
    obtain rfl := hr.unique hr'
    have hown := waited_eq_ownWaits fun x hx =>
      hd.patience (fun _ => hauth) x (List.mem_append_left more hx)
    rw [hown] at ht
    -- what was asked so far begins the dispatch left behind, which tells how that would have ended
    have hprefix := timeless_prefix (List.prefix_append qs more)
    rw [← hbegins] at hprefix
    obtain ⟨checks, t, lookup, identity, sent, _, _, _, hdelivers, _⟩ :=
      hd.renewed hguard hprefix hold hnew
    refine Or.inr ⟨?_, rfl⟩
    rcases hdelivers.pause with ⟨hstalls, _⟩ | ⟨_, hpause⟩
    · exact Or.inr hstalls
    · exact Or.inl (by omega)

/--
The cookies of a renewed session come behind those of the target's reply, if there is one, exactly
when the time for the whole request does not run out.
-/
theorem serve_renewed {σ : Type} (g : Gateway) (hg : g.routes = surface) (a : Arrival)
    (answer : σ → Call → Outcome × σ) (s : σ) {route : Route}
    (hr : Reaches g (a.request.identified a.freshId) route) (hguard : route.requiresAuth = true)
    {check renewal : Call} {old new : Outcome} {rest : List (Call × Outcome)}
    (hasked : ((g.serve a).run answer s).asked = (check, old) :: (renewal, new) :: rest)
    (hold : old.authStatus? = some .unauthorized) (hnew : new.authStatus? = some .ok) :
    let r := a.request.identified a.freshId
    let run := (g.serve a).run answer s
    (¬g.RunsOut route r run.asked → run.result.headers.all .setCookie =
      targetCookies route run.asked ++ new.setCookies) ∧
    (g.RunsOut route r run.asked → run.result = g.finish r Failure.requestTimeout.response ∧
      run.result.headers.all .setCookie = []) := by
  intro r run
  obtain ⟨qs, response, heq, hserves, hresult⟩ := serves_run g a answer s
  have hkept : run.result.headers.all .setCookie = response.headers.all .setCookie := by
    rw [hresult]
    exact all_finish g _ response (by decide)
  have hout : g.RunsOut route r run.asked ↔ g.RunsOut route r qs := by
    unfold RunsOut
    rw [ownWaits_congr heq]
  have htarget : targetCookies route run.asked = targetCookies route qs := by
    rw [← targetCookies_timeless, heq, targetCookies_timeless]
  rw [hout, hkept, htarget]
  rcases hserves.renewed hg hr hguard (hasked ▸ heq) hold hnew with ⟨hends, hcookies⟩ | ⟨hlate, rfl⟩
  · exact ⟨fun _ => hcookies, fun hlate => absurd hlate hends⟩
  · exact ⟨fun hends => absurd hlate hends,
      fun _ => ⟨hresult, Failure.all_response _ (by decide)⟩⟩

def setting : Response :=
  ⟨.ok, Headers.empty.add .setCookie ⟨octetsOf "theme=dark", by decide⟩, .empty⟩

/-- What comes of the calls when a session is renewed so fast and the backend then does this. -/
def renewalScript (checked renewed : Nat) (last : Outcome) : List Outcome :=
  [.reply ⟨.unauthorized, .empty, .empty⟩ checked, .reply renewing renewed, last]

/-- The session is renewed within five seconds, and the backend answers before six are over. -/
def keptScript : List Outcome := renewalScript 3000 2000 (.reply setting 999)

theorem exists_renewal {qs : List (Call × Outcome)} {cookies : List HeaderValue}
    {more : List (Option Status × List HeaderValue)}
    (h : (qs.map fun x => (x.2.authStatus?, x.2.setCookies)) =
      (some .unauthorized, []) :: (some .ok, cookies) :: more) :
    ∃ check old renewal new rest, qs = (check, old) :: (renewal, new) :: rest ∧
      old.authStatus? = some .unauthorized ∧ new.authStatus? = some .ok ∧
      new.setCookies = cookies := by
  obtain ⟨⟨check, old⟩, later, rfl, hold, h⟩ := List.map_eq_cons_iff.mp h
  obtain ⟨⟨renewal, new⟩, rest, rfl, hnew, _⟩ := List.map_eq_cons_iff.mp h
  obtain ⟨hold, _⟩ := Prod.mk.inj hold
  obtain ⟨hnew, hcookies⟩ := Prod.mk.inj hnew
  exact ⟨check, old, renewal, new, rest, rfl, hold, hnew, hcookies⟩

theorem sample_reaches (patience : Nat) :
    Reaches (sample patience) (sampleArrival "/api/apikeys").request surfaceRoutes[3] :=
  ⟨by decide, by rfl, by decide, by rfl⟩

/-- With time enough, the cookies of the new session follow that of the backend. -/
theorem serve_renewed_kept :
    (((sample 6000).serve (sampleArrival "/api/apikeys")).run Outcome.scripted
        keptScript).result.headers.all .setCookie =
      setting.headers.all .setCookie ++ renewing.headers.all .setCookie := by
  have hshape : ((((sample 6000).serve (sampleArrival "/api/apikeys")).run Outcome.scripted
      keptScript).asked.map fun x => (x.2.authStatus?, x.2.setCookies)) =
      [(some .unauthorized, []), (some .ok, renewing.headers.all .setCookie),
        (some .ok, setting.headers.all .setCookie)] := by decide +kernel
  have htarget : targetCookies surfaceRoutes[3] (((sample 6000).serve
      (sampleArrival "/api/apikeys")).run Outcome.scripted keptScript).asked =
      setting.headers.all .setCookie := by decide +kernel
  have hends : ¬(sample 6000).RunsOut surfaceRoutes[3] (sampleArrival "/api/apikeys").request
      (((sample 6000).serve (sampleArrival "/api/apikeys")).run Outcome.scripted
        keptScript).asked := by
    rintro (hlate | ⟨hreads, _⟩)
    · exact absurd hlate (by decide +kernel)
    · exact absurd hreads (by decide)
  obtain ⟨check, old, renewal, new, rest, hasked, hold, hnew, hcookies⟩ := exists_renewal hshape
  have hkept := (serve_renewed (sample 6000) Surface.eq_ordered.symm
    (sampleArrival "/api/apikeys") Outcome.scripted _ (sample_reaches 6000) rfl hasked hold
    hnew).1 hends
  rw [htarget, hcookies] at hkept
  exact hkept

/-- What the answers took is not there for the backend, though it is waited for no longer. -/
example : (((({ sample 6000 with forwarder.patience := 3000 } : Gateway).serve
    (sampleArrival "/api/apikeys")).run Outcome.scripted (renewalScript 3000 2000 .silent)).result
      |> fun response => (response.status, response.headers.all .setCookie)) =
    (.requestTimeout, []) := by decide +kernel

/-- When the backend keeps silent for longer than the request may take, they are lost. -/
theorem renewal_lost : ¬∀ (g : Gateway) (a : Arrival) (script : List Outcome) (route : Route)
    (check renewal : Call) (old new : Outcome) (rest : List (Call × Outcome)),
    g.routes = surface → Reaches g (a.request.identified a.freshId) route →
    route.requiresAuth = true →
    ((g.serve a).run Outcome.scripted script).asked = (check, old) :: (renewal, new) :: rest →
    old.authStatus? = some .unauthorized → new.authStatus? = some .ok →
    ((g.serve a).run Outcome.scripted script).result.headers.all .setCookie =
      targetCookies route ((g.serve a).run Outcome.scripted script).asked ++ new.setCookies := by
  intro h
  have hshape : ((((sample 1000).serve (sampleArrival "/api/apikeys")).run Outcome.scripted
      (renewalScript 0 0 .silent)).asked.map fun x => (x.2.authStatus?, x.2.setCookies)) =
      [(some .unauthorized, []), (some .ok, renewing.headers.all .setCookie), (none, [])] := by
    decide +kernel
  obtain ⟨check, old, renewal, new, rest, hasked, hold, hnew, hcookies⟩ := exists_renewal hshape
  have hall := h (sample 1000) (sampleArrival "/api/apikeys") _ _ check renewal old new rest
    Surface.eq_ordered.symm (sample_reaches 1000) rfl hasked hold hnew
  rw [hcookies] at hall
  exact absurd hall (by decide +kernel)

end Gateway

end Gatehouse
