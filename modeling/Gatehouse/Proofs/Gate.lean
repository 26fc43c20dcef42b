import Gatehouse.Proofs.Serve
import Gatehouse.Proofs.Surface

namespace Gatehouse

open Program

theorem timeless_eq_nil {qs : List (Call × Outcome)} (h : timeless qs = []) : qs = [] :=
  List.map_eq_nil_iff.mp h

theorem exists_of_mem_timeless {x : Call × Outcome} {qs : List (Call × Outcome)}
    (h : (x.1.timeless, x.2) ∈ timeless qs) :
    ∃ y ∈ qs, y.1.collaborator = x.1.collaborator := by
  obtain ⟨y, hy, he⟩ := List.mem_map.mp h
  refine ⟨y, hy, ?_⟩
  exact (Call.of_timeless_eq (Prod.mk.inj he).1).1

/-- A member of a list that is none of the first part of a longer one stands behind that part. -/
theorem prefix_of_append_cons_prefix {α : Type} {before after first last : List α} {x : α}
    (h : before ++ x :: after <+: first ++ last) (hx : x ∉ first) : first <+: before := by
  obtain ⟨rest, hr⟩ := h
  rw [List.append_assoc] at hr
  rcases List.append_eq_append_iff.mp hr with ⟨more, hm, hl⟩ | ⟨more, hm, _⟩
  · cases more with
    | nil => simp [hm]
    | cons y more =>
      obtain rfl := (List.cons.inj hl).1
      exact absurd (by simp [hm]) hx
  · exact ⟨more, hm.symm⟩

namespace Gateway

variable {g : Gateway} {route : Route} {r : Request} {id : Option HeaderValue}
  {client : Option IpAddress} {qs : List (Call × Outcome)}

/-- On a guarded route, whatever is not asked of the auth service follows an accepted session. -/
theorem Dispatches.behind {d : Nat} {answer : Except Failure Response × List HeaderValue}
    (hd : Dispatches g route r id client qs d answer) (hguard : route.requiresAuth = true)
    (hx : ∃ x ∈ qs, x.1.collaborator ≠ .auth) :
    ∃ t checks cookies others sent, r.headers.sessionToken? = some t ∧
      g.auth.Admits r.headers id t checks cookies ∧ qs = (checks ++ others) ++ sent ∧
      ∀ x ∈ checks ++ others, x.1.collaborator = .auth := by
  obtain ⟨x, hmem, hne⟩ := hx
  cases hd with
  | unguarded ha _ => simp [ha] at hguard
  | noSession => cases hmem
  | denied _ _ hc =>
    obtain ⟨_, ha⟩ := hc.asks x hmem
    exact absurd ha.collaborator hne
  | @admitted t checks lookup sent cookies _ _ _ _ ht hc hi _ =>
    refine ⟨t, checks, cookies, lookup, sent, ht, hc, (List.append_assoc ..).symm, ?_⟩
    intro y hy
    have hasks : ∃ q, g.auth.Asks q y.1 := by
      rcases List.mem_append.mp hy with hy | hy
      · exact hc.asks y hy
      · exact hi.asks y hy
    obtain ⟨_, ha⟩ := hasks
    exact ha.collaborator

/-- Whether the calls of a course were made: all, or those before the time was up. -/
def Performs {σ : Type} (g : Gateway) (r : Request) (run : Run σ Event Call Outcome Response)
    (course : List (Call × Outcome)) : Prop :=
  timeless run.asked = timeless course ∨
    timeless run.asked <+: timeless course ∧
      run.result = g.finish r Failure.requestTimeout.response

theorem Performs.prefix_timeless {σ : Type} {run : Run σ Event Call Outcome Response}
    (h : g.Performs r run qs) : timeless run.asked <+: timeless qs := by
  rcases h with h | ⟨h, _⟩
  · exact h ▸ List.prefix_refl _
  · exact h

theorem Performs.exists_call {σ : Type} {run : Run σ Event Call Outcome Response}
    (h : g.Performs r run qs) {x : Call × Outcome} (hx : x ∈ run.asked) :
    ∃ y ∈ qs, y.1.timeless = x.1.timeless ∧ y.2 = x.2 := by
  have hmem : (x.1.timeless, x.2) ∈ timeless qs :=
    h.prefix_timeless.subset (List.mem_map.mpr ⟨x, hx, rfl⟩)
  obtain ⟨y, hy, he⟩ := List.mem_map.mp hmem
  exact ⟨y, hy, Prod.mk.inj he⟩

/-- A call for somebody whom the first part of a course is not for comes behind all of that part. -/
theorem Performs.behind {σ : Type} {run : Run σ Event Call Outcome Response}
    {first last : List (Call × Outcome)} (h : g.Performs r run (first ++ last))
    {x : Call × Outcome} (hx : x ∈ run.asked)
    (hnot : ∀ y ∈ first, y.1.collaborator ≠ x.1.collaborator) :
    ∃ before after, run.asked = before ++ x :: after ∧ timeless first <+: timeless before := by
  obtain ⟨before, after, hsplit⟩ := List.append_of_mem hx
  have hprefix := h.prefix_timeless
  have hfirst : (x.1.timeless, x.2) ∉ timeless first := by
    intro hm
    obtain ⟨y, hy, hyx⟩ := exists_of_mem_timeless hm
    exact hnot y hy hyx
  rw [hsplit, timeless_append, timeless_append, timeless_cons] at hprefix
  exact ⟨before, after, hsplit, prefix_of_append_cons_prefix hprefix hfirst⟩

theorem performs_dispatch {σ : Type} {a : Arrival} (answer : σ → Call → Outcome × σ) (s : σ)
    (hr : Reaches g (a.request.identified a.freshId) route) :
    ∃ course d answered,
      Dispatches g route ((a.request.identified a.freshId).withCappedBody g.bodyLimit)
        ((a.request.identified a.freshId).headers.first? .requestId) a.client course d answered ∧
      g.Performs (a.request.identified a.freshId) ((g.serve a).run answer s) course := by
  obtain ⟨qs, response, heq, hserves, hresult⟩ := serves_run g a answer s
  obtain ⟨course, d, answered, hd, rfl | ⟨hp, rfl⟩⟩ := hserves.course hr
  · exact ⟨_, d, answered, hd, Or.inl heq⟩
  · refine ⟨course, d, answered, hd, Or.inr ⟨?_, hresult⟩⟩
    rw [heq]
    exact timeless_prefix hp

theorem asked_of_not_reaches {σ : Type} {a : Arrival} (answer : σ → Call → Outcome × σ) (s : σ)
    (hr : ∀ route, ¬Reaches g (a.request.identified a.freshId) route) :
    ((g.serve a).run answer s).asked = [] := by
  obtain ⟨qs, response, heq, hserves, _⟩ := serves_run g a answer s
  by_cases hne : qs = []
  · subst hne
    exact timeless_eq_nil heq
  · obtain ⟨route, hroute⟩ := hserves.reaches_of_ne_nil hne
    exact absurd hroute (hr route)

variable {σ : Type} {a : Arrival} (answer : σ → Call → Outcome × σ) (s : σ)

theorem performs_open (hr : Reaches g (a.request.identified a.freshId) route)
    (hopen : route.requiresAuth = false) :
    ∃ sent d result,
      Delivers g route none ((a.request.identified a.freshId).withCappedBody g.bodyLimit)
        ((a.request.identified a.freshId).headers.first? .requestId) a.client sent d result ∧
      g.Performs (a.request.identified a.freshId) ((g.serve a).run answer s) sent := by
  obtain ⟨course, d, answered, hd, hperforms⟩ := performs_dispatch answer s hr
  cases hd with
  | unguarded _ hdelivers => exact ⟨_, _, _, hdelivers, hperforms⟩
  | noSession ha _ | denied ha _ _ | admitted ha _ _ _ _ => simp [ha] at hopen

theorem asked_of_noSession (hr : Reaches g (a.request.identified a.freshId) route)
    (hguard : route.requiresAuth = true)
    (ht : (a.request.identified a.freshId).headers.sessionToken? = none) :
    ((g.serve a).run answer s).asked = [] := by
  obtain ⟨course, d, answered, hd, hperforms⟩ := performs_dispatch answer s hr
  cases hd with
  | unguarded ha _ => simp [ha] at hguard
  | noSession => exact timeless_eq_nil (List.prefix_nil.mp hperforms.prefix_timeless)
  | denied _ ht' _ | admitted _ ht' _ _ _ => exact absurd (ht.symm.trans ht') (by simp)

/-- On a guarded route the session is checked, and what follows depends on how that ends. -/
theorem performs_guarded (hr : Reaches g (a.request.identified a.freshId) route)
    (hguard : route.requiresAuth = true) {t : String}
    (ht : (a.request.identified a.freshId).headers.sessionToken? = some t) :
    let r := a.request.identified a.freshId
    let id := r.headers.first? .requestId
    (∃ checks f, g.auth.Denies r.headers id t checks f ∧
        g.Performs r ((g.serve a).run answer s) checks) ∨
      ∃ checks cookies lookup identity sent d result,
        g.auth.Admits r.headers id t checks cookies ∧
        Identifies g route r.method t id lookup identity ∧
        Delivers g route identity (r.withCappedBody g.bodyLimit) id a.client sent d result ∧
        g.Performs r ((g.serve a).run answer s) (checks ++ (lookup ++ sent)) := by
  obtain ⟨course, d, answered, hd, hperforms⟩ := performs_dispatch answer s hr
  cases hd with
  | unguarded ha _ => simp [ha] at hguard
  | noSession _ ht' => exact absurd (ht'.symm.trans ht) (by simp)
  | denied _ ht' hc =>
    obtain rfl := Option.some.inj (ht'.symm.trans ht)
    exact Or.inl ⟨_, _, hc, hperforms⟩
  | admitted _ ht' hc hi hdelivers =>
    obtain rfl := Option.some.inj (ht'.symm.trans ht)
    exact Or.inr ⟨_, _, _, _, _, _, _, hc, hi, hdelivers, hperforms⟩

/-- A call that is not for the auth service comes behind an accepted session on guarded routes. -/
theorem asked_behind_session (hr : Reaches g (a.request.identified a.freshId) route)
    (hguard : route.requiresAuth = true) {x : Call × Outcome}
    (hx : x ∈ ((g.serve a).run answer s).asked) (hne : x.1.collaborator ≠ .auth) :
    let r := a.request.identified a.freshId
    ∃ t checks cookies before after, r.headers.sessionToken? = some t ∧
      g.auth.Admits r.headers (r.headers.first? .requestId) t checks cookies ∧
      ((g.serve a).run answer s).asked = before ++ x :: after ∧
      timeless checks <+: timeless before := by
  obtain ⟨course, d, answered, hd, hperforms⟩ := performs_dispatch answer s hr
  obtain ⟨y, hy, hyx, _⟩ := hperforms.exists_call hx
  obtain ⟨hwho, _⟩ := Call.of_timeless_eq hyx
  obtain ⟨t, checks, cookies, others, sent, ht, hc, rfl, hauth⟩ :=
    hd.behind hguard ⟨y, hy, hwho ▸ hne⟩
  obtain ⟨before, after, hsplit, hbehind⟩ :=
    hperforms.behind hx fun z hz he => hne (he ▸ hauth z hz)
  refine ⟨t, checks, cookies, before, after, ht, hc, hsplit, ?_⟩
  rw [timeless_append] at hbehind
  exact (List.prefix_append _ _).trans hbehind

theorem reaches_of_asked {x : Call × Outcome} (hx : x ∈ ((g.serve a).run answer s).asked) :
    ∃ route, Reaches g (a.request.identified a.freshId) route := by
  refine Classical.byContradiction fun hnone => ?_
  have hnil := asked_of_not_reaches answer s fun route hr => hnone ⟨route, hr⟩
  simp [hnil] at hx

/-- Who is called and is not the auth service is the target of the route. -/
theorem target_of_asked (hr : Reaches g (a.request.identified a.freshId) route)
    {x : Call × Outcome} (hx : x ∈ ((g.serve a).run answer s).asked)
    (hne : x.1.collaborator ≠ .auth) : x.1.collaborator = route.target := by
  obtain ⟨course, d, answered, hd, hperforms⟩ := performs_dispatch answer s hr
  obtain ⟨y, hy, hyx, -⟩ := hperforms.exists_call hx
  have hwho : y.1.collaborator = x.1.collaborator := (Call.of_timeless_eq hyx).1
  rcases hd.call y hy with ⟨-, q, hq⟩ | ⟨outbound, hcall⟩
  · exact absurd (hwho.symm.trans hq.collaborator) hne
  · rw [← hwho, hcall, onwardCall_collaborator]

theorem reaches_guarded_of_asked (hg : g.routes = surface) {x : Call × Outcome}
    (hx : x ∈ ((g.serve a).run answer s).asked)
    (hwho : x.1.collaborator = .backend ∨ x.1.collaborator = .node) :
    ∃ route, Reaches g (a.request.identified a.freshId) route ∧ route.requiresAuth = true := by
  obtain ⟨route, hr⟩ := reaches_of_asked answer s hx
  have hiff := Surface.guarded_iff route (Surface.resolve_ok_inv (hg ▸ hr.found)).1
  have hne : x.1.collaborator ≠ .auth := by rcases hwho with h | h <;> simp [h]
  rw [target_of_asked answer s hr hx hne] at hwho
  exact ⟨route, hr, hiff.mpr hwho⟩

/--
The gate over whole requests. Preflights, health checks and requests that are declared too long or
have no route make no call. On an open route only its target is called. On a guarded one nothing is
called without a session token; with one, a session check that ends in a refusal is all there is, or
it is accepted and the owner is asked for where the transform has to know, before the target is
called with what the transform made. What the backend or the node service is asked for comes behind
an accepted session.
-/
theorem serve_guarded {σ : Type} (g : Gateway) (hg : g.routes = surface) (a : Arrival)
    (answer : σ → Call → Outcome × σ) (s : σ) :
    let r := a.request.identified a.freshId
    let id := r.headers.first? .requestId
    let run := (g.serve a).run answer s
    (r.method = .options ∨ r.target.path = healthPath ∨ r.isOversized g.bodyLimit = true ∨
        (∃ e, surface.resolve r.method r.target.path = .error e) → run.asked = []) ∧
    (∀ route, Reaches g r route → route.requiresAuth = false →
      ∃ sent d result,
        Delivers g route none (r.withCappedBody g.bodyLimit) id a.client sent d result ∧
        g.Performs r run sent) ∧
    (∀ route, Reaches g r route → route.requiresAuth = true →
      (r.headers.sessionToken? = none → run.asked = []) ∧
      ∀ t, r.headers.sessionToken? = some t →
        (∃ checks f, g.auth.Denies r.headers id t checks f ∧ g.Performs r run checks) ∨
        ∃ checks cookies lookup identity sent d result,
          g.auth.Admits r.headers id t checks cookies ∧
          Identifies g route r.method t id lookup identity ∧
          Delivers g route identity (r.withCappedBody g.bodyLimit) id a.client sent d result ∧
          g.Performs r run (checks ++ (lookup ++ sent))) ∧
    ∀ x ∈ run.asked, x.1.collaborator = .backend ∨ x.1.collaborator = .node →
      ∃ t checks cookies before after, r.headers.sessionToken? = some t ∧
        g.auth.Admits r.headers id t checks cookies ∧ run.asked = before ++ x :: after ∧
        timeless checks <+: timeless before := by
  intro r id run
  refine ⟨fun hearly => ?_, fun route hr hopen => performs_open answer s hr hopen,
    fun route hr hguard => ⟨asked_of_noSession answer s hr hguard,
      fun t ht => performs_guarded answer s hr hguard ht⟩, fun x hx hwho => ?_⟩
  · refine asked_of_not_reaches answer s fun route hr => ?_
    rcases hearly with hm | hp | ho | ⟨e, he⟩
    · exact hr.request hm
    · exact hr.place hp
    · exact absurd (ho.symm.trans hr.small) (by decide)
    · rw [← hg] at he
      exact absurd (he.symm.trans hr.found) (by simp)
  · obtain ⟨route, hr, hguard⟩ := reaches_guarded_of_asked answer s hg hx hwho
    have hne : x.1.collaborator ≠ .auth := by rcases hwho with h | h <;> simp [h]
    exact asked_behind_session answer s hr hguard hx hne

/-- A session that is renewed before the backend is asked. -/
theorem serve_guarded_renewed :
    (sample 60000).routes = surface ∧
      let run := ((sample 60000).serve (sampleArrival "/api/apikeys")).run Outcome.scripted
        [.reply ⟨.unauthorized, .empty, .empty⟩ 0, .reply ⟨.ok, .empty, .empty⟩ 0]
      run.asked.map (·.1.collaborator) = [.auth, .auth, .backend] ∧
        ∀ x ∈ run.asked, x.1.collaborator = .backend →
          ∃ t checks cookies before after,
            (sampleArrival "/api/apikeys").request.headers.sessionToken? = some t ∧
            (sample 60000).auth.Admits (sampleArrival "/api/apikeys").request.headers
              ((sampleArrival "/api/apikeys").request.headers.first? .requestId) t checks cookies ∧
            run.asked = before ++ x :: after ∧ timeless checks <+: timeless before := by
  refine ⟨Surface.eq_ordered.symm, by decide +kernel, fun x hx hb => ?_⟩
  exact (serve_guarded (sample 60000) Surface.eq_ordered.symm (sampleArrival "/api/apikeys")
    Outcome.scripted _).2.2.2 x hx (Or.inl hb)

end Gateway

end Gatehouse
