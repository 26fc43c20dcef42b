import Gatehouse.Proofs.Dispatch
import Gatehouse.Proofs.Fields
import Gatehouse.Proofs.Surface

namespace Gatehouse

open Program

/-- An answer to go on with where a program was left. -/
instance : Inhabited Outcome := ⟨.silent⟩

namespace Gateway

variable {g : Gateway} {r : Request} {client : Option IpAddress}

/-- What is said to a request that no route is followed for. -/
inductive Answers (g : Gateway) (r : Request) : Response → Prop where
  | preflight (hm : r.method = .options) : Answers g r ⟨.noContent, .empty, .empty⟩
  | oversized (hm : r.method ≠ .options) (ho : r.isOversized g.bodyLimit = true) :
      Answers g r Failure.payloadTooLarge.response
  | health (hm : r.method ≠ .options) (ho : r.isOversized g.bodyLimit = false)
      (hp : r.target.path = healthPath) : Answers g r (Gateway.health r.method)
  | unrouted (hm : r.method ≠ .options) (ho : r.isOversized g.bodyLimit = false)
      (hp : r.target.path ≠ healthPath) {e : NoRoute}
      (hr : g.routes.resolve r.method r.target.path = .error e) :
      Answers g r (NoRoute.failure e).response

/-- Whether a request comes as far as a route. -/
structure Reaches (g : Gateway) (r : Request) (route : Route) : Prop where
  request : r.method ≠ .options
  small : r.isOversized g.bodyLimit = false
  place : r.target.path ≠ healthPath
  found : g.routes.resolve r.method r.target.path = .ok route

/-- The calls for a request, how long they pause, and the answer, where no deadline is set. -/
inductive Completes (g : Gateway) (r : Request) (client : Option IpAddress) :
    List (Call × Outcome) → Nat → Response → Prop where
  | atOnce {response : Response} (ha : Answers g r response) : Completes g r client [] 0 response
  | followed {route : Route} (hr : Reaches g r route) {qs : List (Call × Outcome)} {d : Nat}
      {result : Except Failure Response} {cookies : List HeaderValue}
      (hd : Dispatches g route (r.withCappedBody g.bodyLimit) (r.headers.first? .requestId) client
        qs d (result, cookies)) :
      Completes g r client qs d ((responseOf result).withCookies cookies)

/-- The calls for a request, as if each had its own patience, and the answer to it. -/
inductive Serves (g : Gateway) (r : Request) (client : Option IpAddress) :
    List (Call × Outcome) → Response → Prop where
  | atOnce {response : Response} (ha : Answers g r response) : Serves g r client [] response
  | inTime {route : Route} (hr : Reaches g r route) {qs : List (Call × Outcome)} {d : Nat}
      {result : Except Failure Response} {cookies : List HeaderValue}
      (hd : Dispatches g route (r.withCappedBody g.bodyLimit) (r.headers.first? .requestId) client
        qs d (result, cookies))
      (ht : waited qs + d ≤ g.patience) :
      Serves g r client qs ((responseOf result).withCookies cookies)
  | late {route : Route} (hr : Reaches g r route) {qs more : List (Call × Outcome)} {d d' : Nat}
      {answer : Except Failure Response × List HeaderValue}
      (hd : Dispatches g route (r.withCappedBody g.bodyLimit) (r.headers.first? .requestId) client
        (qs ++ more) (d + d') answer)
      (ht : g.patience < waited qs + d) : Serves g r client qs Failure.requestTimeout.response

theorem trace_handle {es : List Event} {qs : List (Call × Outcome)} {d : Nat}
    {response : Response} (htrace : Trace (g.handle r client) es qs d (some response)) :
    (∃ e, g.routes.resolve r.method r.target.path = .error e ∧ qs = [] ∧ d = 0 ∧
        response = (NoRoute.failure e).response) ∨
      ∃ route result cookies, g.routes.resolve r.method r.target.path = .ok route ∧
        Dispatches g route r (r.headers.first? .requestId) client qs d (result, cookies) ∧
        response = (responseOf result).withCookies cookies := by
  unfold handle at htrace
  split at htrace
  next e hr =>
    cases htrace with
    | note rest =>
      cases rest
      exact Or.inl ⟨e, hr, rfl, rfl, rfl⟩
  next route hr =>
    obtain ⟨⟨result, cookies⟩, _, _, _, _, _, _, hd, hlast, rfl, rfl, rfl⟩ := htrace.bind_some_inv
    cases hlast with
    | note rest =>
      cases rest
      exact Or.inr ⟨route, result, cookies, hr, by simpa using trace_dispatch hd, rfl⟩

theorem trace_limited (hm : r.method ≠ .options) {es : List Event} {qs : List (Call × Outcome)}
    {d : Nat} {response : Response}
    (htrace : Trace (g.limited r client) es qs d (some response)) :
    Completes g r client qs d response := by
  unfold limited at htrace
  split at htrace
  next ho =>
    cases htrace
    exact .atOnce (.oversized hm ho)
  next ho =>
    have ho : r.isOversized g.bodyLimit = false := by simpa using ho
    split at htrace
    next hp =>
      cases htrace
      exact .atOnce (.health hm ho hp)
    next hp =>
      rcases trace_handle htrace with ⟨e, hr, rfl, rfl, rfl⟩ | ⟨route, result, cookies, hr, hd, rfl⟩
      · exact .atOnce (.unrouted hm ho hp hr)
      · exact .followed ⟨hm, ho, hp, hr⟩ hd

theorem trace_timed {es : List Event} {qs : List (Call × Outcome)} {d : Nat}
    {response : Response} (htrace : Trace (g.timed r client) es qs d (some response)) :
    ∃ qs', timeless qs = timeless qs' ∧ Serves g r client qs' response := by
  unfold timed at htrace
  split at htrace
  next hm =>
    cases htrace
    exact ⟨[], rfl, .atOnce (.preflight hm)⟩
  next hm =>
    obtain ⟨qs', d', heq, ⟨h, ht⟩ | ⟨rfl, h, ht⟩⟩ := Exchange.trace_within htrace
    · refine ⟨qs', heq, ?_⟩
      cases trace_limited hm h with
      | atOnce ha => exact .atOnce ha
      | followed hr hd => exact .inTime hr hd ht
    · refine ⟨qs', heq, ?_⟩
      obtain ⟨_, more, d'', b, hfull⟩ := h.extend
      generalize hqs : qs' ++ more = course at hfull
      generalize hd : d' + d'' = pause at hfull
      cases trace_limited hm hfull with
      | atOnce =>
        obtain rfl := (List.append_eq_nil_iff.mp hqs).1
        rw [waited_nil] at ht
        omega
      | followed hr hdispatches =>
        subst hqs hd
        exact .late hr hdispatches ht

theorem run_serve {σ : Type} (g : Gateway) (a : Arrival) (answer : σ → Call → Outcome × σ)
    (s : σ) :
    let r := a.request.identified a.freshId
    let timed := (g.timed r a.client).run answer s
    (g.serve a).run answer s =
      ⟨g.finish r timed.result, timed.peer, timed.events, timed.asked⟩ := by
  intro r timed
  unfold serve
  rw [Exchange.run_bind]
  simp [Exchange.run_done, timed, r]

/-- Whoever answers, a request is served by one of these courses, and its answer then finished. -/
theorem serves_run {σ : Type} (g : Gateway) (a : Arrival) (answer : σ → Call → Outcome × σ)
    (s : σ) :
    ∃ qs response, timeless ((g.serve a).run answer s).asked = timeless qs ∧
      Serves g (a.request.identified a.freshId) a.client qs response ∧
      ((g.serve a).run answer s).result = g.finish (a.request.identified a.freshId) response := by
  obtain ⟨d, htrace⟩ :=
    Exchange.trace_run answer (g.timed (a.request.identified a.freshId) a.client) s
  obtain ⟨qs, heq, hserves⟩ := trace_timed htrace
  rw [run_serve]
  exact ⟨qs, _, heq, hserves, rfl⟩

/-- Nothing but silence is heard of a call once the time for the whole request is up. -/
theorem wait_le_of_asked {σ : Type} {a : Arrival} {answer : σ → Call → Outcome × σ} {s : σ}
    {x : Call × Outcome} (hx : x ∈ ((g.serve a).run answer s).asked) : x.2.wait 0 ≤ g.patience := by
  rw [run_serve] at hx
  obtain ⟨d, htrace⟩ :=
    Exchange.trace_run answer (g.timed (a.request.identified a.freshId) a.client) s
  have htold : x.1.patience ≤ g.patience := by
    unfold timed at htrace hx
    split at htrace
    next hm =>
      rw [if_pos hm] at hx
      cases hx
    next hm =>
      rw [if_neg hm] at hx
      exact Exchange.patience_le_of_within htrace x hx
  have hheard := Exchange.wait_le_of_mem_asked hx
  by_cases hsilent : x.2 = .silent
  · rw [hsilent]
    exact Nat.zero_le _
  · rw [Outcome.wait_of_ne_silent hsilent 0 x.1.patience]
    exact Nat.le_trans hheard htold

/-- Whether the deadline for whole requests cuts this one off. -/
def isCutOff {σ : Type} (g : Gateway) (a : Arrival) (answer : σ → Call → Outcome × σ) (s : σ) :
    Bool :=
  a.request.method ≠ .options &&
    (g.limited (a.request.identified a.freshId) a.client).isCutOff g.patience answer s

/-- A request comes to the end of its own course, or it is cut off and told so. -/
theorem completes_or_isCutOff {σ : Type} (g : Gateway) (a : Arrival)
    (answer : σ → Call → Outcome × σ) (s : σ) :
    let r := a.request.identified a.freshId
    let run := (g.serve a).run answer s
    (∃ qs d response, timeless run.asked = timeless qs ∧ Completes g r a.client qs d response ∧
        run.result = g.finish r response) ∨
      g.isCutOff a answer s = true ∧ run.result = g.finish r Failure.requestTimeout.response := by
  intro r run
  have hrun : run = _ := run_serve g a answer s
  by_cases hm : a.request.method = .options
  · have hm : r.method = .options := (a.request.identified_method a.freshId).trans hm
    rw [hrun, timed, if_pos hm]
    exact Or.inl ⟨[], 0, _, rfl, .atOnce (.preflight hm), rfl⟩
  · have hcut : g.isCutOff a answer s = (g.limited r a.client).isCutOff g.patience answer s := by
      simp [isCutOff, hm, r]
    have hm : r.method ≠ .options := by simpa [r] using hm
    rw [hcut, hrun, timed, if_neg hm]
    cases h : (g.limited r a.client).isCutOff g.patience answer s with
    | false =>
      obtain ⟨qs, d, heq, htrace, -⟩ :=
        Exchange.trace_of_isCutOff h LayerFault.elapsed.failure.response
      exact Or.inl ⟨qs, d, _, heq, trace_limited hm htrace, rfl⟩
    | true =>
      exact Or.inr ⟨rfl, congrArg (g.finish r) (Exchange.result_of_isCutOff h _)⟩

variable {route : Route} {response : Response} {qs : List (Call × Outcome)}

theorem Reaches.unique {other : Route} (h : Reaches g r route) (h' : Reaches g r other) :
    route = other := Except.ok.inj (h.found.symm.trans h'.found)

theorem Answers.not_reaches (ha : Answers g r response) : ¬Reaches g r route := by
  intro hr
  cases ha with
  | preflight hm => exact hr.request hm
  | oversized _ ho => simp [hr.small] at ho
  | health _ _ hp => exact hr.place hp
  | unrouted _ _ _ he => simp [hr.found] at he

theorem Serves.course (hs : Serves g r client qs response) (hr : Reaches g r route) :
    ∃ course d answer,
      Dispatches g route (r.withCappedBody g.bodyLimit) (r.headers.first? .requestId) client course
        d answer ∧
      (qs = course ∨ qs <+: course ∧ response = Failure.requestTimeout.response) := by
  cases hs with
  | atOnce ha => exact absurd hr ha.not_reaches
  | inTime hr' hd ht =>
    obtain rfl := hr.unique hr'
    exact ⟨_, _, _, hd, Or.inl rfl⟩
  | late hr' hd ht =>
    obtain rfl := hr.unique hr'
    exact ⟨_, _, _, hd, Or.inr ⟨List.prefix_append _ _, rfl⟩⟩

theorem Serves.reaches_of_ne_nil (hs : Serves g r client qs response) (hq : qs ≠ []) :
    ∃ route, Reaches g r route := by
  cases hs with
  | atOnce => exact absurd rfl hq
  | inTime hr _ _ => exact ⟨_, hr⟩
  | late hr _ _ => exact ⟨_, hr⟩

end Gateway

/-- Gives prepared outcomes one after the other, whatever the calls are. -/
def Outcome.scripted (left : List Outcome) (_ : Call) : Outcome × List Outcome :=
  (left.headD (.refused 0), left.tail)

namespace Gateway

def sample (patience : Nat) : Gateway where
  routes := ⟨Surface.ordered⟩
  auth := ⟨⟨"http", "auth"⟩, authPatience⟩
  forwarder :=
    ⟨⟨⟨"http", "auth"⟩, ⟨"http", "backend"⟩, ⟨"http", "node"⟩, ⟨"http", "monitoring"⟩⟩, 30000⟩
  monitoring := ⟨⟨"http", "monitoring"⟩, 30000⟩
  policy := ⟨[]⟩
  bodyLimit := 1024
  patience

/-- A request for a path that brings a session token and an id. -/
def sampleArrival (path : String) : Arrival where
  request := {
    method := .get
    target := .resource ⟨path, none⟩
    headers := (Headers.empty.add .cookie ⟨octetsOf "session_token=s1", by decide⟩).add .requestId
      ⟨octetsOf "r1", by decide⟩
    body := .empty }
  client := none
  freshId := ⟨octetsOf "r2", by decide⟩

/-- What the auth service renews a session with. -/
def renewing : Response :=
  ⟨.ok, Headers.empty.add .setCookie ⟨octetsOf "session_token=s2", by decide⟩, .empty⟩

end Gateway

end Gatehouse
