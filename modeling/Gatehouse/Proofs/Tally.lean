import Gatehouse.Proofs.SeriesTexts

namespace Gatehouse

open Program

namespace Request

variable (r : Request) (fresh : HeaderValue)

theorem isOversized_identified (limit : Nat) :
    (r.identified fresh).isOversized limit = r.isOversized limit := by
  unfold isOversized declaredLength? Headers.text? Headers.first?
  rw [all_identified_of_ne r fresh (by decide)]

end Request

namespace Gateway

/-- Whether a request comes as far as the routes. -/
def considers (g : Gateway) (r : Request) : Bool :=
  decide (r.method ≠ .options ∧ r.isOversized g.bodyLimit = false ∧ r.target.path ≠ healthPath)

def routeOf? (g : Gateway) (r : Request) : Option Route :=
  (g.routes.resolve r.method r.target.path).toOption

/-- Whether the route of a request asks for a session. -/
def guards (g : Gateway) (r : Request) : Bool :=
  g.considers r && (g.routeOf? r).any (·.requiresAuth)

/-- What a request is to be counted under if its client is told this status, if it is at all. -/
def entry? (g : Gateway) (r : Request) (status : Status) : Option Labels :=
  if g.considers r then some (r.method, status, ((g.routeOf? r).map Route.name).getD "none")
  else none

/-- Whether these events are what is to be noted of a request whose client is told this status. -/
def Accounts (g : Gateway) (r : Request) (status : Status) (events : List Event) : Prop :=
  ∃ checks : List SessionOutcome,
    events = checks.map .sessionCheck ++ (g.entry? r status).toList.map .ofLabels ∧
    checks.length = if g.guards r then 1 else 0

/-- What the requests of a history are to be counted under. -/
def entries (g : Gateway) (history : List Arrival) (responses : List Response) : List Labels :=
  (history.zip responses).filterMap fun (a, response) => g.entry? a.request response.status

/-- Whether none of the requests of a history is cut off. -/
def InTime {σ : Type} (g : Gateway) (answer : σ → Call → Outcome × σ) : σ → List Arrival → Prop
  | _, [] => True
  | s, a :: rest =>
    g.isCutOff a answer s = false ∧ g.InTime answer ((g.serve a).run answer s).peer rest

instance decidableInTime {σ : Type} (g : Gateway) (answer : σ → Call → Outcome × σ) :
    ∀ s history, Decidable (g.InTime answer s history)
  | _, [] => inferInstanceAs (Decidable True)
  | s, a :: rest =>
    have := decidableInTime g answer ((g.serve a).run answer s).peer rest
    inferInstanceAs (Decidable (_ = false ∧ g.InTime answer _ rest))

variable {g : Gateway} {route : Route} {r : Request} {id : Option HeaderValue}
  {client : Option IpAddress} {es : List Event} {qs : List (Call × Outcome)} {d : Nat}

/-- On a route, nothing is counted but one check, if the route asks for it. -/
theorem checks_of_dispatch {answered : Except Failure Response × List HeaderValue}
    (h : Trace (g.dispatch route r id client) es qs d (some answered)) :
    ∃ checks : List SessionOutcome, es = checks.map .sessionCheck ∧
      checks.length = if route.requiresAuth then 1 else 0 := by
  unfold dispatch at h
  split at h
  next ha =>
    obtain ⟨checked, es₁, es₂, _, _, _, _, hv, hrest, rfl, -⟩ := h.bind_some_inv
    obtain ⟨rfl, -⟩ := AuthClient.trace_validate hv
    have hnone : ∀ e ∈ es₂, False := by
      refine hrest.events ?_
      cases checked with
      | error => trivial
      | ok session =>
        exact (notesOnly_identify ..).bind fun _ => (notesOnly_deliver ..).bind fun _ => trivial
    rw [List.eq_nil_iff_forall_not_mem.mpr hnone, if_pos ha]
    exact ⟨[checkOutcome checked], rfl, rfl⟩
  next ha =>
    have hnone : ∀ e ∈ es, False := h.events ((notesOnly_deliver ..).bind fun _ => trivial)
    rw [List.eq_nil_iff_forall_not_mem.mpr hnone, if_neg ha]
    exact ⟨[], rfl, rfl⟩

theorem checks_of_handle {response : Response}
    (h : Trace (g.handle r client) es qs d (some response)) :
    ∃ checks : List SessionOutcome, es = checks.map .sessionCheck ++
        [.request r.method response.status (((g.routeOf? r).map Route.name).getD "none")] ∧
      checks.length = if (g.routeOf? r).any (·.requiresAuth) then 1 else 0 := by
  unfold handle at h
  unfold routeOf?
  split at h
  next e hr =>
    rw [hr]
    cases h with
    | note rest =>
      cases rest
      exact ⟨[], rfl, rfl⟩
  next route hr =>
    rw [hr]
    obtain ⟨⟨result, cookies⟩, es₁, es₂, _, _, _, _, hd, hlast, rfl, -⟩ := h.bind_some_inv
    obtain ⟨checks, rfl, hlength⟩ := checks_of_dispatch hd
    cases hlast with
    | note rest =>
      cases rest
      exact ⟨checks, rfl, hlength⟩

theorem accounts_nil (h : g.considers r = false) (status : Status) : g.Accounts r status [] := by
  unfold Accounts guards entry?
  rw [h]
  exact ⟨[], rfl, rfl⟩

/-- What comes as far as the routes is counted once, with what is said to it. -/
theorem accounts_of_limited (hm : r.method ≠ .options) {response : Response}
    (h : Trace (g.limited r client) es qs d (some response)) :
    g.Accounts r response.status es := by
  unfold limited at h
  split at h
  next ho =>
    obtain ⟨rfl, -⟩ := h.done_inv
    exact accounts_nil (by simp [considers, ho]) _
  next ho =>
    split at h
    next hp =>
      obtain ⟨rfl, -⟩ := h.done_inv
      exact accounts_nil (by simp [considers, hp]) _
    next hp =>
      have hcomes : g.considers r = true := by simp [considers, hm, ho, hp]
      have hhandled := checks_of_handle h
      unfold Accounts guards entry?
      rw [hcomes]
      exact hhandled

/-- The id that a request is given plays no part in how it is counted. -/
theorem accounts_identified (g : Gateway) (r : Request) (fresh : HeaderValue) (status : Status)
    (events : List Event) :
    g.Accounts (r.identified fresh) status events ↔ g.Accounts r status events := by
  have hconsiders : g.considers (r.identified fresh) = g.considers r := by
    simp [considers, Request.isOversized_identified]
  have hroute : g.routeOf? (r.identified fresh) = g.routeOf? r := by simp [routeOf?]
  unfold Accounts guards entry?
  rw [hconsiders, hroute, Request.identified_method]

/-- A request that is not cut off is counted once, with what its client is told. -/
theorem accounts_of_serve {σ : Type} {a : Arrival} {answer : σ → Call → Outcome × σ} {s : σ}
    (h : g.isCutOff a answer s = false) :
    let run := (g.serve a).run answer s
    g.Accounts a.request run.result.status run.events := by
  intro run
  have hrun : run = _ := run_serve g a answer s
  rw [hrun]
  dsimp only
  rw [status_finish, timed]
  split
  next hm =>
    rw [Request.identified_method] at hm
    exact accounts_nil (by simp [considers, hm]) _
  next hm =>
    have hlimited : (g.limited (a.request.identified a.freshId) a.client).isCutOff g.patience
        answer s = false := by
      rw [Request.identified_method] at hm
      simpa [isCutOff, hm] using h
    obtain ⟨qs, d, -, htrace, -⟩ :=
      Exchange.trace_of_isCutOff hlimited LayerFault.elapsed.failure.response
    exact (accounts_identified ..).mp (accounts_of_limited hm htrace)

theorem Accounts.labels? {status : Status} (h : g.Accounts r status es) :
    es.filterMap Event.labels? = (g.entry? r status).toList := by
  obtain ⟨checks, rfl, -⟩ := h
  rw [List.filterMap_append, List.filterMap_map, List.filterMap_map]
  simp [Function.comp_def, Event.labels?, Event.ofLabels]

theorem Accounts.outcome? {status : Status} (h : g.Accounts r status es) :
    (es.filterMap Event.outcome?).length = if g.guards r then 1 else 0 := by
  obtain ⟨checks, rfl, hlength⟩ := h
  rw [List.filterMap_append, List.filterMap_map, List.filterMap_map]
  simpa [Function.comp_def, Event.outcome?, Event.ofLabels] using hlength

theorem entries_cons (g : Gateway) (a : Arrival) (history : List Arrival) (response : Response)
    (responses : List Response) :
    g.entries (a :: history) (response :: responses) =
      (g.entry? a.request response.status).toList ++ g.entries history responses := by
  cases h : g.entry? a.request response.status <;> simp [entries, h]

theorem counted_of_serveAll {σ : Type} {history : List Arrival}
    {answer : σ → Call → Outcome × σ} {s : σ} (h : g.InTime answer s history) :
    let run := (g.serveAll history).run answer s
    run.result.length = history.length ∧
      run.events.filterMap Event.labels? = g.entries history run.result ∧
      (run.events.filterMap Event.outcome?).length = history.countP (g.guards ·.request) := by
  induction history generalizing s with
  | nil => exact ⟨rfl, rfl, rfl⟩
  | cons a history ih =>
    obtain ⟨hfirst, hrest⟩ := h
    have haccounts := accounts_of_serve hfirst
    obtain ⟨hresult, hlabels, houtcomes⟩ := ih hrest
    rw [run_serveAll_cons]
    dsimp only
    refine ⟨congrArg (· + 1) hresult, ?_, ?_⟩
    · rw [List.filterMap_append, haccounts.labels?, hlabels, entries_cons]
    · rw [List.filterMap_append, List.length_append, haccounts.outcome?, houtcomes,
        List.countP_cons, Nat.add_comm]

/--
The accounts of a history in which nothing is cut off. In the series that requests are counted in,
and in those of how long routes take, there is one for each request that comes as far as the routes,
under its method, the status its client is told and the name of its route; there is nothing else in
them. So what is counted for a route, whatever the method and the status, is how often its time was
taken; and what is counted as a session check, however it ended, is how many requests came to a
route that asks for one.
-/
theorem serveAll_accounted {σ : Type} (g : Gateway) (history : List Arrival)
    (answer : σ → Call → Outcome × σ) (s : σ) (h : g.InTime answer s history) :
    let run := (g.serveAll history).run answer s
    let counted := g.entries history run.result
    run.result.length = history.length ∧
    (∀ labels, total run.events (requestSeries labels) = counted.count labels) ∧
    (∀ route, total run.events (durationSeries route) = counted.countP (·.2.2 = route)) ∧
    (∀ route, ∑ᶠ x : Method × Status, total run.events (requestSeries (x.1, x.2, route)) =
      total run.events (durationSeries route)) ∧
    ∑ᶠ outcome, total run.events (checkSeries outcome) = history.countP (g.guards ·.request) ∧
    ∀ text, 0 < total run.events text →
      (∃ labels ∈ counted, text = requestSeries labels ∨ text = durationSeries labels.2.2) ∨
        ∃ outcome, text = checkSeries outcome := by
  intro run counted
  obtain ⟨hresult, (hlabels : run.events.filterMap Event.labels? = counted), houtcomes⟩ :=
    counted_of_serveAll h
  have hrequests (labels : Labels) :
      total run.events (requestSeries labels) = counted.count labels :=
    (total_eq_count Event.count_requestSeries _ _).trans (congrArg (List.count labels) hlabels)
  have hdurations (route : String) :
      total run.events (durationSeries route) = counted.countP (·.2.2 = route) :=
    (total_durationSeries _ _).trans (congrArg (List.countP _) hlabels)
  have hchecks (outcome : SessionOutcome) :
      total run.events (checkSeries outcome) =
        (run.events.filterMap Event.outcome?).count outcome :=
    total_eq_count Event.count_checkSeries _ _
  refine ⟨hresult, hrequests, hdurations, fun route => ?_, ?_, fun text htext => ?_⟩
  · simp only [hrequests, hdurations]
    exact finsum_count_route counted route
  · simp only [hchecks]
    exact (finsum_count _).trans houtcomes
  · rcases exists_of_total_pos htext with ⟨labels, hl, htext⟩ | ⟨outcome, -, htext⟩
    · exact Or.inl ⟨labels, hlabels ▸ hl, htext⟩
    · exact Or.inr ⟨outcome, htext⟩

/-- Requests of all kinds: for two guarded routes, for none, for no route at all, and for health. -/
def mixedHistory : List Arrival :=
  let preflight := sampleArrival "/api/tenants"
  [sampleArrival "/api/tenants", sampleArrival "/nowhere",
    { preflight with request.method := .options }, sampleArrival healthPath,
    sampleArrival "/api/nodes/n1"]

/-- The first session is renewed, but its owner is not found; the second is never checked. -/
def mixedOutcomes : List Outcome :=
  [.reply ⟨.unauthorized, .empty, .empty⟩ 0, .reply renewing 0, .broken 0, .broken 0]

/-- Three of the five are counted, and so are two checks. -/
theorem serveAll_accounted_mixed :
    (sample 60000).InTime Outcome.scripted mixedOutcomes mixedHistory ∧
      let run := ((sample 60000).serveAll mixedHistory).run Outcome.scripted mixedOutcomes
      total run.events (requestSeries (.get, .unauthorized, "tenants")) = 1 ∧
        total run.events (durationSeries "none") = 1 ∧
        ∑ᶠ x : Method × Status, total run.events (requestSeries (x.1, x.2, "nodes")) = 1 ∧
        ∑ᶠ outcome, total run.events (checkSeries outcome) = 2 := by
  have hintime : (sample 60000).InTime Outcome.scripted mixedOutcomes mixedHistory := by
    decide +kernel
  refine ⟨hintime, ?_⟩
  intro run
  obtain ⟨-, hrequests, hdurations, hsums, hchecks, -⟩ :=
    serveAll_accounted (sample 60000) mixedHistory Outcome.scripted mixedOutcomes hintime
  have hentries : (sample 60000).entries mixedHistory run.result =
      [(.get, .unauthorized, "tenants"), (.get, .notFound, "none"),
        (.get, .serviceUnavailable, "nodes")] := by
    decide +kernel
  have hguarded : mixedHistory.countP ((sample 60000).guards ·.request) = 2 := by decide +kernel
  refine ⟨?_, ?_, ?_, hchecks.trans hguarded⟩
  · rw [hrequests, hentries]
    decide +kernel
  · rw [hdurations, hentries]
    decide +kernel
  · rw [hsums, hdurations, hentries]
    decide +kernel

end Gateway

end Gatehouse
