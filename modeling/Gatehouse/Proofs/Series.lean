import Mathlib.Data.Finite.Prod
import Mathlib.Data.Set.Finite.Basic
import Gatehouse.Proofs.Answers

namespace Gatehouse

open Program

/-- What the series of counted requests are told apart by: method, status and route. -/
abbrev Labels := Method × Status × String

def Event.labels? : Event → Option Labels
  | .request m status route => some (m, status, route)
  | .sessionCheck _ => none

/-- Whether a status can be that of a response. -/
def Status.IsLegal (s : Status) : Prop := (Status.ofCode? s.code).isSome

instance : DecidablePred Status.IsLegal :=
  fun s => inferInstanceAs (Decidable ((Status.ofCode? s.code).isSome = true))

/-- Whether the outcome of a call can come over a connection. -/
def Outcome.IsLegal (o : Outcome) : Prop :=
  ∀ reply took, o = .reply reply took → reply.status.IsLegal

namespace Gateway

/-- Serves one request after the other. -/
def serveAll (g : Gateway) : List Arrival → Exchange (List Response)
  | [] => .done []
  | a :: rest =>
    (g.serve a).bind fun response => (g.serveAll rest).bind fun more => .done (response :: more)

variable {g : Gateway} {route : Route} {r : Request} {id : Option HeaderValue}
  {client : Option IpAddress}

theorem run_serveAll_cons {σ : Type} (g : Gateway) (a : Arrival) (rest : List Arrival)
    (answer : σ → Call → Outcome × σ) (s : σ) :
    let first := (g.serve a).run answer s
    let more := (g.serveAll rest).run answer first.peer
    (g.serveAll (a :: rest)).run answer s =
      ⟨first.result :: more.result, more.peer, first.events ++ more.events,
        first.asked ++ more.asked⟩ := by
  rw [serveAll, Exchange.run_bind]
  dsimp only
  rw [Exchange.run_bind]
  simp [Exchange.run_done]

/-- What happens in a history happens in the serving of one of its requests. -/
theorem mem_events_serveAll {σ : Type} (answer : σ → Call → Outcome × σ) {history : List Arrival}
    {s : σ} {e : Event} (he : e ∈ ((g.serveAll history).run answer s).events) :
    ∃ a ∈ history, ∃ s', e ∈ ((g.serve a).run answer s').events ∧
      ((g.serve a).run answer s').asked ⊆ ((g.serveAll history).run answer s).asked := by
  induction history generalizing s with
  | nil => cases he
  | cons a rest ih =>
    rw [run_serveAll_cons] at he ⊢
    rcases List.mem_append.mp he with he | he
    · exact ⟨a, List.mem_cons_self .., s, he, List.subset_append_left ..⟩
    · obtain ⟨b, hb, s', hevent, hasked⟩ := ih he
      exact ⟨b, List.mem_cons_of_mem _ hb, s', hevent,
        fun x hx => List.mem_append_right _ (hasked hx)⟩

theorem notesOnly_ask {P : Event → Prop} (client : AuthClient) (q : AuthQuestion) :
    (client.ask q).NotesOnly P := by
  unfold AuthClient.ask
  split
  · trivial
  · exact fun _ => trivial

theorem notesOnly_validateSession (h : Headers) (id : Option HeaderValue) :
    (validateSession h id).NotesOnly (·.labels? = none) := by
  refine NotesOnly.bind ?_ fun _ => ⟨rfl, trivial⟩
  unfold checkSession
  split
  · trivial
  · rintro (_ | reply)
    · trivial
    · dsimp only
      split
      · trivial
      split
      · refine NotesOnly.bind ?_ fun _ => trivial
        rintro (_ | _) <;> trivial
      · trivial

theorem notesOnly_identify {P : Event → Prop} (g : Gateway) (route : Route) (m : Method)
    (t : String) (id : Option HeaderValue) : (g.identify route m t id).NotesOnly P := by
  unfold identify
  split
  · refine NotesOnly.bind (NotesOnly.via ?_ (notesOnly_ask g.auth)) fun _ => trivial
    rintro (_ | _) <;> trivial
  · trivial

theorem notesOnly_deliver {P : Event → Prop} (g : Gateway) (route : Route)
    (identity : Option Identity) (r : Request) (id : Option HeaderValue)
    (client : Option IpAddress) :
    (g.deliver route identity r id client).NotesOnly P := by
  cases hs : route.transform.apply identity g.bodyLimit r with
  | ok outbound =>
    rw [deliver_of_ok hs]
    exact fun _ => trivial
  | error f =>
    unfold deliver
    rw [hs]
    dsimp only
    unfold failed
    split <;> trivial

/-- What is done for a request on its route counts session checks, but no requests. -/
theorem notesOnly_dispatch (g : Gateway) (route : Route) (r : Request) (id : Option HeaderValue)
    (client : Option IpAddress) :
    (g.dispatch route r id client).NotesOnly (·.labels? = none) := by
  unfold dispatch
  split
  · refine ((notesOnly_validateSession ..).via (notesOnly_ask g.auth)).bind ?_
    rintro (_ | session)
    · trivial
    · exact (notesOnly_identify ..).bind fun _ => (notesOnly_deliver ..).bind fun _ => trivial
  · exact (notesOnly_deliver ..).bind fun _ => trivial

/-- Whether a request that these calls were made for is one that is counted under these labels. -/
structure Counts (g : Gateway) (r : Request) (asked : List (Call × Outcome)) (labels : Labels) :
    Prop where
  request : r.method ≠ .options
  small : r.isOversized g.bodyLimit = false
  place : r.target.path ≠ healthPath
  method : labels.1 = r.method
  answer : (∃ e, g.routes.resolve r.method r.target.path = .error e ∧
      labels.2 = ((NoRoute.failure e).status, "none")) ∨
    ∃ route told, g.routes.resolve r.method r.target.path = .ok route ∧ Told r asked told ∧
      labels.2 = ((responseOf told).status, route.name)

/-- A way through the handling of a request counts it once at most, when its answer is known. -/
theorem labels_of_handle {es : List Event} {qs : List (Call × Outcome)} {d : Nat}
    {c : Option Response} (h : Trace (g.handle r client) es qs d c) {e : Event} (he : e ∈ es)
    {labels : Labels} (hl : e.labels? = some labels) :
    labels.1 = r.method ∧
      ((∃ e, g.routes.resolve r.method r.target.path = .error e ∧
          labels.2 = ((NoRoute.failure e).status, "none")) ∨
        ∃ route told cookies, g.routes.resolve r.method r.target.path = .ok route ∧
          Dispatches g route r (r.headers.first? .requestId) client qs d (told, cookies) ∧
          labels.2 = ((responseOf told).status, route.name)) := by
  unfold handle at h
  split at h
  next e' hr =>
    cases h with
    | left => cases he
    | note rest =>
      obtain ⟨rfl, -⟩ := rest.done_inv
      obtain rfl := List.mem_singleton.mp he
      cases hl
      exact ⟨rfl, Or.inl ⟨e', hr, rfl⟩⟩
  next route hr =>
    have hchecks {es : List Event} {qs : List (Call × Outcome)} {d : Nat}
        {c : Option (Except Failure Response × List HeaderValue)}
        (hd : Trace (g.dispatch route r (r.headers.first? .requestId) client) es qs d c) :
        e ∉ es := by
      intro he
      have hnone : e.labels? = none := hd.events (notesOnly_dispatch ..) e he
      cases hl.symm.trans hnone
    rcases h.bind_inv with
      ⟨-, hd⟩ | ⟨⟨told, cookies⟩, es₁, es₂, qs₁, qs₂, d₁, d₂, hd, hlast, rfl, rfl, rfl⟩
    · exact absurd he (hchecks hd)
    · have he := (List.mem_append.mp he).resolve_left (hchecks hd)
      cases hlast with
      | left => cases he
      | note rest =>
        obtain ⟨rfl, rfl, rfl, -⟩ := rest.done_inv
        obtain rfl := List.mem_singleton.mp he
        cases hl
        rw [List.append_nil, Nat.add_zero]
        exact ⟨rfl, Or.inr ⟨route, told, cookies, hr, trace_dispatch hd, rfl⟩⟩

theorem counts_of_timed {es : List Event} {qs : List (Call × Outcome)} {d : Nat}
    {response : Response} (h : Trace (g.timed r client) es qs d (some response)) {e : Event}
    (he : e ∈ es) {labels : Labels} (hl : e.labels? = some labels) : g.Counts r qs labels := by
  unfold timed at h
  split at h
  next =>
    cases h
    cases he
  next hm =>
    have hlimited : ∃ qs' d' c, timeless qs = timeless qs' ∧
        Trace (g.limited r client) es qs' d' c := by
      obtain ⟨qs', d', heq, ⟨h, -⟩ | ⟨-, h, -⟩⟩ := Exchange.trace_within h
      · exact ⟨qs', d', _, heq, h⟩
      · exact ⟨qs', d', _, heq, h⟩
    obtain ⟨qs', d', c, heq, h⟩ := hlimited
    unfold limited at h
    split at h
    next =>
      obtain ⟨rfl, -⟩ := h.done_inv
      cases he
    next ho =>
      split at h
      next =>
        obtain ⟨rfl, -⟩ := h.done_inv
        cases he
      next hp =>
        obtain ⟨hmethod, hanswer⟩ := labels_of_handle h he hl
        refine ⟨hm, by simpa using ho, hp, hmethod, hanswer.imp_right ?_⟩
        rintro ⟨route, told, cookies, hr, hd, hlabels⟩
        exact ⟨route, told, hr, hd.told.congr heq.symm, hlabels⟩

/-- Whatever is counted while a request is served is that request, with what it is told. -/
theorem counts_of_labels {σ : Type} {a : Arrival} {answer : σ → Call → Outcome × σ} {s : σ}
    {e : Event} (he : e ∈ ((g.serve a).run answer s).events) {labels : Labels}
    (hl : e.labels? = some labels) :
    g.Counts (a.request.identified a.freshId) ((g.serve a).run answer s).asked labels := by
  obtain ⟨d, htrace⟩ :=
    Exchange.trace_run answer (g.timed (a.request.identified a.freshId) a.client) s
  rw [run_serve] at he ⊢
  exact counts_of_timed htrace he hl

/-- The series that histories of such requests can create, whoever answers. -/
def creates (g : Gateway) (arrivals : Set Arrival) : Set Labels :=
  {labels | ∃ (σ : Type) (answer : σ → Call → Outcome × σ) (s : σ) (history : List Arrival),
    (∀ a ∈ history, a ∈ arrivals) ∧
    (∀ x ∈ ((g.serveAll history).run answer s).asked, x.2.IsLegal) ∧
    ∃ e ∈ ((g.serveAll history).run answer s).events, e.labels? = some labels}

/-- Whether a request is counted although no list of methods speaks for its own. -/
structure IsFree (g : Gateway) (r : Request) : Prop where
  request : r.method ≠ .options
  small : r.isOversized g.bodyLimit = false
  place : r.target.path ≠ healthPath
  free : (∃ e, g.routes.resolve r.method r.target.path = .error e) ∨
    ∃ route, g.routes.resolve r.method r.target.path = .ok route ∧ route.methods = .any

/-- The methods of those among the requests that no list of methods speaks for. -/
def freeMethods (g : Gateway) (arrivals : Set Arrival) : Set Method :=
  {m | ∃ a ∈ arrivals, g.IsFree (a.request.identified a.freshId) ∧ a.request.method = m}

end Gateway

/-- The methods that routes of the public surface list. -/
def Surface.listedMethods : List Method :=
  surfaceRoutes.flatMap fun route =>
    match route.methods with
    | .any => []
    | .only methods => methods

/-- What requests are counted by for their route. -/
def Surface.routeLabels : List String := "none" :: surfaceRoutes.map Route.name

theorem Surface.open_of_any : ∀ route ∈ surfaceRoutes, route.methods = .any →
    route.requiresAuth = false ∧ route.transform = .keep := by
  decide

theorem Status.finite_isLegal : {s : Status | s.IsLegal}.Finite := by
  refine ((Set.finite_le_nat 999).image Status.mk).subset fun s hs => ⟨s.code, ?_, rfl⟩
  have hs : (ofCode? s.code).isSome = true := hs
  unfold ofCode? at hs
  split at hs
  next h => exact h.2
  next => cases hs

theorem Failure.status_isLegal (f : Failure) : f.status.IsLegal := by
  cases f <;> decide

theorem Told.status_isLegal {r : Request} {asked : List (Call × Outcome)}
    {told : Except Failure Response} (h : Told r asked told) (hl : ∀ x ∈ asked, x.2.IsLegal) :
    (Gateway.responseOf told).status.IsLegal := by
  cases h with
  | preflight | healthy => decide
  | failed f => exact f.status_isLegal
  | @forwarded _ reply took hlast | @relayed _ reply took hlast =>
    exact hl _ (List.mem_of_getLast? hlast) reply took rfl

namespace Gateway

variable {g : Gateway} {route : Route} {r : Request} {client : Option IpAddress}
  {arrivals : Set Arrival} {labels : Labels}

/-- Status and route of a series are from few, and so is its method unless it is a free one. -/
theorem bounded_of_creates (hg : g.routes = surface) (h : labels ∈ g.creates arrivals) :
    (labels.1 ∈ g.freeMethods arrivals ∨ labels.1 ∈ Surface.listedMethods) ∧
      labels.2.1.IsLegal ∧ labels.2.2 ∈ Surface.routeLabels := by
  obtain ⟨σ, answer, s, history, hfrom, hlegal, e, he, hl⟩ := h
  obtain ⟨a, ha, s', hevent, hasked⟩ := mem_events_serveAll answer he
  obtain ⟨hm, ho, hp, hmethod, hanswer⟩ := counts_of_labels hevent hl
  rw [hmethod]
  have hfree (hfree : g.IsFree (a.request.identified a.freshId)) :
      (a.request.identified a.freshId).method ∈ g.freeMethods arrivals :=
    ⟨a, hfrom a ha, hfree, (a.request.identified_method a.freshId).symm⟩
  rcases hanswer with ⟨e, hr, hrest⟩ | ⟨route, told, hr, htold, hrest⟩
  · rw [hrest]
    exact ⟨Or.inl (hfree ⟨hm, ho, hp, Or.inl ⟨e, hr⟩⟩), (NoRoute.failure e).status_isLegal,
      List.mem_cons_self ..⟩
  · rw [hrest]
    obtain ⟨hmem, -, hallows⟩ := Surface.resolve_ok_inv (hg ▸ hr)
    refine ⟨?_, htold.status_isLegal fun x hx => hlegal x (hasked hx),
      List.mem_cons_of_mem _ (List.mem_map_of_mem hmem)⟩
    cases hmethods : route.methods with
    | any => exact Or.inl (hfree ⟨hm, ho, hp, Or.inr ⟨route, hr, hmethods⟩⟩)
    | only methods =>
      rw [hmethods] at hallows
      refine Or.inr (List.mem_flatMap.mpr ⟨route, hmem, ?_⟩)
      rw [hmethods]
      exact List.contains_iff_mem.mp hallows

/-- Nobody takes a connection. -/
def refusing (s : Unit) (_ : Call) : Outcome × Unit := (.refused 0, s)

theorem handle_of_error {e : NoRoute}
    (hr : g.routes.resolve r.method r.target.path = .error e) :
    g.handle r client = .note (.request r.method (NoRoute.failure e).status "none")
      (.done (NoRoute.failure e).response) := by
  unfold handle
  rw [hr]
  rfl

theorem handle_of_open (hr : g.routes.resolve r.method r.target.path = .ok route)
    (ha : route.requiresAuth = false) (ht : route.transform = .keep) :
    g.handle r client =
      .pause 0 (.ask (g.onwardCall route r (r.headers.first? .requestId) client) fun o =>
        let told := responseOf (g.onwardResult route r (r.headers.first? .requestId) client o)
        .note (.request r.method told.status route.name) (.done (told.withCookies []))) := by
  have htime : route.transform.readTime r = 0 := by rw [ht]; rfl
  have hs : route.transform.apply none g.bodyLimit r = .ok r := by rw [ht]; rfl
  have hd : g.dispatch route r (r.headers.first? .requestId) client =
      (g.deliver route none r (r.headers.first? .requestId) client).bind fun result =>
        .done (result, []) := if_neg (by simp [ha])
  unfold handle
  rw [hr]
  dsimp only
  rw [hd, deliver_of_ok hs, htime]
  rfl

theorem events_handle_of_open (hr : g.routes.resolve r.method r.target.path = .ok route)
    (ha : route.requiresAuth = false) (ht : route.transform = .keep) (budget : Nat)
    (late : Response) :
    (((g.handle r client).within budget late).run refusing ()).events =
      [.request r.method (responseOf (g.onwardResult route r (r.headers.first? .requestId) client
        (.refused 0))).status route.name] := by
  rw [handle_of_open hr ha ht]
  simp [Exchange.within, Exchange.run, Exchange.hearing, Program.run, refusing, Call.hears,
    Outcome.wait]

/-- A free request is counted with its method, even if nobody can be talked to. -/
theorem exists_labels_of_isFree (hg : g.routes = surface) {a : Arrival}
    (hfree : g.IsFree (a.request.identified a.freshId)) :
    ∃ e ∈ ((g.serve a).run refusing ()).events, ∃ labels,
      e.labels? = some labels ∧ labels.1 = a.request.method := by
  obtain ⟨hm, ho, hp, hroute⟩ := hfree
  rw [← a.request.identified_method a.freshId, run_serve]
  unfold timed limited
  dsimp only
  rw [if_neg hm, if_neg (by simp [ho]), if_neg hp]
  rcases hroute with ⟨e, hr⟩ | ⟨route, hr, hany⟩
  · rw [handle_of_error (r := (a.request.identified a.freshId).withCappedBody g.bodyLimit) hr]
    exact ⟨_, List.mem_cons_self .., (_, _, _), rfl, rfl⟩
  · obtain ⟨hopen, hkeep⟩ := Surface.open_of_any route (Surface.resolve_ok_inv (hg ▸ hr)).1 hany
    rw [events_handle_of_open (r := (a.request.identified a.freshId).withCappedBody g.bodyLimit) hr
      hopen hkeep]
    exact ⟨_, List.mem_singleton_self _, (_, _, _), rfl, rfl⟩

theorem freeMethods_subset (hg : g.routes = surface) (arrivals : Set Arrival) :
    g.freeMethods arrivals ⊆ Prod.fst '' g.creates arrivals := by
  rintro m ⟨a, ha, hfree, rfl⟩
  obtain ⟨e, he, labels, hl, hmethod⟩ := exists_labels_of_isFree hg hfree
  refine ⟨labels, ⟨Unit, refusing, (), [a], by simpa using ha, fun x hx _ _ hreply => ?_, e, ?_,
    hl⟩, hmethod⟩
  · obtain ⟨_, hanswer⟩ := answer_of_mem_asked hx
    rw [hreply] at hanswer
    cases hanswer
  · rw [run_serveAll_cons]
    exact List.mem_append_left _ he

/--
The series that requests are counted in are as many as the methods of those that no list of methods
speaks for: finitely many just where these are. Their status is one that a response can have, their
route one of the table or none, and any other method is one that the table lists.
-/
theorem creates_finite_iff (hg : g.routes = surface) (arrivals : Set Arrival) :
    ((g.creates arrivals).Finite ↔ (g.freeMethods arrivals).Finite) ∧
      ∀ labels ∈ g.creates arrivals,
        (labels.1 ∈ g.freeMethods arrivals ∨ labels.1 ∈ Surface.listedMethods) ∧
          labels.2.1.IsLegal ∧ labels.2.2 ∈ Surface.routeLabels := by
  refine ⟨⟨fun h => ?_, fun h => ?_⟩, fun labels hl => bounded_of_creates hg hl⟩
  · exact (h.image Prod.fst).subset (freeMethods_subset hg arrivals)
  · have hmethods := h.union Surface.listedMethods.finite_toSet
    have hrest := Status.finite_isLegal.prod Surface.routeLabels.finite_toSet
    exact (hmethods.prod hrest).subset fun labels hl => bounded_of_creates hg hl

def knownMethods : List Method :=
  [.get, .post, .put, .delete, .head, .options, .connect, .patch]

/-- As long as clients keep to the known methods, there are finitely many series. -/
theorem creates_finite_known :
    (sample 60000).routes = surface ∧
      ((sample 60000).creates {a | a.request.method ∈ knownMethods}).Finite := by
  refine ⟨Surface.eq_ordered.symm, ?_⟩
  refine (creates_finite_iff Surface.eq_ordered.symm _).1.mpr ?_
  refine knownMethods.finite_toSet.subset ?_
  rintro m ⟨a, ha, -, rfl⟩
  exact ha

/-- A method that nobody knows, as long as one likes. -/
def inventedMethod (n : Nat) : Method := ⟨String.ofList (List.replicate (n + 1) 'X')⟩

def inventiveArrival (n : Nat) : Arrival :=
  let a := sampleArrival "/nowhere"
  { a with request.method := inventedMethod n }

theorem inventedMethod_injective : Function.Injective inventedMethod := by
  intro n m h
  have htoken := congrArg (fun x : Method => x.token.toList.length) h
  simpa [inventedMethod] using htoken

theorem ofText?_inventedMethod (n : Nat) :
    Method.ofText? (inventedMethod n).token = some (inventedMethod n) := by
  have htoken : (inventedMethod n).token.toList = 'X' :: List.replicate n 'X' := by
    simp [inventedMethod, List.replicate_succ]
  have hchars : (inventedMethod n).token.toList.all isTokenChar = true := by
    rw [htoken, List.all_eq_true]
    intro c hc
    obtain rfl : c = 'X' := (List.mem_cons.mp hc).elim id List.eq_of_mem_replicate
    decide
  have hne : (inventedMethod n).token.isEmpty = false := by
    rw [← Bool.not_eq_true, String.isEmpty_iff]
    intro h
    rw [h] at htoken
    cases htoken
  unfold Method.ofText?
  rw [hchars, hne]
  rfl

theorem inventedMethod_ne_options (n : Nat) : inventedMethod n ≠ .options := by
  intro h
  have hfirst : (inventedMethod n).token.toList.head? = Method.options.token.toList.head? := by
    rw [h]
  simp [inventedMethod, Method.options, List.replicate_succ] at hfirst

/-- Each of these is counted in a series of its own, so that no finite set holds all series. -/
theorem series_unbounded :
    ¬∃ S : Set Labels, S.Finite ∧ ∀ history : List Arrival,
      (∀ a ∈ history, Method.ofText? a.request.method.token = some a.request.method) →
      ∀ e ∈ (((setUp {} usualDestinations).serveAll history).run refusing ()).events,
        ∀ labels, e.labels? = some labels → labels ∈ S := by
  rintro ⟨S, hfinite, hbound⟩
  have hmem (n : Nat) : inventedMethod n ∈ Prod.fst '' S := by
    have hfree : IsFree (setUp {} usualDestinations)
        ((inventiveArrival n).request.identified (inventiveArrival n).freshId) := by
      have hpath : ((inventiveArrival n).request.identified
        (inventiveArrival n).freshId).target.path = "/nowhere" := rfl
      refine ⟨inventedMethod_ne_options n, by rfl, by rw [hpath]; decide, Or.inl ⟨.path, ?_⟩⟩
      refine RouteTable.resolve_path_iff.mpr ?_
      rw [setUp_eq, hpath]
      decide
    obtain ⟨e, he, labels, hl, hmethod⟩ := exists_labels_of_isFree rfl hfree
    refine ⟨labels, hbound [inventiveArrival n] ?_ e ?_ labels hl, hmethod⟩
    · intro a ha
      obtain rfl := List.mem_singleton.mp ha
      exact ofText?_inventedMethod n
    · rw [run_serveAll_cons]
      exact List.mem_append_left _ he
  exact Set.infinite_of_injective_forall_mem inventedMethod_injective hmem (hfinite.image _)

end Gateway
end Gatehouse
