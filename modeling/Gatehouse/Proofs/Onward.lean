import Gatehouse.Proofs.Fields
import Gatehouse.Proofs.Gate
import Gatehouse.Proofs.Rewriting
import Gatehouse.Proofs.Startup

namespace Gatehouse

open Program

theorem replaceStart_slash {old new path : String} (hn : new.toList.head? = some '/')
    (hp : path.toList.head? = some '/') :
    (replaceStart old new path).toList.head? = some '/' := by
  unfold replaceStart
  split
  · rw [String.toList_ofList, List.head?_append, hn]
    rfl
  · exact hp

namespace RequestTarget

variable {t t' : RequestTarget} {text path : String}

theorem ofText_forwarded (ht : ofText text = .ok t) (hbelow : ['/', 'a'] <+: t.path.toList) :
    PathAndQuery.ofText t.forwarded.text = .ok t.forwarded := by
  have hne : t.path ≠ "" := fun he => absurd (he ▸ hbelow) (by decide)
  obtain ⟨rest, hrest⟩ := hbelow
  obtain ⟨hlegal, hroot | hsize⟩ := place_of_ofText ht (pathAndQuery?_of_path hne)
  · simp [show t.path = "/" from hroot] at hrest
  · rw [forwarded_of_path hne]
    exact PathAndQuery.ofText_text hlegal (by simp [← hrest]) hsize

theorem ofText_forwarded_of_withPath (hs : path.toList.head? = some '/')
    (h : t.withPath path = .ok t') :
    PathAndQuery.ofText t'.forwarded.text = .ok t'.forwarded := by
  refine PathAndQuery.ofText_text_of_ofText ?_ (withPath_ok_inv h)
  rw [PathAndQuery.text, String.toList_ofList, PathAndQuery.chars, List.head?_append, hs]
  rfl

end RequestTarget

namespace Surface

theorem slash_of_replaceStart {route : Route} (hr : route ∈ surfaceRoutes) {old new : String}
    (ht : route.transform = .replaceStart old new) : new.toList.head? = some '/' :=
  (shortens_of_mem (mem_replacedStarts hr ht)).slash

theorem slash_of_scopedPath? {route : Route} (hr : route ∈ surfaceRoutes)
    {field template path : String} (ht : route.transform = .assertIdentity field (some template))
    {owner : Identity} (hp : owner.scopedPath? template = some path) :
    path.toList.head? = some '/' := by
  have htemplate : template = "/api/user/\x7bidentity\x7d/tenants" := by
    simp only [surfaceRoutes, List.mem_cons, List.not_mem_nil, or_false] at hr
    rcases hr with rfl | rfl | rfl | rfl | rfl | rfl | rfl <;> cases ht
    rfl
  rw [htemplate, Identity.scopedPath?_eq] at hp
  split at hp <;> cases hp
  rw [Identity.toList_collection, List.head?_append]
  rfl

/-- What a route of the public surface leaves of a target that was read is read again as it is. -/
theorem ofText_forwarded {text : String} {r outbound : Request} {route : Route}
    {identity : Option Identity} {limit : Nat} (ht : RequestTarget.ofText text = .ok r.target)
    (hr : surface.resolve r.method r.target.path = .ok route)
    (hs : route.transform.apply identity limit r = .ok outbound) :
    PathAndQuery.ofText outbound.target.forwarded.text = .ok outbound.target.forwarded := by
  obtain ⟨hmem, haccepts, _⟩ := resolve_ok_inv hr
  have hbelow := prefix_of_accepts hmem haccepts
  have hslash : r.target.path.toList.head? = some '/' := by
    obtain ⟨rest, hrest⟩ := hbelow
    simp [← hrest]
  rcases Transform.apply_target hs with he | ⟨old, new, hnew, hw⟩ |
    ⟨owner, field, template, path, hscoped, hpath, hw⟩
  · rw [he]
    exact RequestTarget.ofText_forwarded ht hbelow
  · exact RequestTarget.ofText_forwarded_of_withPath
      (replaceStart_slash (slash_of_replaceStart hmem hnew) hslash) hw
  · exact RequestTarget.ofText_forwarded_of_withPath (slash_of_scopedPath? hmem hscoped hpath) hw

end Surface

/-- A text with a leading slash that is read for a destination names it, up to its fragment. -/
theorem Destination.targetOfText_ok_inv {d : Destination} {text : String} {t : RequestTarget}
    (hs : text.toList.head? = some '/') (h : d.targetOfText text = .ok t) :
    ∃ place, t = .absolute d.scheme d.authority place ∧
      place.chars = text.toList.takeWhile (· != '#') := by
  unfold targetOfText at h
  cases hread : PathAndQuery.ofText text with
  | error fault =>
    rw [hread] at h
    cases h
  | ok place =>
    rw [hread] at h
    cases Except.ok.inj h
    obtain ⟨-, hscan⟩ := PathAndQuery.ofText_inv hs hread
    exact ⟨place, rfl, (PathAndQuery.scan_ok_inv hs hscan).2⟩

theorem Headers.all_sentOn_host (h : Headers) (client : Option IpAddress) :
    (h.sentOn client).all .host = [] := by
  rw [sentOn, all_withForwardedFor_of_ne _ (by decide), all_remove_self]

namespace Gateway

variable {c : Config} {ds : Destinations} {g : Gateway} {route : Route}

theorem all_host_onwardCall (g : Gateway) (route : Route) (outbound : Request)
    (id : Option HeaderValue) (client : Option IpAddress) :
    (g.onwardCall route outbound id client).headers.all .host = [] := by
  by_cases hm : route.target = .monitoring
  · rw [onwardCall_of_monitoring hm]
    exact Headers.all_withRequestId_of_ne .empty (by decide) id
  · rw [onwardCall_of_ne hm]
    exact Headers.all_sentOn_host outbound.headers client

theorem target_onwardCall (c : Config) (ds : Destinations) (route : Route) (outbound : Request)
    (id : Option HeaderValue) (client : Option IpAddress) :
    ((setUp c ds).onwardCall route outbound id client).target =
      (ds.get route.target).target outbound.target.forwarded := by
  by_cases hm : route.target = .monitoring
  · rw [onwardCall_of_monitoring hm, hm]
    rfl
  · rw [onwardCall_of_ne hm]
    rfl

variable {σ : Type} {a : Arrival} (answer : σ → Call → Outcome × σ) (s : σ)

/-- Whether, before a call was made, the auth service was asked for the owner and answered so. -/
def NamesOwner (g : Gateway) (r : Request) (asked : List (Call × Outcome)) (x : Call × Outcome)
    (owner : Option Identity) : Prop :=
  ∃ t c y before after, r.headers.sessionToken? = some t ∧
    g.auth.Asks (.me t (r.headers.first? .requestId)) c ∧ asked = before ++ x :: after ∧
    y ∈ before ∧ y.1.timeless = c.timeless ∧ y.2.owner? = owner

theorem NamesOwner.exists_mem {asked : List (Call × Outcome)} {r : Request} {x : Call × Outcome}
    {owner : Option Identity} (h : g.NamesOwner r asked x owner) :
    ∃ y ∈ asked, y.2.owner? = owner := by
  obtain ⟨t, c, y, before, after, -, -, rfl, hy, -, howner⟩ := h
  exact ⟨y, List.mem_append_left _ hy, howner⟩

/-- A call for a route's target is for what the transform made, for whomever it was told about. -/
theorem asked_onward (htarget : route.requiresAuth = true → route.target ≠ .auth)
    (hr : Reaches g (a.request.identified a.freshId) route) {x : Call × Outcome}
    (hx : x ∈ ((g.serve a).run answer s).asked) (hwho : x.1.collaborator = route.target) :
    let r := a.request.identified a.freshId
    ∃ identity outbound,
      (identity = none ∨ g.NamesOwner r ((g.serve a).run answer s).asked x identity) ∧
      route.transform.apply identity g.bodyLimit (r.withCappedBody g.bodyLimit) = .ok outbound ∧
      (g.onwardCall route outbound (r.headers.first? .requestId) a.client).timeless =
        x.1.timeless := by
  obtain ⟨course, d, answered, hd, hperforms⟩ := performs_dispatch answer s hr
  obtain ⟨y, hy, hyx, _⟩ := hperforms.exists_call hx
  have hywho : y.1.collaborator = route.target := (Call.of_timeless_eq hyx).1.trans hwho
  have hasked (hguard : route.requiresAuth = true) {z : Call × Outcome}
      (hz : ∃ q, g.auth.Asks q z.1) : z.1.collaborator ≠ route.target := by
    obtain ⟨q, hq⟩ := hz
    rw [hq.collaborator]
    exact (htarget hguard).symm
  cases hd with
  | unguarded _ hdelivers =>
    obtain ⟨outbound, hmade, hcall⟩ := hdelivers.made y hy
    exact ⟨none, outbound, Or.inl rfl, hmade, hcall ▸ hyx⟩
  | noSession => cases hy
  | denied hguard _ hc => exact absurd hywho (hasked hguard (hc.asks y hy))
  | @admitted t checks lookup sent _ identity _ _ hguard ht hc hi hdelivers =>
    have hbefore : ∀ z ∈ checks ++ lookup, z.1.collaborator ≠ route.target := by
      intro z hz
      rcases List.mem_append.mp hz with hz | hz
      · exact hasked hguard (hc.asks z hz)
      · exact hasked hguard (hi.asks z hz)
    rw [← List.append_assoc] at hy hperforms
    have hysent : y ∈ sent := by
      rcases List.mem_append.mp hy with hy | hy
      · exact absurd hywho (hbefore y hy)
      · exact hy
    obtain ⟨outbound, hmade, hcall⟩ := hdelivers.made y hysent
    refine ⟨identity, outbound, ?_, hmade, hcall ▸ hyx⟩
    cases hi with
    | needless => exact Or.inl rfl
    | @asked c o hn hme =>
      obtain ⟨before, after, hsplit, hbehind⟩ :=
        hperforms.behind hx fun z hz he => hbefore z hz (he.trans hwho)
      have hmem : (c.timeless, o) ∈ timeless before :=
        hbehind.subset (List.mem_map.mpr ⟨(c, o), by simp, rfl⟩)
      obtain ⟨z, hz, he⟩ := List.mem_map.mp hmem
      obtain ⟨hcall, houtcome⟩ := Prod.mk.inj he
      exact Or.inr ⟨t, c, z, before, after, ht, hme, hsplit, hz, hcall, houtcome ▸ rfl⟩

/-- Such a call names the destination of the target, and its place as it can be read again. -/
theorem asked_at_destination (c : Config) (ds : Destinations)
    (hr : Reaches (setUp c ds) (a.request.identified a.freshId) route) {x : Call × Outcome}
    (hx : x ∈ (((setUp c ds).serve a).run answer s).asked)
    (hwho : x.1.collaborator = route.target) :
    x.1.headers.all .host = [] ∧
      ∃ identity outbound,
        (identity = none ∨
          ∃ y ∈ (((setUp c ds).serve a).run answer s).asked, y.2.owner? = identity) ∧
        route.transform.apply identity (setUp c ds).bodyLimit
          ((a.request.identified a.freshId).withCappedBody (setUp c ds).bodyLimit) =
            .ok outbound ∧
        x.1.target = (ds.get route.target).target outbound.target.forwarded ∧
        ∀ text, RequestTarget.ofText text = .ok a.request.target →
          (ds.get route.target).targetOfText outbound.target.forwarded.text = .ok x.1.target := by
  have hmem := (Surface.resolve_ok_inv hr.found).1
  have htarget (hguard : route.requiresAuth = true) : route.target ≠ .auth := by
    rcases (Surface.guarded_iff route hmem).mp hguard with h | h <;> simp [h]
  obtain ⟨identity, outbound, howner, hmade, hcall⟩ := asked_onward answer s htarget hr hx hwho
  obtain ⟨-, hat, hheaders⟩ := Call.of_timeless_eq hcall
  rw [target_onwardCall] at hat
  refine ⟨?_, identity, outbound, howner.imp_right NamesOwner.exists_mem, hmade, hat.symm,
    fun text htext => ?_⟩
  · rw [← hheaders]
    exact all_host_onwardCall ..
  · have hread : RequestTarget.ofText text =
        .ok ((a.request.identified a.freshId).withCappedBody (setUp c ds).bodyLimit).target := by
      rw [htext]
      exact congrArg Except.ok (a.request.identified_target a.freshId).symm
    unfold Destination.targetOfText
    rw [Surface.ofText_forwarded hread hr.found hmade, ← hat]
    rfl

/--
Where a request is sent on to is settled by the settings. Its call brings no host of the client's,
names the destination of its route's target and asks for the place that the transform left, which
its text is read as again. So the calls of two requests for one target name one server. And any text
with a leading slash names, where it is read, the same server and what comes before its fragment.
-/
theorem serve_onward {σ τ : Type} {c : Config} {g : Gateway} (hg : ofConfig c = .ok g) :
    ∃ ds, Destinations.ofBases c.bases = .ok ds ∧
      (∀ (a : Arrival) (answer : σ → Call → Outcome × σ) (s : σ) (route : Route),
        let r := a.request.identified a.freshId
        let run := (g.serve a).run answer s
        Reaches g r route → ∀ x ∈ run.asked, x.1.collaborator = route.target →
          x.1.headers.all .host = [] ∧
          ∃ identity outbound,
            (identity = none ∨ ∃ y ∈ run.asked, y.2.owner? = identity) ∧
            route.transform.apply identity g.bodyLimit (r.withCappedBody g.bodyLimit) =
              .ok outbound ∧
            x.1.target = (ds.get route.target).target outbound.target.forwarded ∧
            ∀ text, RequestTarget.ofText text = .ok a.request.target →
              (ds.get route.target).targetOfText outbound.target.forwarded.text =
                .ok x.1.target) ∧
      (∀ (a b : Arrival) (answer : σ → Call → Outcome × σ) (other : τ → Call → Outcome × τ)
        (s : σ) (t : τ) (route route' : Route),
        Reaches g (a.request.identified a.freshId) route →
        Reaches g (b.request.identified b.freshId) route' → route.target = route'.target →
        ∀ x ∈ ((g.serve a).run answer s).asked, x.1.collaborator = route.target →
        ∀ y ∈ ((g.serve b).run other t).asked, y.1.collaborator = route'.target →
          ∃ scheme authority place place', x.1.target = .absolute scheme authority place ∧
            y.1.target = .absolute scheme authority place') ∧
      ∀ (d : Destination) (text : String) (t : RequestTarget), text.toList.head? = some '/' →
        d.targetOfText text = .ok t → ∃ place, t = .absolute d.scheme d.authority place ∧
          place.chars = text.toList.takeWhile (· != '#') := by
  obtain ⟨-, ds, hds, rfl⟩ := ofConfig_ok_inv hg
  refine ⟨ds, hds,
    fun a answer s route hr x hx hwho => asked_at_destination answer s c ds hr hx hwho,
    fun a b answer other s t route route' hr hr' htarget x hx hwho y hy hwho' => ?_,
    fun d text t hs ht => Destination.targetOfText_ok_inv hs ht⟩
  obtain ⟨-, _, outbound, -, -, hat, -⟩ := asked_at_destination answer s c ds hr hx hwho
  obtain ⟨-, _, outbound', -, -, hat', -⟩ := asked_at_destination other t c ds hr' hy hwho'
  rw [← htarget] at hat'
  exact ⟨_, _, _, _, hat, hat'⟩

/-- A request that names a server of its own, in its target and in a field. -/
def foreignArrival : Arrival :=
  let a := sampleArrival "/auth/login"
  { a with
    request.target := .absolute "http" "evil.example" ⟨"/auth/login", some "next=//evil.example"⟩
    request.headers := a.request.headers.add .host ⟨octetsOf "evil.example", by decide⟩ }

theorem serve_onward_foreign :
    ofConfig {} = .ok (setUp {} usualDestinations) ∧
      let run := ((setUp {} usualDestinations).serve foreignArrival).run Outcome.scripted []
      run.asked.map (·.1.collaborator) = [.auth] ∧ ∀ x ∈ run.asked,
        x.1.headers.all .host = [] ∧ x.1.target = .absolute "http" "localhost:8000"
          ⟨"/auth/login", some "next=//evil.example"⟩ := by
  refine ⟨ofConfig_empty, ?_⟩
  intro run
  have hwho : run.asked.map (·.1.collaborator) = [.auth] := by
    unfold run
    rw [setUp_eq]
    decide +kernel
  refine ⟨hwho, fun x hx => ?_⟩
  have hauth : x.1.collaborator = .auth := by
    have hmem := List.mem_map_of_mem (f := fun y : Call × Outcome => y.1.collaborator) hx
    rw [hwho] at hmem
    exact List.mem_singleton.mp hmem
  have hreaches : Reaches (setUp {} usualDestinations)
      (foreignArrival.request.identified foreignArrival.freshId) surfaceRoutes[0] := by
    rw [setUp_eq]
    exact ⟨by decide, by decide +kernel, by decide, by rfl⟩
  obtain ⟨ds, hds, hcalls, -⟩ := @serve_onward (List Outcome) Unit _ _ ofConfig_empty
  obtain ⟨hhost, _, outbound, -, hmade, hat, -⟩ :=
    hcalls foreignArrival Outcome.scripted [] surfaceRoutes[0] hreaches x hx hauth
  have husual : Destinations.ofBases ({} : Config).bases = .ok usualDestinations := by
    decide +kernel
  obtain rfl := Except.ok.inj (hds.symm.trans husual)
  obtain rfl := Except.ok.inj hmade
  exact ⟨hhost, hat⟩

end Gateway

end Gatehouse
