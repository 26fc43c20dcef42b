import Gatehouse.Proofs.Settling

namespace Gatehouse

open Program

theorem outcomes_of_timeless {qs rs : List (Call × Outcome)} (h : timeless qs = timeless rs) :
    qs.map (·.2) = rs.map (·.2) := by
  have hmap (xs : List (Call × Outcome)) : (timeless xs).map (·.2) = xs.map (·.2) := by
    unfold timeless
    rw [List.map_map]
    rfl
  rw [← hmap, h, hmap]

/-- What holds of all that came of some calls does so whatever time was given to them. -/
theorem forall_outcomes_of_timeless (P : Outcome → Prop) {qs rs : List (Call × Outcome)}
    (h : timeless qs = timeless rs) (hp : ∀ x ∈ qs, P x.2) : ∀ x ∈ rs, P x.2 := by
  intro x hx
  have hmem : x.2 ∈ qs.map (·.2) := outcomes_of_timeless h ▸ List.mem_map_of_mem hx
  obtain ⟨y, hy, hyx⟩ := List.mem_map.mp hmem
  exact hyx ▸ hp y hy

namespace Gateway

variable {g : Gateway} {route : Route} {r : Request} {id : Option HeaderValue}
  {client : Option IpAddress} {qs : List (Call × Outcome)}

theorem Answers.rule {response : Response} (ha : Answers g r response) (hg : g.routes = surface)
    (hm : r.method ≠ .options) (hp : r.target.path ≠ healthPath) :
    ∃ f, firstApplicable (r.entryRules g.bodyLimit) = some f ∧ response = f.response := by
  cases ha with
  | preflight h => exact absurd h hm
  | oversized _ ho => exact ⟨_, Request.entryRules_of_oversized ho, rfl⟩
  | health _ _ h => exact absurd h hp
  | unrouted _ ho _ he => exact ⟨_, Request.entryRules_of_unrouted ho (hg ▸ he), rfl⟩

/-- However a request comes to its end, where nobody keeps silent the rules settle it. -/
theorem Completes.settles {d : Nat} {response : Response}
    (hcompletes : Completes g r client qs d response) (hg : g.routes = surface)
    (hm : r.method ≠ .options) (hp : r.target.path ≠ healthPath) (hw : r.IsWhole g.bodyLimit)
    (hs : ∀ x ∈ qs, x.2 ≠ .silent) :
    let replies := r.replies (qs.map (·.2))
    ∃ result, r.Settles (r.rules g.bodyLimit replies) replies result ∧
      response = (responseOf result).withCookies replies.cookies := by
  cases hcompletes with
  | atOnce ha =>
    obtain ⟨f, hrule, rfl⟩ := ha.rule hg hm hp
    refine ⟨.error f, Request.settles_of_some hrule, ?_⟩
    have hnone : (r.replies []).cookies = [] := by
      unfold Request.replies
      rw [Replies.ofOutcomes_nil]
      rfl
    rw [List.map_nil, hnone]
    rfl
  | followed hr hd =>
    obtain ⟨hsettles, hcookies⟩ := hd.settles hg hr hw hs
    exact ⟨_, hsettles, by rw [← hcookies]⟩

/--
The first rule that applies decides on the answer to a request that is not cut off, and where none
applies it is the reply of the route's target. Either way the cookies of a renewed session come with
it.
-/
theorem serve_precedence {σ : Type} (g : Gateway) (hg : g.routes = surface) (a : Arrival)
    (answer : σ → Call → Outcome × σ) (s : σ) (hm : a.request.method ≠ .options)
    (hp : a.request.target.path ≠ healthPath) (hw : a.request.IsWhole g.bodyLimit)
    (hs : ∀ x ∈ ((g.serve a).run answer s).asked, x.2 ≠ .silent)
    (hcut : g.isCutOff a answer s = false) :
    let r := a.request.identified a.freshId
    let run := (g.serve a).run answer s
    let replies := r.replies (run.asked.map (·.2))
    match firstApplicable (r.rules g.bodyLimit replies) with
    | some f => run.result = g.finish r (f.response.withCookies replies.cookies)
    | none => ∃ reply, replies.response? = some reply ∧
        run.result = g.finish r ((r.relayed reply).withCookies replies.cookies) := by
  intro r run replies
  rcases completes_or_isCutOff g a answer s with
    ⟨qs, d, response, heq, hcompletes, hresult⟩ | ⟨hlate, -⟩
  swap
  · cases hlate.symm.trans hcut
  have hm : r.method ≠ .options := by simpa [r] using hm
  have hp : r.target.path ≠ healthPath := by simpa [r] using hp
  have houtcomes : run.asked.map (·.2) = qs.map (·.2) := outcomes_of_timeless heq
  have hquick : ∀ x ∈ qs, x.2 ≠ .silent := forall_outcomes_of_timeless (· ≠ .silent) heq hs
  obtain ⟨result, hsettles, rfl⟩ := hcompletes.settles hg hm hp
    (hw.identified a.freshId) hquick
  rw [← houtcomes] at hsettles hresult
  unfold Request.Settles at hsettles
  cases hfirst : firstApplicable (r.rules g.bodyLimit replies) with
  | some f =>
    rw [hfirst] at hsettles
    have hfailed : result = .error f := hsettles
    rw [hfailed] at hresult
    exact hresult
  | none =>
    rw [hfirst] at hsettles
    obtain ⟨reply, hreply, hanswered⟩ := hsettles
    rw [hanswered] at hresult
    exact ⟨reply, hreply, hresult⟩

/-- A request that wants to make a tenant of nothing. -/
def samplePost : Arrival :=
  let a := sampleArrival tenantsPath
  { a with request := { a.request with method := .post } }

/-- The session is renewed, and its owner cannot be asked for. -/
def samplePostScript : List Outcome :=
  [.reply ⟨.unauthorized, .empty, .empty⟩ 3000, .reply renewing 2000, .refused 1]

theorem samplePost_isWhole : samplePost.request.IsWhole (sample 60000).bodyLimit where
  read := ⟨tenantsPath, by rfl⟩
  ends := rfl
  declared n hn := by cases hn
  streamed _ _ _ := by decide

/-- What is no JSON goes before an owner that is not found, and the new session is kept. -/
theorem serve_precedence_payload :
    (((sample 60000).serve samplePost).run Outcome.scripted samplePostScript).result =
      (sample 60000).finish samplePost.request
        (Failure.invalidPayload.response.withCookies (renewing.headers.all .setCookie)) := by
  have hroute : samplePost.request.route? = some surfaceRoutes[1] := by
    unfold Request.route?
    rw [Surface.eq_ordered]
    rfl
  have hquick : ∀ x ∈ (((sample 60000).serve samplePost).run Outcome.scripted
      samplePostScript).asked, x.2 ≠ .silent := by decide +kernel
  have hcut : (sample 60000).isCutOff samplePost Outcome.scripted samplePostScript = false := by
    decide +kernel
  have hrule : firstApplicable (samplePost.request.rules (sample 60000).bodyLimit
      (samplePost.request.replies ((((sample 60000).serve samplePost).run Outcome.scripted
        samplePostScript).asked.map (·.2)))) = some .invalidPayload := by
    unfold Request.rules Request.replies
    rw [hroute]
    decide +kernel
  have hcookies : (samplePost.request.replies ((((sample 60000).serve samplePost).run
      Outcome.scripted samplePostScript).asked.map (·.2))).cookies =
        renewing.headers.all .setCookie := by
    unfold Request.replies
    rw [hroute]
    decide +kernel
  have hid : samplePost.request.identified samplePost.freshId = samplePost.request := by rfl
  have hresult := serve_precedence (sample 60000) Surface.eq_ordered.symm samplePost
    Outcome.scripted samplePostScript (by decide) (by decide) samplePost_isWhole
    hquick hcut
  dsimp only at hresult
  rw [hid, hrule, hcookies] at hresult
  exact hresult

end Gateway

end Gatehouse
