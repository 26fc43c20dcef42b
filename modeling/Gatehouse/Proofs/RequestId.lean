import Gatehouse.Proofs.Fields
import Gatehouse.Proofs.Gate
import Gatehouse.Proofs.Grant
import Gatehouse.Proofs.Stripping

namespace Gatehouse

open Program

namespace Headers

variable {h : Headers} {client : Option IpAddress}

theorem requestId_sentOn_of_lists (hl : h.ListsAsOwn .requestId) :
    (h.sentOn client).all .requestId = [] := by
  have hmem := mem_perConnection_iff.mpr ⟨hl, by decide⟩
  rw [all_sentOn h (by decide) (by decide), if_pos (List.mem_append_left _ hmem)]

theorem requestId_sentOn (hl : ¬h.ListsAsOwn .requestId) :
    (h.sentOn client).all .requestId = h.all .requestId := by
  have hnot : HeaderName.requestId ∉ h.perConnection ++ hopByHop := by
    rw [List.mem_append, mem_perConnection_iff]
    rintro (⟨hmem, -⟩ | hmem)
    · exact hl hmem
    · exact absurd hmem (by decide)
  rw [all_sentOn h (by decide) (by decide), if_neg hnot]

theorem all_withRequestId (h : Headers) (hn : h.all .requestId = []) (id : Option HeaderValue) :
    (h.withRequestId id).all .requestId = id.toList := by
  cases id with
  | none => exact hn
  | some v =>
    rw [withRequestId, all_add_self, hn]
    rfl

end Headers

/-- Of the fields, a transform writes none but those that tell of the body. -/
theorem Transform.Yields.all_headers {t : Transform} {identity : Option Identity} {limit : Nat}
    {r outbound : Request} (hy : t.Yields identity limit r outbound) {name : HeaderName}
    (hlength : HeaderName.contentLength ≠ name) (hcoding : HeaderName.transferEncoding ≠ name) :
    outbound.headers.all name = r.headers.all name := by
  cases hy with
  | kept | moved | owned | unasserted => rfl
  | asserted => rw [Headers.all_remove_of_ne _ hcoding, Headers.all_set_of_ne _ hlength]

/-- The id of an identified request: the first that it brought, or else the fresh one. -/
theorem Request.requestId_identified (r : Request) (fresh : HeaderValue) :
    (r.identified fresh).headers.first? .requestId =
      some ((r.headers.first? .requestId).getD fresh) := by
  unfold identified Headers.first?
  cases hall : r.headers.all .requestId with
  | nil =>
    rw [if_neg (by simp [Headers.contains_iff, hall]), Headers.all_add_self, hall]
    rfl
  | cons id more =>
    rw [if_pos (by simp [Headers.contains_iff, hall]), hall]
    rfl

namespace Call

/-- What a call carries of the ids of a request with these fields, whose first id this is. -/
structure IsIdentified (c : Call) (h : Headers) (id : HeaderValue) : Prop where
  asked : c.isStreamed = false → c.headers.all .requestId = [id]
  sent : c.isStreamed = true → ¬h.ListsAsOwn .requestId →
    c.headers.all .requestId = h.all .requestId
  dropped : c.isStreamed = true → h.ListsAsOwn .requestId → c.headers.all .requestId = []

namespace IsIdentified

variable {c : Call} {h : Headers} {id : HeaderValue}

theorem of_asked (hc : c.isStreamed = false) (hid : c.headers.all .requestId = [id]) :
    c.IsIdentified h id :=
  ⟨fun _ => hid, fun hs => by simp [hc] at hs, fun hs => by simp [hc] at hs⟩

theorem of_sent (hc : c.isStreamed = true)
    (hsent : ¬h.ListsAsOwn .requestId → c.headers.all .requestId = h.all .requestId)
    (hdropped : h.ListsAsOwn .requestId → c.headers.all .requestId = []) : c.IsIdentified h id :=
  ⟨fun hs => by simp [hc] at hs, fun _ => hsent, fun _ => hdropped⟩

theorem congr {d : Call} (hi : c.IsIdentified h id) (hd : c.timeless = d.timeless) :
    d.IsIdentified h id := by
  have hstreamed := Call.isStreamed_of_timeless_eq hd
  obtain ⟨-, -, hheaders⟩ := Call.of_timeless_eq hd
  obtain ⟨hasked, hsent, hdropped⟩ := hi
  rw [hstreamed, hheaders] at hasked hsent hdropped
  exact ⟨hasked, hsent, hdropped⟩

theorem first?_iff (hi : c.IsIdentified h id) (hfirst : h.first? .requestId = some id) :
    c.headers.first? .requestId = some id ↔
      ¬(c.isStreamed = true ∧ h.ListsAsOwn .requestId) := by
  unfold Headers.first? at hfirst ⊢
  cases hs : c.isStreamed with
  | false => simp [hi.asked hs]
  | true =>
    by_cases hl : h.ListsAsOwn .requestId
    · simp [hi.dropped hs hl, hl]
    · rw [hi.sent hs hl, hfirst]
      simp [hl]

end IsIdentified

end Call

theorem AuthClient.Asks.requestId {client : AuthClient} {q : AuthQuestion} {c : Call}
    (hc : client.Asks q c) : c.headers.all .requestId = q.requestId.toList := by
  obtain ⟨cookie, -, rfl⟩ := hc
  refine Headers.all_withRequestId _ ?_ _
  rw [Headers.all_add_of_ne .empty (by decide)]
  rfl

namespace Gateway

variable {g : Gateway} {route : Route} {r : Request} {client : Option IpAddress}

/-- The call that a request is sent on by, or the one to the monitoring service in its place. -/
theorem onwardCall_isIdentified {outbound : Request} {identity : Option Identity} {limit : Nat}
    {v : HeaderValue} (hy : route.transform.Yields identity limit r outbound) :
    (g.onwardCall route outbound (some v) client).IsIdentified r.headers v := by
  by_cases hm : route.target = .monitoring
  · rw [onwardCall_of_monitoring hm]
    exact .of_asked rfl (Headers.all_withRequestId .empty rfl (some v))
  · rw [onwardCall_of_ne hm]
    have hconnection : outbound.headers.all .connection = r.headers.all .connection :=
      hy.all_headers (by decide) (by decide)
    have hids : outbound.headers.all .requestId = r.headers.all .requestId :=
      hy.all_headers (by decide) (by decide)
    have hsent : (g.forwarder.call route.target outbound.target.forwarded outbound
        client).headers = outbound.headers.sentOn client := rfl
    refine .of_sent rfl (fun hl => ?_) fun hl => ?_ <;> rw [hsent]
    · have hlisted : ¬outbound.headers.ListsAsOwn .requestId :=
        mt (Headers.ListsAsOwn.congr hconnection _).mp hl
      exact (Headers.requestId_sentOn hlisted).trans hids
    · exact Headers.requestId_sentOn_of_lists ((Headers.ListsAsOwn.congr hconnection _).mpr hl)

theorem Dispatches.isIdentified {course : List (Call × Outcome)} {d : Nat}
    {answer : Except Failure Response × List HeaderValue} {v : HeaderValue}
    (hd : Dispatches g route r (some v) client course d answer) :
    ∀ x ∈ course, x.1.IsIdentified r.headers v := by
  intro x hx
  rcases hd.made x hx with ⟨-, q, hq, hid⟩ | ⟨identity, outbound, hmade, hcall⟩
  · refine .of_asked hq.isStreamed ?_
    rw [hq.requestId, hid]
    rfl
  · rw [hcall]
    exact onwardCall_isIdentified (Transform.apply_yields hmade)

/--
One id for all calls of a request: the first that it brings, or a fresh one. The questions to the
auth and monitoring services carry it and no other. What is sent on carries the ids that the request
brought, unless its connection fields list the name of the field, and then it carries none.
-/
theorem serve_identified {σ : Type} (g : Gateway) (a : Arrival) (answer : σ → Call → Outcome × σ)
    (s : σ) :
    let r := a.request.identified a.freshId
    let id := (a.request.headers.first? .requestId).getD a.freshId
    r.headers.first? .requestId = some id ∧
      ∀ x ∈ ((g.serve a).run answer s).asked, x.1.IsIdentified r.headers id ∧
        (x.1.headers.first? .requestId = some id ↔
          ¬(x.1.isStreamed = true ∧ r.headers.ListsAsOwn .requestId)) := by
  intro r id
  have hfirst : r.headers.first? .requestId = some id := a.request.requestId_identified a.freshId
  refine ⟨hfirst, fun x hx => ?_⟩
  obtain ⟨route, hr⟩ := reaches_of_asked answer s hx
  obtain ⟨course, d, answered, hd, hperforms⟩ := performs_dispatch answer s hr
  rw [hfirst] at hd
  obtain ⟨y, hy, hyx, -⟩ := hperforms.exists_call hx
  have hidentified : x.1.IsIdentified r.headers id := (hd.isIdentified y hy).congr hyx
  exact ⟨hidentified, hidentified.first?_iff hfirst⟩

/-- A request on an open route that lists its id as a field of its connection only. -/
def secretiveArrival : Arrival :=
  let a := sampleArrival "/auth/login"
  let own : HeaderValue := ⟨octetsOf "close, X-Request-Id", by decide⟩
  { a with request.headers := a.request.headers.add .connection own }

/-- The id of such a request does not reach the service that it is sent on to. -/
theorem id_dropped :
    let r := secretiveArrival.request.identified secretiveArrival.freshId
    let run := ((sample 60000).serve secretiveArrival).run Outcome.scripted []
    r.headers.first? .requestId = some ⟨octetsOf "r1", by decide⟩ ∧
      run.asked.map (·.1.collaborator) = [.auth] ∧
      run.asked.map (·.1.headers.first? .requestId) = [none] := by
  decide +kernel

theorem serve_identified_renewed :
    let run := ((sample 60000).serve (sampleArrival "/api/apikeys")).run Outcome.scripted
      [.reply ⟨.unauthorized, .empty, .empty⟩ 0, .reply ⟨.ok, .empty, .empty⟩ 0]
    run.asked.map (·.1.collaborator) = [.auth, .auth, .backend] ∧
      ∀ x ∈ run.asked, x.1.headers.first? .requestId = some ⟨octetsOf "r1", by decide⟩ := by
  intro run
  refine ⟨by decide +kernel, fun x hx => ?_⟩
  have hfirst : ((sampleArrival "/api/apikeys").request.headers.first? .requestId).getD
      (sampleArrival "/api/apikeys").freshId = ⟨octetsOf "r1", by decide⟩ := by decide +kernel
  obtain ⟨-, hiff⟩ := (serve_identified (sample 60000) (sampleArrival "/api/apikeys")
    Outcome.scripted _).2 x hx
  rw [hfirst] at hiff
  refine hiff.mpr fun ⟨_, v, hv, _⟩ => ?_
  have hnone : ((sampleArrival "/api/apikeys").request.identified
    (sampleArrival "/api/apikeys").freshId).headers.all .connection = [] := by decide +kernel
  rw [hnone] at hv
  cases hv

end Gateway

end Gatehouse
