import Gatehouse.Proofs.Body
import Gatehouse.Proofs.Grant

namespace Gatehouse

open Program

/-- What can become of a request, once these calls were made for it. -/
inductive Told (r : Request) (asked : List (Call × Outcome)) :
    Except Failure Response → Prop where
  | preflight (hm : r.method = .options) : Told r asked (.ok ⟨.noContent, .empty, .empty⟩)
  | healthy (hp : r.target.path = healthPath) (hm : r.method = .get ∨ r.method = .head) :
      Told r asked (.ok healthResponse)
  | failed (f : Failure) : Told r asked (.error f)
  | forwarded {c : Call} {reply : Response} {took : Nat}
      (hlast : asked.getLast? = some (c, .reply reply took)) (hc : c.isStreamed = true) :
      Told r asked (.ok reply.scrubbed)
  | relayed {c : Call} {reply : Response} {took : Nat}
      (hlast : asked.getLast? = some (c, .reply reply took)) (hc : c.isStreamed = false)
      (hm : c.collaborator = .monitoring)
      (hends : reply.body.ending = .complete) :
      Told r asked (.ok (.json reply.status reply.body.bytes))

namespace Told

variable {r : Request} {asked other : List (Call × Outcome)} {told : Except Failure Response}

theorem congr (h : Told r asked told) (ht : timeless asked = timeless other) :
    Told r other told := by
  have hlast {c : Call} {o : Outcome} (hl : asked.getLast? = some (c, o)) :
      ∃ d : Call, other.getLast? = some (d, o) ∧ d.timeless = c.timeless := by
    have hl' : (timeless other).getLast? = some (c.timeless, o) := by
      rw [← ht, timeless, List.getLast?_map, hl]
      rfl
    rw [timeless, List.getLast?_map] at hl'
    obtain ⟨⟨d, o'⟩, hd, he⟩ := Option.map_eq_some_iff.mp hl'
    obtain ⟨hcall, rfl⟩ := Prod.mk.inj he
    exact ⟨d, hd, hcall⟩
  cases h with
  | preflight hm => exact .preflight hm
  | healthy hp hm => exact .healthy hp hm
  | failed f => exact .failed f
  | forwarded hl hc =>
    obtain ⟨d, hd, hcall⟩ := hlast hl
    exact .forwarded hd ((Call.isStreamed_of_timeless_eq hcall).trans hc)
  | relayed hl hc hm hends =>
    obtain ⟨d, hd, hcall⟩ := hlast hl
    exact .relayed hd ((Call.isStreamed_of_timeless_eq hcall).trans hc)
      ((Call.of_timeless_eq hcall).1.trans hm) hends

/-- Calls that were made before make no difference. -/
theorem after (h : Told r asked told) (before : List (Call × Outcome)) :
    Told r (before ++ asked) told := by
  have hlast {x : Call × Outcome} (hl : asked.getLast? = some x) :
      (before ++ asked).getLast? = some x := by
    rw [List.getLast?_append, hl]
    rfl
  cases h with
  | preflight hm => exact .preflight hm
  | healthy hp hm => exact .healthy hp hm
  | failed f => exact .failed f
  | forwarded hl hc => exact .forwarded (hlast hl) hc
  | relayed hl hc hm hends => exact .relayed (hlast hl) hc hm hends

end Told

namespace Gateway

variable {g : Gateway} {route : Route} {r r' : Request} {id : Option HeaderValue}
  {client : Option IpAddress} {response : Response} {qs : List (Call × Outcome)}

theorem Answers.told (ha : Answers g r response) :
    ∃ told, Told r [] told ∧ response = responseOf told := by
  cases ha with
  | preflight hm => exact ⟨_, .preflight hm, rfl⟩
  | oversized => exact ⟨_, .failed .payloadTooLarge, rfl⟩
  | health _ _ hp =>
    unfold Gateway.health
    split
    next hm => exact ⟨_, .healthy hp hm, rfl⟩
    next => exact ⟨_, .failed .methodNotAllowed, rfl⟩
  | @unrouted _ _ _ e => exact ⟨_, .failed (NoRoute.failure e), rfl⟩

theorem Delivers.told {identity : Option Identity} {d : Nat} {result : Except Failure Response}
    (hd : Delivers g route identity r' id client qs d result) : Told r qs result := by
  cases hd with
  | failed => exact .failed _
  | @sent outbound o =>
    by_cases hm : route.target = .monitoring
    · rw [onwardResult_of_monitoring hm, onwardCall_of_monitoring hm]
      cases o with
      | reply reply =>
        rw [relayResult]
        cases hb : reply.body.collect maxRelayed with
        | ok body =>
          obtain ⟨hends, -, rfl⟩ := Body.collect_eq_ok_iff.mp hb
          exact .relayed rfl rfl rfl hends
        | error => exact .failed _
      | _ => exact .failed _
    · rw [onwardResult_of_ne hm, onwardCall_of_ne hm]
      cases o with
      | reply reply => exact .forwarded rfl rfl
      | _ => exact .failed _

theorem Dispatches.told {d : Nat} {result : Except Failure Response} {cookies : List HeaderValue}
    (hd : Dispatches g route r' id client qs d (result, cookies)) : Told r qs result := by
  cases hd with
  | unguarded _ hd => exact hd.told
  | noSession => exact .failed _
  | denied => exact .failed _
  | admitted _ _ _ _ hd => exact (hd.told.after _).after _

/-- Whatever becomes of a request, the client is told so, at most with further cookies. -/
theorem Serves.told (hs : Serves g r client qs response) :
    ∃ told cookies, Told r qs told ∧ response = (responseOf told).withCookies cookies := by
  cases hs with
  | atOnce ha =>
    obtain ⟨told, htold, rfl⟩ := ha.told
    exact ⟨told, [], htold, rfl⟩
  | inTime _ hd _ => exact ⟨_, _, hd.told, rfl⟩
  | late => exact ⟨_, [], .failed .requestTimeout, rfl⟩

/-- Finishing an answer leaves status and body alone, but for a body that is not to be sent. -/
theorem finish_eq (g : Gateway) (r : Request) (response : Response) :
    ∃ headers, g.finish r response = { response with headers }.sentFor r.method := by
  have hallowed (x : Response) : ∃ headers, withAllowed r x = { x with headers } := by
    unfold withAllowed
    split <;> exact ⟨_, rfl⟩
  have hid (x : Response) (id : Option HeaderValue) :
      ∃ headers, x.withRequestId id = { x with headers } := by
    unfold Response.withRequestId
    split <;> exact ⟨_, rfl⟩
  unfold finish
  obtain ⟨_, hx⟩ := hid { response with
    headers := (g.policy.decide r.headers).apply response.headers } (r.headers.first? .requestId)
  dsimp only
  rw [hx]
  obtain ⟨headers, hy⟩ := hallowed _
  exact ⟨headers, by rw [hy]⟩

theorem status_finish (g : Gateway) (r : Request) (response : Response) :
    (g.finish r response).status = response.status := by
  obtain ⟨headers, he⟩ := finish_eq g r response
  rw [he, Response.sentFor]
  split <;> rfl

theorem body_finish (g : Gateway) (r : Request) (response : Response) :
    (g.finish r response).body =
      if r.method = .head ∨ (r.method = .connect ∧ response.status.isSuccess) then .empty
      else response.body := by
  obtain ⟨headers, he⟩ := finish_eq g r response
  rw [he, Response.sentFor]
  split <;> rfl

end Gateway

/-- A failure is told as an object of one member, and as nothing else. -/
theorem Failure.response_eq (f : Failure) : f.response =
    ⟨f.status, Headers.empty.add .contentType jsonType,
      .whole ("\x7b\"error\":\"" ++ f.message ++ "\"\x7d").toUTF8⟩ := by
  cases f <;> rfl

/-- A decimal number below the size of a machine's words, with an optional plus sign. -/
def wordOf? (size : Nat) (cs : List Char) : Option Nat :=
  let digits := if cs.head? = some '+' then cs.tail else cs
  (numberIn? 10 digits).filter (· < size)

theorem word64?_of_wordOf? {size n : Nat} {cs : List Char} (hsize : size ≤ UInt64.size)
    (h : wordOf? size cs = some n) : word64? cs = some n := by
  obtain ⟨hn, hlt⟩ := Option.filter_eq_some_iff.mp h
  refine Option.filter_eq_some_iff.mpr ⟨hn, ?_⟩
  simp only [decide_eq_true_eq] at hlt ⊢
  exact Nat.lt_of_lt_of_le hlt hsize

/-- The number that the first content length field spells, if a word of this size holds it. -/
def Headers.declaredWord? (h : Headers) (size : Nat) : Option Nat :=
  (h.text? .contentLength).bind fun text => wordOf? size text.toList

/--
A guard against long bodies that stands between the gateway's own refusal and its routes. It goes by
the first content length field, and refuses a number that exceeds the limit as far as a word of its
machine holds it.
-/
structure LengthGuard where
  /-- How many numbers a word of its machine tells apart. -/
  wordSize : Nat
  refusal? : Nat → Headers → Option Response
  refuses : ∀ limit h, (refusal? limit h).isSome = (h.declaredWord? wordSize).any (limit < ·)

namespace LengthGuard

/-- A guard that refuses with a line of plain text. -/
def plain : LengthGuard where
  wordSize := UInt64.size
  refusal? limit h :=
    if (h.declaredWord? UInt64.size).any (limit < ·) then
      some ⟨.payloadTooLarge,
        Headers.empty.add .contentType ⟨octetsOf "text/plain; charset=utf-8", by decide⟩,
        .whole "length limit exceeded".toUTF8⟩
    else none
  refuses limit h := by split <;> simp [*]

variable {guard : LengthGuard} {r : Request} {limit : Nat}

/-- What such a guard refuses is refused before it is asked. -/
theorem isOversized_of_refusal (hsize : guard.wordSize ≤ UInt64.size)
    (h : (guard.refusal? limit r.headers).isSome = true) : r.isOversized limit = true := by
  rw [guard.refuses, Option.any_eq_true] at h
  obtain ⟨n, hn, hlimit⟩ := h
  obtain ⟨text, htext, hword⟩ := Option.bind_eq_some_iff.mp hn
  have hdeclared : r.declaredLength? = some n :=
    Option.bind_eq_some_iff.mpr ⟨text, htext, word64?_of_wordOf? hsize hword⟩
  rw [Request.isOversized, hdeclared]
  exact hlimit

end LengthGuard

namespace Gateway

/-- Refuses long bodies with such a guard behind the gateway's own refusal. -/
def limitedBehind (g : Gateway) (guard : LengthGuard) (r : Request) (client : Option IpAddress) :
    Exchange Response :=
  if r.isOversized g.bodyLimit then .done Failure.payloadTooLarge.response
  else match guard.refusal? g.bodyLimit r.headers with
    | some refusal => .done refusal
    | none =>
      if r.target.path = healthPath then .done (health r.method)
      else g.handle (r.withCappedBody g.bodyLimit) client

theorem limitedBehind_eq {guard : LengthGuard} (hsize : guard.wordSize ≤ UInt64.size)
    (g : Gateway) (r : Request) (client : Option IpAddress) :
    g.limitedBehind guard r client = g.limited r client := by
  unfold limitedBehind limited
  split
  next => rfl
  next ho =>
    have hnone : guard.refusal? g.bodyLimit r.headers = none :=
      Option.not_isSome_iff_eq_none.mp fun h => ho (LengthGuard.isOversized_of_refusal hsize h)
    rw [hnone]

/--
Whoever answers and whatever the settings are, a client is told by the gateway itself or by a
collaborator: it gets the answer to a preflight or that of the health path, status and body of the
reply to the last call, or a failure, whose body is an object with its message. Bodies are left out
just where the method has none sent. A guard that would refuse long bodies in words of its own
changes nothing: what it would refuse is refused already.
-/
theorem serve_told {σ : Type} (g : Gateway) {guard : LengthGuard}
    (hsize : guard.wordSize ≤ UInt64.size) (a : Arrival) (answer : σ → Call → Outcome × σ)
    (s : σ) :
    let r := a.request.identified a.freshId
    let run := (g.serve a).run answer s
    (∃ told, Told r run.asked told ∧
      let response := responseOf told
      run.result.status = response.status ∧
        run.result.headers.all .contentType = response.headers.all .contentType ∧
        run.result.body =
          if r.method = .head ∨ (r.method = .connect ∧ response.status.isSuccess) then .empty
          else response.body) ∧
    (∀ f : Failure, f.response =
      ⟨f.status, Headers.empty.add .contentType jsonType,
        .whole ("\x7b\"error\":\"" ++ f.message ++ "\"\x7d").toUTF8⟩) ∧
    ∀ r : Request,
      ((guard.refusal? g.bodyLimit r.headers).isSome → r.isOversized g.bodyLimit) ∧
      g.limitedBehind guard r a.client = g.limited r a.client := by
  intro r run
  refine ⟨?_, Failure.response_eq, fun r => ⟨LengthGuard.isOversized_of_refusal hsize,
    limitedBehind_eq hsize g r a.client⟩⟩
  obtain ⟨qs, response, heq, hserves, hresult⟩ := serves_run g a answer s
  obtain ⟨told, cookies, htold, rfl⟩ := hserves.told
  refine ⟨told, htold.congr heq.symm, ?_, ?_, ?_⟩
  · rw [hresult, status_finish]
    rfl
  · rw [hresult, all_finish g _ _ (by decide)]
    exact Headers.all_foldl_add_of_ne (by decide) cookies (responseOf told).headers
  · rw [hresult, body_finish]
    rfl

/-- A request that declares more than the sample gateway takes. -/
def longArrival : Arrival :=
  let a := sampleArrival "/auth/login"
  { a with request.headers := a.request.headers.add .contentLength (.ofNat 2000) }

/-- A guard that answers in plain text would refuse it, yet the client is told so as an object. -/
theorem serve_told_long :
    LengthGuard.plain.wordSize ≤ UInt64.size ∧
      (LengthGuard.plain.refusal? (sample 60000).bodyLimit
        longArrival.request.headers).isSome = true ∧
      let run := ((sample 60000).serve longArrival).run Outcome.scripted []
      run.result.status = .payloadTooLarge ∧
        run.result.headers.all .contentType = [jsonType] ∧
        run.result.body = .whole "\x7b\"error\":\"payload too large\"\x7d".toUTF8 := by
  refine ⟨Nat.le_refl _, by decide +kernel, ?_⟩
  intro run
  have hstatus : run.result.status = .payloadTooLarge := by decide +kernel
  have hasked : run.asked.length = 0 := by decide +kernel
  obtain ⟨⟨told, htold, hsame, htype, hbody⟩, -, -⟩ :=
    @serve_told _ (sample 60000) LengthGuard.plain (Nat.le_refl _) longArrival Outcome.scripted []
  have htold : Told longArrival.request [] told := List.length_eq_zero_iff.mp hasked ▸ htold
  have hstatus : (responseOf told).status = .payloadTooLarge := hsame ▸ hstatus
  refine ⟨hsame.trans hstatus, ?_⟩
  cases htold with
  | preflight hm => exact absurd hm (by decide)
  | healthy hp => exact absurd hp (by decide)
  | failed f =>
    obtain rfl : f = .payloadTooLarge := by
      revert hstatus
      cases f <;> decide
    exact ⟨htype, hbody⟩
  | forwarded hlast | relayed hlast => cases hlast

end Gateway

end Gatehouse
