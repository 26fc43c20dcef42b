import Gatehouse.Proofs.Serve

namespace Gatehouse

open Program

/-- Whether the answer to a call is handed on as it comes in, rather than read before. -/
def Call.isStreamed (c : Call) : Bool := c.readLimit.isNone

theorem Call.isStreamed_of_timeless_eq {c d : Call} (h : c.timeless = d.timeless) :
    c.isStreamed = d.isStreamed := by
  have hsame : c.timeless.isStreamed = d.timeless.isStreamed := congrArg Call.isStreamed h
  exact hsame

def Outcome.reply? : Outcome → Option Response
  | reply r _ => some r
  | _ => none

/-- The replies that are handed on to the client. -/
def handedOn (qs : List (Call × Outcome)) : List Response :=
  (qs.filter (·.1.isStreamed)).filterMap (·.2.reply?)

theorem handedOn_append (qs rs : List (Call × Outcome)) :
    handedOn (qs ++ rs) = handedOn qs ++ handedOn rs := by
  simp [handedOn, List.filter_append, List.filterMap_append]

theorem handedOn_timeless (qs : List (Call × Outcome)) : handedOn (timeless qs) = handedOn qs := by
  unfold handedOn timeless
  rw [List.filter_map, List.filterMap_map]
  rfl

theorem handedOn_eq_nil {qs : List (Call × Outcome)} (h : ∀ x ∈ qs, x.1.isStreamed = false) :
    handedOn qs = [] := by
  have hnil : qs.filter (·.1.isStreamed) = [] :=
    List.filter_eq_nil_iff.mpr fun x hx => by simp [h x hx]
  rw [handedOn, hnil, List.filterMap_nil]

theorem AuthClient.Asks.isStreamed {client : AuthClient} {q : AuthQuestion} {c : Call}
    (hc : client.Asks q c) : c.isStreamed = false := by
  obtain ⟨_, _, rfl⟩ := hc
  rfl

theorem handedOn_of_asks {client : AuthClient} {qs : List (Call × Outcome)}
    (h : ∀ x ∈ qs, ∃ q, client.Asks q x.1) : handedOn qs = [] := by
  refine handedOn_eq_nil fun x hx => ?_
  obtain ⟨q, hq⟩ := h x hx
  exact hq.isStreamed

namespace Gateway

variable {g : Gateway} {route : Route} {r : Request} {id : Option HeaderValue}
  {client : Option IpAddress}

theorem asksOnly_ask (client : AuthClient) (q : AuthQuestion) :
    (client.ask q).AsksOnly (¬·.isStreamed = true) := by
  unfold AuthClient.ask
  split
  · trivial
  · exact ⟨nofun, fun _ => trivial⟩

theorem asksOnly_identify (g : Gateway) (route : Route) (m : Method) (t : String)
    (id : Option HeaderValue) : (g.identify route m t id).AsksOnly (¬·.isStreamed = true) := by
  unfold identify
  split
  · exact (AsksOnly.via (asksOnly_ask g.auth) _).bind fun _ => trivial
  · trivial

theorem deliver_restsAfter (identity : Option Identity) (P : Call → Prop) :
    (g.deliver route identity r id client).RestsAfter P := by
  cases hs : route.transform.apply identity g.bodyLimit r with
  | ok outbound =>
    rw [deliver_of_ok hs]
    exact ⟨fun _ _ => trivial, fun _ => trivial⟩
  | error f =>
    unfold deliver
    rw [hs]
    dsimp only
    unfold failed
    split <;> trivial

theorem dispatch_restsAfter :
    (g.dispatch route r id client).RestsAfter (·.isStreamed = true) := by
  unfold dispatch
  split
  · refine AsksOnly.bind_restsAfter (AsksOnly.via (asksOnly_ask g.auth) _) ?_
    rintro (_ | session)
    · trivial
    · exact (asksOnly_identify ..).bind_restsAfter fun _ =>
        (deliver_restsAfter ..).bind fun _ => trivial
  · exact (deliver_restsAfter ..).bind fun _ => trivial

theorem limited_restsAfter : (g.limited r client).RestsAfter (·.isStreamed = true) := by
  unfold limited
  split
  · trivial
  split
  · trivial
  unfold handle
  split
  · trivial
  · exact dispatch_restsAfter.bind fun _ => trivial

/-- What is cut off has had no reply that is handed on. -/
theorem handedOn_of_isCutOff {σ : Type} {a : Arrival} {answer : σ → Call → Outcome × σ} {s : σ}
    (h : g.isCutOff a answer s = true) : handedOn ((g.serve a).run answer s).asked = [] := by
  obtain ⟨hm, hcut⟩ : a.request.method ≠ .options ∧ (g.limited (a.request.identified a.freshId)
      a.client).isCutOff g.patience answer s = true := by simpa [isCutOff] using h
  have hsilent := Exchange.silent_of_isCutOff (fun _ _ hc => hc) limited_restsAfter hcut
    LayerFault.elapsed.failure.response
  rw [run_serve, timed, if_neg (by simpa using hm)]
  refine List.filterMap_eq_nil_iff.mpr fun x hx => ?_
  obtain ⟨hx, hstreamed⟩ := List.mem_filter.mp hx
  rw [hsilent x hx hstreamed]
  rfl

end Gateway

end Gatehouse
