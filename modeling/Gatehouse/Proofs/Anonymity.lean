import Gatehouse.Proofs.Body
import Gatehouse.Proofs.Dispatch

namespace Gatehouse

namespace Body

/-- Why the identity of an unknown caller is not asserted in a body. -/
def anonymousFailure (b : Body) (limit : Nat) : Failure :=
  match b.collect limit with
  | .error fault => fault.failure
  | .ok body =>
    if Json.objectOfBytes? body = none then .invalidPayload else .identityUnavailable

variable {b : Body} {limit : Nat}

theorem anonymousFailure_of_suffers (fault : ReadFault) (h : b.Suffers limit fault) :
    b.anonymousFailure limit = fault.failure := by
  unfold anonymousFailure
  rw [collect_eq_error_iff.mpr h]

theorem anonymousFailure_of_complete (he : b.ending = .complete) (hx : ¬b.Exceeds limit) :
    b.anonymousFailure limit =
      if Json.objectOfBytes? b.bytes = none then .invalidPayload else .identityUnavailable := by
  have hfits : b.bytes.size ≤ limit := Nat.not_lt.mp fun hlt => hx (Or.inl hlt)
  unfold anonymousFailure
  rw [collect_of_complete he, if_pos hfits]

/-- Every body suffers one fault, or it has an end within the limit and is an object or not. -/
theorem anonymousFailure_cases (b : Body) (limit : Nat) :
    (b.Exceeds limit ∧ b.anonymousFailure limit = .payloadTooLarge) ∨
    ¬b.Exceeds limit ∧
      ((b.ending = .brokenOff ∧ b.anonymousFailure limit = .invalidPayload) ∨
       (b.ending = .stalled ∧ b.anonymousFailure limit = .requestTimeout) ∨
       (b.ending = .complete ∧ Json.objectOfBytes? b.bytes = none ∧
          b.anonymousFailure limit = .invalidPayload) ∨
       (b.ending = .complete ∧ Json.objectOfBytes? b.bytes ≠ none ∧
          b.anonymousFailure limit = .identityUnavailable)) := by
  by_cases hx : b.Exceeds limit
  · exact Or.inl ⟨hx, anonymousFailure_of_suffers .overLimit hx⟩
  refine Or.inr ⟨hx, ?_⟩
  cases he : b.ending with
  | brokenOff =>
    exact Or.inl ⟨rfl, anonymousFailure_of_suffers .brokenOff ⟨hx, he⟩⟩
  | stalled =>
    exact Or.inr (Or.inl ⟨rfl, anonymousFailure_of_suffers .stalled ⟨hx, he⟩⟩)
  | overLimit => exact absurd (Or.inr he) hx
  | complete =>
    have hcomplete := anonymousFailure_of_complete he hx
    by_cases ho : Json.objectOfBytes? b.bytes = none
    · rw [if_pos ho] at hcomplete
      exact Or.inr (Or.inr (Or.inl ⟨rfl, ho, hcomplete⟩))
    · rw [if_neg ho] at hcomplete
      exact Or.inr (Or.inr (Or.inr ⟨rfl, ho, hcomplete⟩))

end Body

namespace Transform

variable {t : Transform} {limit : Nat} {r : Request}

/-- A need of the identity is met in the path of a GET or in the body of another method. -/
theorem needsIdentity_cases {m : Method} (hn : t.needsIdentity m = true) :
    (m = .get ∧ ∃ field template, t = .assertIdentity field (some template)) ∨
      (m.carriesBody = true ∧ t.readsBody m = true ∧
        ∃ field scopedPath, t = .assertIdentity field scopedPath) := by
  cases t with
  | keep | replaceStart => cases hn
  | assertIdentity field scopedPath =>
    by_cases hm : m = .get
    · subst hm
      cases scopedPath with
      | none => simp [needsIdentity] at hn
      | some template => exact Or.inl ⟨rfl, field, template, rfl⟩
    · have hb : m.carriesBody = true := by simpa [needsIdentity, hm] using hn
      exact Or.inr ⟨hb, by simp [readsBody, hm, hb], field, scopedPath, rfl⟩

/-- Where there is no need of the identity, the only trouble can be the new path. -/
theorem apply_of_needless (hn : t.needsIdentity r.method = false) (id : Option Identity) :
    t.apply id limit r = t.apply none limit r ∧
      ∀ f, t.apply id limit r = .error f → f = .internal := by
  cases t with
  | keep => exact ⟨rfl, fun f hf => by cases hf⟩
  | replaceStart old new =>
    refine ⟨rfl, fun f hf => ?_⟩
    rw [apply_replaceStart] at hf
    cases ht : r.target.withPath (Gatehouse.replaceStart old new r.target.path) with
    | error g =>
      rw [ht] at hf
      cases hf
      exact RequestTarget.withPath_error ht
    | ok target =>
      rw [ht] at hf
      cases hf
  | assertIdentity field scopedPath =>
    rw [apply_unasserted hn, apply_unasserted hn]
    exact ⟨rfl, fun f hf => by cases hf⟩

theorem apply_none_of_get (hm : r.method = .get) (field template : String) :
    (Transform.assertIdentity field (some template)).apply none limit r =
      .error .identityUnavailable := by
  rw [apply_scoped hm]
  rfl

theorem apply_none_of_readsBody {field : String} {scopedPath : Option String}
    (hb : (Transform.assertIdentity field scopedPath).readsBody r.method = true) :
    (Transform.assertIdentity field scopedPath).apply none limit r =
      .error (r.body.anonymousFailure limit) := by
  rw [apply_asserted hb]
  unfold Body.anonymousFailure
  cases hc : r.body.collect limit with
  | error fault => exact Request.withAssertedBody_of_error hc
  | ok body =>
    rw [Request.withAssertedBody_of_ok hc]
    unfold Gatehouse.assertIdentity
    cases ho : Json.objectOfBytes? body <;> simp [ho, Except.map]

end Transform

namespace Gateway

variable {g : Gateway} {route : Route} {m : Method} {token : String} {id : Option HeaderValue}

theorem Identifies.eq_nil {asked : List (Call × Outcome)} {identity : Option Identity}
    (hi : Identifies g route m token id asked identity)
    (hn : route.transform.needsIdentity m = false) : asked = [] := by
  cases hi with
  | needless => rfl
  | asked o h => exact absurd (h.symm.trans hn) (by decide)

theorem Identifies.eq_singleton {asked : List (Call × Outcome)} {identity : Option Identity}
    (hi : Identifies g route m token id asked identity)
    (hn : route.transform.needsIdentity m = true) :
    ∃ x, asked = [x] ∧ g.auth.Asks (.me token id) x.1 := by
  cases hi with
  | needless h => exact absurd (h.symm.trans hn) (by decide)
  | asked o _ hc => exact ⟨_, rfl, hc⟩

end Gateway

namespace Transform

/--
The identity is asked for and used exactly where a transform needs it. Elsewhere its result is the
same for every caller and never that the identity is missing; there it is done for no unknown
caller, who is told that the body is too long, cannot be read or is no JSON object rather than that.
-/
theorem apply_anonymous {σ : Type} (t : Transform) (limit : Nat) (r : Request) :
    (t.needsIdentity r.method = false → ∀ id, t.apply id limit r = t.apply none limit r ∧
      t.apply id limit r ≠ .error .identityUnavailable) ∧
    (t.needsIdentity r.method = true →
      (∀ outbound, t.apply none limit r ≠ .ok outbound) ∧
      (r.method.carriesBody = false → t.apply none limit r = .error .identityUnavailable) ∧
      (r.method.carriesBody = true →
        (t.apply none limit r = .error .payloadTooLarge ↔ r.body.Exceeds limit) ∧
        (t.apply none limit r = .error .invalidPayload ↔ ¬r.body.Exceeds limit ∧
          (r.body.ending = .brokenOff ∨
            r.body.ending = .complete ∧ Json.objectOfBytes? r.body.bytes = none)) ∧
        (t.apply none limit r = .error .requestTimeout ↔ ¬r.body.Exceeds limit ∧
          r.body.ending = .stalled) ∧
        (t.apply none limit r = .error .identityUnavailable ↔ ¬r.body.Exceeds limit ∧
          r.body.ending = .complete ∧ Json.objectOfBytes? r.body.bytes ≠ none))) ∧
    ∀ (g : Gateway) (route : Route) (token : String) (id : Option HeaderValue)
      (answer : σ → Call → Outcome × σ) (s : σ),
      route.transform = t → r.headers.sessionToken? = some token →
      let asked := ((g.identify route r.method token id).run answer s).asked
      (t.needsIdentity r.method = false → asked = []) ∧
        (t.needsIdentity r.method = true →
          ∃ x, asked = [x] ∧ g.auth.Asks (.me token id) x.1) := by
  refine ⟨fun hn id => ?_, fun hn => ⟨fun outbound ho => ?_, fun hbody => ?_, fun hbody => ?_⟩, ?_⟩
  · obtain ⟨hsame, hfails⟩ := apply_of_needless hn id
    exact ⟨hsame, fun he => by cases hfails _ he⟩
  · obtain ⟨f, hf⟩ := apply_of_needsIdentity hn
    rw [hf] at ho
    cases ho
  · rcases needsIdentity_cases hn with ⟨hm, field, template, rfl⟩ | ⟨hb, -, -⟩
    · exact apply_none_of_get hm field template
    · exact absurd (hb.symm.trans hbody) (by decide)
  · rcases needsIdentity_cases hn with ⟨hm, -⟩ | ⟨-, hreads, field, scopedPath, rfl⟩
    · rw [hm] at hbody
      cases hbody
    rw [apply_none_of_readsBody hreads]
    rcases r.body.anonymousFailure_cases limit with
      ⟨hx, hf⟩ | ⟨hx, ⟨he, hf⟩ | ⟨he, hf⟩ | ⟨he, ho, hf⟩ | ⟨he, ho, hf⟩⟩ <;>
      rw [hf] <;> simp_all
  · intro g route token id answer s ht htoken
    subst ht
    obtain ⟨d, htrace⟩ := Exchange.trace_run answer (g.identify route r.method token id) s
    obtain ⟨-, -, hidentifies⟩ := Gateway.trace_identify htoken htrace
    exact ⟨hidentifies.eq_nil, hidentifies.eq_singleton⟩

/-- A POST of a text, with a session. -/
def posted (text : String) : Request where
  method := .post
  target := .resource ⟨"/api/tenants", none⟩
  headers := Headers.empty.add .cookie ⟨octetsOf "session_token=known", by decide⟩
  body := .whole text.toUTF8

/-- A body as long as the limit is no object here; under a lower one it is too long as well. -/
theorem apply_anonymous_posted :
    let t := Transform.assertIdentity "firebase_uid" (some "/api/user/\x7bidentity\x7d/tenants")
    t.needsIdentity .post = true ∧
      t.apply none 5 (posted "[1,2]") = .error .invalidPayload ∧
      t.apply none 4 (posted "[1,2]") = .error .payloadTooLarge ∧
      t.apply none 5 (posted "\x7b\x7d") = .error .identityUnavailable ∧
      ∀ outbound, t.apply none 5 (posted "\x7b\x7d") ≠ .ok outbound := by
  intro t
  have told (limit : Nat) (text : String) :=
    (@apply_anonymous Unit t limit (posted text)).2.1 rfl
  refine ⟨rfl, ?_, ?_, ?_, (told 5 "\x7b\x7d").1⟩
  · exact ((told 5 "[1,2]").2.2 rfl).2.1.mpr
      ⟨by decide +kernel, Or.inr ⟨rfl, by decide +kernel⟩⟩
  · exact ((told 4 "[1,2]").2.2 rfl).1.mpr (by decide +kernel)
  · exact ((told 5 "\x7b\x7d").2.2 rfl).2.2.2.mpr ⟨by decide +kernel, rfl, by decide +kernel⟩

end Transform

end Gatehouse
