import Gatehouse.Proofs.Body
import Gatehouse.Proofs.Transform

namespace Gatehouse

/-- Under a limit, bodies with the same octets and the same end are read alike. -/
theorem Body.collect_congr {b other : Body} {limit : Nat} (hbytes : other.bytes = b.bytes)
    (hending : other.ending = b.ending) : other.collect limit = b.collect limit := by
  by_cases h : b.bytes.size ≤ limit
  · have hother : other.bytes.size ≤ limit := hbytes ▸ h
    rw [collect_of_le h, collect_of_le hother, hbytes, hending]
  · have hlt : limit < b.bytes.size := Nat.lt_of_not_le h
    have hother : limit < other.bytes.size := hbytes ▸ hlt
    rw [collect_of_lt hlt, collect_of_lt hother]

theorem Method.ne_get_of_carriesBody {m : Method} (h : m.carriesBody = true) : m ≠ .get := by
  rintro rfl
  exact absurd h (by decide)

namespace Request

variable {r : Request} {field : String} {id : Option Identity} {limit : Nat}

/-- Only a body that is too long is reported as one. -/
theorem withAssertedBody_payloadTooLarge_iff :
    r.withAssertedBody field id limit = .error .payloadTooLarge ↔ r.body.Exceeds limit := by
  have hsuffers : r.body.Suffers limit .overLimit ↔ r.body.collect limit = .error .overLimit :=
    Body.collect_eq_error_iff.symm
  rw [show r.body.Exceeds limit = r.body.Suffers limit .overLimit from rfl, hsuffers]
  cases hc : r.body.collect limit with
  | error fault =>
    rw [withAssertedBody_of_error hc]
    cases fault <;> simp [ReadFault.failure]
  | ok body =>
    rw [withAssertedBody_of_ok hc]
    cases ha : assertIdentity field id body with
    | error f => rcases assertIdentity_error ha with rfl | rfl <;> simp [Except.map]
    | ok asserted => simp [Except.map]

/-- An identity is asserted in every whole object within the limit, if there is one. -/
theorem withAssertedBody_isOk_iff :
    (∃ outbound, r.withAssertedBody field id limit = .ok outbound) ↔
      r.body.ending = .complete ∧ r.body.bytes.size ≤ limit ∧
        Json.objectOfBytes? r.body.bytes ≠ none ∧ id ≠ none := by
  constructor
  · rintro ⟨outbound, h⟩
    obtain ⟨owner, body, members, hid, hc, ho, -⟩ := withAssertedBody_ok_inv h
    obtain ⟨hending, hfits, rfl⟩ := Body.collect_eq_ok_iff.mp hc
    exact ⟨hending, hfits, by simp [ho], by simp [hid]⟩
  · rintro ⟨hending, hfits, ho, hid⟩
    obtain ⟨members, ho⟩ := Option.ne_none_iff_exists'.mp ho
    obtain ⟨owner, hid⟩ := Option.ne_none_iff_exists'.mp hid
    have hc : r.body.collect limit = .ok r.body.bytes :=
      Body.collect_eq_ok_iff.mpr ⟨hending, hfits, rfl⟩
    rw [withAssertedBody_of_ok hc]
    unfold assertIdentity
    rw [ho, hid]
    exact ⟨_, rfl⟩

/-- Of a body that breaks off it is told whether it was too long before it did. -/
theorem withAssertedBody_of_brokenOff (hb : r.body.ending = .brokenOff) :
    r.withAssertedBody field id limit =
      .error (if limit < r.body.bytes.size then .payloadTooLarge else .invalidPayload) := by
  split
  next hlt => exact withAssertedBody_payloadTooLarge_iff.mpr (Or.inl hlt)
  next hle =>
    have hexceeds : ¬r.body.Exceeds limit := by simp [Body.Exceeds, hle, hb]
    have hc : r.body.collect limit = .error .brokenOff :=
      Body.collect_eq_error_iff.mpr ⟨hexceeds, hb⟩
    exact withAssertedBody_of_error hc

end Request

namespace Transform

/--
The limit on a body that an identity is asserted in. Two bodies with the same octets and the same
end come to the same result, wherever they are cut; that a body is too long is reported exactly when
it has more octets than the limit, and one of just as many can still be accepted; a body that breaks
off is too long or invalid, by the octets that came before.
-/
theorem apply_chunked {r : Request} (hm : r.method.carriesBody = true) (field : String)
    (scopedPath : Option String) (id : Option Identity) (limit : Nat) :
    let t := Transform.assertIdentity field scopedPath
    (∀ other : Body, other.bytes = r.body.bytes → other.ending = r.body.ending →
      t.apply id limit { r with body := other } = t.apply id limit r) ∧
    (r.body.ending ≠ .overLimit →
      (t.apply id limit r = .error .payloadTooLarge ↔ limit < r.body.bytes.size)) ∧
    ((∃ outbound, t.apply id limit r = .ok outbound) ↔
      r.body.ending = .complete ∧ r.body.bytes.size ≤ limit ∧
        Json.objectOfBytes? r.body.bytes ≠ none ∧ id ≠ none) ∧
    (r.body.ending = .brokenOff → t.apply id limit r =
      .error (if limit < r.body.bytes.size then .payloadTooLarge else .invalidPayload)) := by
  intro t
  have hreads : t.readsBody r.method = true := by
    simp [t, readsBody, hm, Method.ne_get_of_carriesBody hm]
  have happly : t.apply id limit r = r.withAssertedBody field id limit := apply_asserted hreads
  refine ⟨fun other hbytes hending => ?_, fun hending => ?_, ?_, fun hbroken => ?_⟩
  · have hother : t.apply id limit { r with body := other } =
        { r with body := other }.withAssertedBody field id limit := apply_asserted hreads
    have hread : other.collect limit = r.body.collect limit := Body.collect_congr hbytes hending
    rw [hother, happly]
    unfold Request.withAssertedBody
    rw [hread]
  · rw [happly, Request.withAssertedBody_payloadTooLarge_iff]
    simp [Body.Exceeds, hending]
  · rw [happly]
    exact Request.withAssertedBody_isOk_iff
  · rw [happly]
    exact Request.withAssertedBody_of_brokenOff hbroken

/-- A PUT of an object that comes in chunks, some of them empty. -/
def chunkedPut (ending : Ending) : Request where
  method := .put
  target := .resource ⟨"/api/tenants", none⟩
  headers := Headers.empty
  body := .stream (["", "\x7b\"a\"", "", ":1", "\x7d", ""].map String.toUTF8) ending

/-- Its seven octets are accepted under a limit of seven, and too long under one of six. -/
theorem apply_chunked_put :
    let t := Transform.assertIdentity "firebase_uid" none
    let owner : Option Identity := some ⟨"u1"⟩
    let whole : Body := .whole "\x7b\"a\":1\x7d".toUTF8
    t.apply owner 7 { chunkedPut .complete with body := whole } =
        t.apply owner 7 (chunkedPut .complete) ∧
      (∃ outbound, t.apply owner 7 (chunkedPut .complete) = .ok outbound) ∧
      t.apply owner 6 (chunkedPut .complete) = .error .payloadTooLarge ∧
      t.apply owner 7 (chunkedPut .brokenOff) = .error .invalidPayload ∧
      t.apply owner 6 (chunkedPut .brokenOff) = .error .payloadTooLarge := by
  intro t owner whole
  have told (ending : Ending) (limit : Nat) :=
    apply_chunked (r := chunkedPut ending) rfl "firebase_uid" none owner limit
  refine ⟨(told .complete 7).1 whole (by decide +kernel) rfl, ?_, ?_, ?_, ?_⟩
  · exact (told .complete 7).2.2.1.mpr
      ⟨rfl, by decide +kernel, by decide +kernel, by decide⟩
  · exact ((told .complete 6).2.1 (by decide)).mpr (by decide +kernel)
  · exact (told .brokenOff 7).2.2.2 rfl
  · exact (told .brokenOff 6).2.2.2 rfl

end Transform

end Gatehouse
