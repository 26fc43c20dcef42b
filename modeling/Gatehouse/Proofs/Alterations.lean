import Gatehouse.Proofs.Chunking
import Gatehouse.Proofs.Digits
import Gatehouse.Proofs.Fields
import Gatehouse.Proofs.Rewriting
import Gatehouse.Proofs.Visible

namespace Gatehouse

/-- The number that a value is the decimal spelling of. -/
def HeaderValue.number? (v : HeaderValue) : Option Nat := v.chars?.bind (numberIn? 10)

theorem isVisibleChar_of_isDecimal {c : Char} (h : isDecimal c) : isVisibleChar c := by
  have hbounds : '0' ≤ c ∧ c ≤ '9' := by simpa [isDecimal] using h
  have hlow : ' ' ≤ c := Char.le_trans (by decide) hbounds.1
  have hhigh : c ≤ '~' := Char.le_trans hbounds.2 (by decide)
  simp [isVisibleChar, hlow, hhigh]

theorem HeaderValue.number?_ofNat (n : Nat) : (HeaderValue.ofNat n).number? = some n := by
  have hvisible : IsVisible (decimalText n).toList := by
    intro c hc
    rw [decimalText, String.toList_ofList] at hc
    exact isVisibleChar_of_isDecimal (decimal_isDecimal n c hc)
  have hoctets : (HeaderValue.ofNat n).octets = octetsOf (decimalText n) := by
    rw [octetsOf, decimalText, String.toList_ofList]
    rfl
  have hchars : (HeaderValue.ofNat n).chars? = some (decimal n) := by
    rw [HeaderValue.chars?_of_octets hoctets hvisible, decimalText, String.toList_ofList]
  rw [number?, hchars, Option.bind_some]
  exact numberIn?_digitsIn (by omega) (by omega) n

/-- What a request with another body has in common with the one that it was made of. -/
structure Request.Rebodied (r outbound : Request) : Prop where
  method : outbound.method = r.method
  target : outbound.target = r.target
  whole : outbound.body = .whole outbound.body.bytes
  length : ∃ v, outbound.headers.all .contentLength = [v] ∧
    v.number? = some outbound.body.bytes.size
  coding : outbound.headers.all .transferEncoding = []
  others : ∀ name, name ≠ .contentLength → name ≠ .transferEncoding →
    outbound.headers.all name = r.headers.all name

theorem Body.bytes_whole (bytes : ByteArray) : (Body.whole bytes).bytes = bytes := by
  have happend : (Body.whole bytes).bytes = ByteArray.empty ++ bytes := rfl
  rw [happend, ByteArray.empty_append]

theorem Request.rebodied_of_withAssertedBody {r outbound : Request} {field : String}
    {id : Option Identity} {limit : Nat} (h : r.withAssertedBody field id limit = .ok outbound) :
    r.Rebodied outbound := by
  obtain ⟨owner, body, members, -, -, -, hout⟩ := withAssertedBody_ok_inv h
  dsimp only at hout
  generalize (Json.object (members.insert field (.string owner.text))).bytes = asserted at hout
  have hbytes : outbound.body.bytes = asserted := by rw [hout, Body.bytes_whole]
  have hlength : outbound.headers.all .contentLength = [.ofNat asserted.size] := by
    rw [hout, Headers.all_remove_of_ne _ (by decide), Headers.set, Headers.all_add_self,
      Headers.all_remove_self, List.nil_append]
  refine ⟨by rw [hout], by rw [hout], by rw [hbytes, hout], ⟨_, hlength, ?_⟩, ?_,
    fun name hname hcoding => ?_⟩
  · rw [hbytes]
    exact HeaderValue.number?_ofNat _
  · rw [hout]
    exact Headers.all_remove_self _ _
  · rw [hout, Headers.all_remove_of_ne _ hcoding.symm, Headers.all_set_of_ne _ hname.symm]

namespace Surface

variable {route : Route}

/-- Of the public surface, only the tenants' route asserts an identity. -/
theorem eq_tenants_of_asserts {m : Method} {path field : String} {scopedPath : Option String}
    (hr : surface.resolve m path = .ok route)
    (ha : route.transform = .assertIdentity field scopedPath) :
    path = tenantsPath ∧ scopedPath = some "/api/user/\x7bidentity\x7d/tenants" := by
  have hpath : path = tenantsPath := Decidable.byContradiction fun hne => by
    rcases transform_cases hr hne with hk | ⟨old, new, hk, -, -⟩ <;> rw [hk] at ha <;> cases ha
  obtain ⟨hmem, haccepts, -⟩ := resolve_ok_inv hr
  have hroute : route = surfaceRoutes[1] := tenants_of_accepts route hmem (hpath ▸ haccepts)
  rw [hroute] at ha
  cases ha
  exact ⟨hpath, rfl⟩

/-- The path of the tenants is that of no rewriting route. -/
theorem replaces_of_resolve {m : Method} {path old new : String}
    (hr : surface.resolve m path = .ok route) (ht : route.transform = .replaceStart old new) :
    Shortens old new ∧ ∃ rest, path = old ++ rest := by
  by_cases hpath : path = tenantsPath
  · obtain ⟨hmem, haccepts, -⟩ := resolve_ok_inv hr
    rw [tenants_of_accepts route hmem (hpath ▸ haccepts)] at ht
    cases ht
  · rcases transform_cases hr hpath with hk | ⟨old', new', hk, hshort, hstart⟩
    · rw [hk] at ht
      cases ht
    · rw [hk] at ht
      cases ht
      exact ⟨hshort, exists_rest hstart⟩

end Surface

/-- Whether a caller has a path to himself, and one that can be asked for with this query. -/
structure Identity.IsPlaced (owner : Identity) (query : Option String) : Prop where
  safe : owner.isPathSafe = true
  fits : (PathAndQuery.mk owner.collection query).text.utf8ByteSize ≤ maxTargetLength

theorem Request.scoped_eq_ok_iff {r outbound : Request} {text : String} {id : Option Identity}
    (ht : RequestTarget.ofText text = .ok r.target) (hpath : r.target.path = tenantsPath) :
    r.scoped "/api/user/\x7bidentity\x7d/tenants" id = .ok outbound ↔
      ∃ owner, id = some owner ∧ owner.IsPlaced r.target.query ∧
        outbound = r.movedTo owner.collection := by
  have hp := RequestTarget.pathAndQuery?_of_path (t := r.target) (hpath ▸ by decide)
  constructor
  · intro h
    obtain ⟨owner, -, rfl, -⟩ := scoped_ok_inv h
    have hsafe : owner.isPathSafe = true := by
      by_contra hunsafe
      rw [scoped_unplaced _ (by simpa using hunsafe)] at h
      cases h
    rw [scoped_of_safe ht hp hsafe] at h
    split at h
    next => cases h
    next hfits =>
      exact ⟨owner, rfl, ⟨hsafe, Nat.not_lt.mp hfits⟩, (Except.ok.inj h).symm⟩
  · rintro ⟨owner, rfl, hplaced, rfl⟩
    rw [scoped_of_safe ht hp hplaced.safe, if_neg (Nat.not_lt.mpr hplaced.fits)]
    rfl

/--
What becomes of a request that a route of the public surface takes. Without a transform, and for
methods that it does not concern, nothing. Another start is put to a path always, and the query and
all else are kept; for a caller who has a path to himself this path takes the place of the request's
own; and where an identity is asserted the request differs in its body only, which its one length
tells, and in the fields that tell of a body.
-/
theorem Transform.apply_alters {r : Request} {text : String} {route : Route}
    (ht : RequestTarget.ofText text = .ok r.target)
    (hr : surface.resolve r.method r.target.path = .ok route) (id : Option Identity)
    (limit : Nat) :
    let result := route.transform.apply id limit r
    (route.transform = .keep → result = .ok r) ∧
    (∀ old new, route.transform = .replaceStart old new →
      ∃ rest, r.target.path = old ++ rest ∧ result = .ok (r.movedTo (new ++ rest))) ∧
    ∀ field scopedPath, route.transform = .assertIdentity field scopedPath →
      (r.method ≠ .get → r.method.carriesBody = false → result = .ok r) ∧
      (r.method = .get → ∀ outbound, result = .ok outbound ↔
        ∃ owner, id = some owner ∧ owner.IsPlaced r.target.query ∧
          outbound = r.movedTo owner.collection) ∧
      (r.method.carriesBody = true →
        ((∃ outbound, result = .ok outbound) ↔ r.body.ending = .complete ∧
          r.body.bytes.size ≤ limit ∧ Json.objectOfBytes? r.body.bytes ≠ none ∧ id ≠ none) ∧
        ∀ outbound, result = .ok outbound → r.Rebodied outbound) := by
  intro result
  refine ⟨fun hkeep => ?_, fun old new hreplace => ?_, fun field scopedPath hassert => ?_⟩
  · show route.transform.apply id limit r = .ok r
    rw [hkeep]
    rfl
  · obtain ⟨hshort, rest, hrest⟩ := Surface.replaces_of_resolve hr hreplace
    refine ⟨rest, hrest, ?_⟩
    show route.transform.apply id limit r = _
    rw [hreplace]
    exact replaceStart_moves ht hrest hshort
  have hresult : result = (Transform.assertIdentity field scopedPath).apply id limit r := by
    rw [← hassert]
  rw [hresult]
  refine ⟨fun hget hbody => ?_, fun hget outbound => ?_, fun hbody => ?_⟩
  · exact apply_unasserted (by simp [needsIdentity, hget, hbody])
  · obtain ⟨hpath, rfl⟩ := Surface.eq_tenants_of_asserts hr hassert
    rw [apply_scoped hget]
    exact Request.scoped_eq_ok_iff ht hpath
  · have hreads : (Transform.assertIdentity field scopedPath).readsBody r.method = true := by
      simp [readsBody, hbody, Method.ne_get_of_carriesBody hbody]
    rw [apply_asserted hreads]
    exact ⟨Request.withAssertedBody_isOk_iff, fun outbound =>
      Request.rebodied_of_withAssertedBody⟩

/-- A request by way of a proxy, whose empty query has its mark and whose fields repeat. -/
def proxiedPost : Request where
  method := .post
  target := .absolute "http" "gateway.example" ⟨tenantsPath, some ""⟩
  headers := Headers.empty |>.add .contentLength (.ofNat 2)
    |>.add .cookie ⟨octetsOf "a=1", by decide⟩ |>.add .transferEncoding chunkedCoding
    |>.add .cookie ⟨octetsOf "b=2", by decide⟩ |>.add .contentLength (.ofNat 7)
  body := .stream (["\x7b", "", "\x7d"].map String.toUTF8) .complete

theorem Transform.apply_alters_proxied :
    RequestTarget.ofText "http://gateway.example/api/tenants?" = .ok proxiedPost.target ∧
      surface.resolve .post tenantsPath = .ok surfaceRoutes[1] ∧
      ∃ outbound, surfaceRoutes[1].transform.apply (some ⟨"u1"⟩) 2 proxiedPost = .ok outbound ∧
        outbound.target = proxiedPost.target ∧ outbound.headers.all .transferEncoding = [] ∧
        outbound.headers.all .cookie = proxiedPost.headers.all .cookie ∧
        ∃ v, outbound.headers.all .contentLength = [v] ∧
          v.number? = some outbound.body.bytes.size := by
  have ht : RequestTarget.ofText "http://gateway.example/api/tenants?" =
      .ok proxiedPost.target := by rfl
  have hr : surface.resolve .post tenantsPath = .ok surfaceRoutes[1] := by
    rw [Surface.eq_ordered]
    rfl
  obtain ⟨-, -, hasserts⟩ := Transform.apply_alters ht hr (some ⟨"u1"⟩) 2
  obtain ⟨hdone, hrebodied⟩ := (hasserts _ _ rfl).2.2 rfl
  obtain ⟨outbound, hout⟩ := hdone.mpr
    ⟨rfl, by decide +kernel, by decide +kernel, by decide⟩
  obtain ⟨-, htarget, -, hlength, hcoding, hothers⟩ := hrebodied outbound hout
  exact ⟨ht, hr, outbound, hout, htarget, hcoding, hothers .cookie (by decide) (by decide),
    hlength⟩

end Gatehouse
