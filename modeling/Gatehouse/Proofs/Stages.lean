import Gatehouse.Proofs.Body
import Gatehouse.Proofs.Fields
import Gatehouse.Proofs.Rules
import Gatehouse.Proofs.Serve

namespace Gatehouse

namespace Request

variable {r : Request} {limit : Nat} {route : Route} {owner : Option Identity}

theorem route?_eq_some_iff : r.route? = some route ↔
    surface.resolve r.method r.target.path = .ok route := by
  unfold route?
  cases surface.resolve r.method r.target.path <;> simp [Except.toOption]

theorem mem_covering : route ∈ r.covering ↔
    route ∈ surface.routes ∧ route.path.accepts r.target.path :=
  List.mem_filter.trans (and_congr_left fun _ => RouteTable.mem_ofRoutes.symm)

theorem entryRules_of_oversized (h : r.isOversized limit = true) :
    firstApplicable (r.entryRules limit) = some .payloadTooLarge := by
  simp [entryRules, h]

theorem entryRules_of_unrouted (ho : r.isOversized limit = false) {e : NoRoute}
    (he : surface.resolve r.method r.target.path = .error e) :
    firstApplicable (r.entryRules limit) = some (Gateway.NoRoute.failure e) := by
  cases e with
  | path =>
    have hnone : r.covering = [] := List.eq_nil_iff_forall_not_mem.mpr fun route hr => by
      obtain ⟨hmem, haccepts⟩ := mem_covering.mp hr
      simp [RouteTable.resolve_path_iff.mp he route hmem] at haccepts
    simp [entryRules, ho, hnone, Gateway.NoRoute.failure]
  | method =>
    obtain ⟨⟨route, hcovers⟩, hdenies⟩ := RouteTable.resolve_method_iff.mp he
    have hcovering : r.covering.isEmpty = false :=
      List.isEmpty_eq_false_iff_exists_mem.mpr ⟨route, mem_covering.mpr hcovers⟩
    have hnone : r.covering.any (·.methods.allows r.method) = false :=
      List.any_eq_false.mpr fun other hc => by
        obtain ⟨hmem, haccepts⟩ := mem_covering.mp hc
        simp [hdenies other hmem haccepts]
    simp [entryRules, ho, hcovering, hnone, Gateway.NoRoute.failure]

theorem entryRules_of_routed (ho : r.isOversized limit = false) (hr : r.route? = some route) :
    firstApplicable (r.entryRules limit) = none := by
  obtain ⟨hmem, haccepts, hallows⟩ := RouteTable.resolve_ok_inv (route?_eq_some_iff.mp hr)
  have hcovers : route ∈ r.covering := mem_covering.mpr ⟨hmem, haccepts⟩
  have hcovering : r.covering.isEmpty = false :=
    List.isEmpty_eq_false_iff_exists_mem.mpr ⟨route, hcovers⟩
  have hany : r.covering.any (·.methods.allows r.method) = true :=
    List.any_eq_true.mpr ⟨route, hcovers, hallows⟩
  simp [entryRules, ho, hcovering, hany]

theorem IsWhole.fits (hw : r.IsWhole limit) (hs : r.body.bytes.size ≤ limit) :
    (r.withCappedBody limit).body.ending = .complete ∧
      (r.withCappedBody limit).body.bytes = r.body.bytes := by
  have hcap : r.body.bytes.size ≤ min limit (r.declaredLength?.getD limit) := by
    cases hd : r.declaredLength? with
    | none => simpa using hs
    | some n => simp [hw.declared n hd, hs]
  exact ⟨(Body.cap_of_le hcap).2.trans hw.ends, Body.bytes_cap_of_le hcap⟩

theorem IsWhole.exceeds (hw : r.IsWhole limit) (ho : r.isOversized limit = false)
    (hs : limit < r.body.bytes.size) : (r.withCappedBody limit).body.ending = .overLimit := by
  have hundeclared : r.declaredLength? = none := by
    cases hd : r.declaredLength? with
    | none => rfl
    | some n =>
      rw [hw.declared n hd] at hd
      simp [isOversized, hd, hs] at ho
  refine Body.cap_of_lt ?_
  simpa [hundeclared] using hs

theorem IsWhole.collect (hw : r.IsWhole limit) (ho : r.isOversized limit = false) :
    (r.withCappedBody limit).body.collect limit =
      if r.body.bytes.size ≤ limit then .ok r.body.bytes else .error .overLimit := by
  by_cases hs : r.body.bytes.size ≤ limit
  · obtain ⟨hends, hbytes⟩ := hw.fits hs
    rw [if_pos hs, Body.collect_of_complete hends, hbytes, if_pos hs]
  · rw [if_neg hs, Body.collect_of_overLimit (hw.exceeds ho (Nat.lt_of_not_le hs))]

theorem IsWhole.identified (hw : r.IsWhole limit) (fresh : HeaderValue) :
    (r.identified fresh).IsWhole limit := by
  unfold Request.identified
  split
  · exact hw
  · obtain ⟨hread, hends, hdeclared, hstreamed⟩ := hw
    refine ⟨hread, hends, fun n hn => hdeclared n ?_, hstreamed⟩
    have hfirst : (r.headers.add .requestId fresh).first? .contentLength =
        r.headers.first? .contentLength := by
      rw [Headers.first?, Headers.all_add_of_ne _ (by decide)]
      rfl
    simpa [declaredLength?, Headers.text?, hfirst] using hn

theorem postsTenant_iff :
    r.postsTenant = true ↔ r.target.path = tenantsPath ∧ r.method = .post := by
  simp [postsTenant]

theorem listsTenants_iff :
    r.listsTenants = true ↔ r.target.path = tenantsPath ∧ r.method = .get := by
  simp [listsTenants]

theorem tenantRules_of_path_ne (hpath : r.target.path ≠ tenantsPath) :
    firstApplicable (r.tenantRules limit owner) = none := by
  simp [tenantRules, postsTenant, listsTenants, hpath]

theorem tenantRules_of_posts (h : r.postsTenant = true) :
    firstApplicable (r.tenantRules limit owner) =
      if limit < r.body.bytes.size then some .payloadTooLarge
      else if (Json.objectOfBytes? r.body.bytes).isNone then some .invalidPayload
      else if owner.isNone then some .identityUnavailable else none := by
  have hlists : r.listsTenants = false := by
    rw [listsTenants, (postsTenant_iff.mp h).2]
    exact Bool.and_false _
  simp [tenantRules, h, hlists, firstApplicable_cons]

theorem tenantRules_of_lists (h : r.listsTenants = true) :
    firstApplicable (r.tenantRules limit owner) =
      if !owner.any Identity.isPathSafe then some .identityUnavailable
      else if owner.any r.outgrows then some .internal else none := by
  have hposts : r.postsTenant = false := by
    rw [postsTenant, (listsTenants_iff.mp h).2]
    exact Bool.and_false _
  simp [tenantRules, h, hposts, firstApplicable_cons]

/--
Whether the request that is sent on is made, with a body that did not exceed the limit, or fails as
the first rule says that applies.
-/
def Makes (r : Request) (limit : Nat) (route : Route) (owner : Option Identity)
    (made : Except Failure Request) : Prop :=
  match firstApplicable (r.tenantRules limit owner) with
  | some f => made = .error f
  | none => ∃ outbound, made = .ok outbound ∧
    (route.target ≠ .monitoring → outbound.body.ending ≠ .overLimit)

theorem IsWhole.ending (hw : r.IsWhole limit) (hr : r.route? = some route)
    (hstreams : route.transform.readsBody r.method = false) (hm : route.target ≠ .monitoring) :
    (r.withCappedBody limit).body.ending ≠ .overLimit := by
  have hs := hw.streamed route hr (by simp [Route.streamsBody, hstreams, hm])
  rw [(hw.fits hs).1]
  decide

theorem makes_elsewhere (hw : r.IsWhole limit) (hr : r.route? = some route)
    (hpath : r.target.path ≠ tenantsPath) :
    r.Makes limit route owner (route.transform.apply owner limit (r.withCappedBody limit)) := by
  unfold Makes
  rw [tenantRules_of_path_ne hpath]
  rcases Surface.transform_cases (route?_eq_some_iff.mp hr) hpath with
    ht | ⟨old, new, ht, hshort, hstart⟩
  · have hstreams : route.transform.readsBody r.method = false := by rw [ht]; rfl
    exact ⟨r.withCappedBody limit, by rw [ht]; rfl, hw.ending hr hstreams⟩
  · have hstreams : route.transform.readsBody r.method = false := by rw [ht]; rfl
    obtain ⟨text, htext⟩ := hw.read
    obtain ⟨rest, hrest⟩ := exists_rest hstart
    have happly : (Transform.replaceStart old new).apply owner limit (r.withCappedBody limit) =
        .ok ((r.withCappedBody limit).movedTo (new ++ rest)) :=
      Transform.replaceStart_moves htext hrest hshort
    rw [ht]
    exact ⟨_, happly, hw.ending hr hstreams⟩

theorem route?_eq_tenants (hr : r.route? = some route) (hpath : r.target.path = tenantsPath) :
    route = surfaceRoutes[1] := by
  obtain ⟨hmem, haccepts, _⟩ := Surface.resolve_ok_inv (route?_eq_some_iff.mp hr)
  exact Surface.tenants_of_accepts route hmem (hpath ▸ haccepts)

theorem tenants_method (hm : r.method ≠ .options) (hr : r.route? = some route)
    (hpath : r.target.path = tenantsPath) : r.listsTenants = true ∨ r.postsTenant = true := by
  obtain ⟨_, _, hallows⟩ := Surface.resolve_ok_inv (route?_eq_some_iff.mp hr)
  rw [route?_eq_tenants hr hpath] at hallows
  have hmem : r.method ∈ [Method.get, .post, .options] := List.contains_iff_mem.mp hallows
  simpa [hm, listsTenants, postsTenant, hpath] using hmem

/-- The owner of a session is looked up for requests for tenants, and only for these. -/
theorem needsIdentity_eq (hm : r.method ≠ .options) (hr : r.route? = some route) :
    route.transform.needsIdentity r.method = (r.postsTenant || r.listsTenants) := by
  by_cases hpath : r.target.path = tenantsPath
  · have hmethod := tenants_method hm hr hpath
    obtain rfl := route?_eq_tenants hr hpath
    rcases hmethod with hlists | hposts
    · rw [hlists, Bool.or_true, (listsTenants_iff.mp hlists).2]
      rfl
    · rw [hposts, Bool.true_or, (postsTenant_iff.mp hposts).2]
      rfl
  · have hnone : (r.postsTenant || r.listsTenants) = false := by
      simp [postsTenant, listsTenants, hpath]
    rw [hnone]
    rcases Surface.transform_cases (route?_eq_some_iff.mp hr) hpath with ht | ⟨_, _, ht, _, _⟩
    · rw [ht]; rfl
    · rw [ht]; rfl

theorem makes_listed (hw : r.IsWhole limit) (hr : r.route? = some route)
    (hlists : r.listsTenants = true) :
    r.Makes limit route owner (route.transform.apply owner limit (r.withCappedBody limit)) := by
  obtain ⟨hpath, hm⟩ := listsTenants_iff.mp hlists
  have hstreams : route.transform.readsBody r.method = false := by
    rw [route?_eq_tenants hr hpath, hm]
    rfl
  have hends := hw.ending hr hstreams
  obtain rfl := route?_eq_tenants hr hpath
  obtain ⟨text, htext⟩ := hw.read
  have hplace := RequestTarget.pathAndQuery?_of_path (t := r.target) (hpath ▸ by decide)
  have ht : surfaceRoutes[1].transform =
    .assertIdentity "firebase_uid" (some "/api/user/\x7bidentity\x7d/tenants") := rfl
  unfold Makes
  rw [ht, Transform.apply_scoped (r := r.withCappedBody limit) hm, tenantRules_of_lists hlists]
  by_cases hsafe : owner.any Identity.isPathSafe = true
  · obtain ⟨id, rfl, hid⟩ := (Option.any_eq_true _ _).mp hsafe
    rw [scoped_of_safe (r := r.withCappedBody limit) htext hplace hid]
    by_cases hlong : r.outgrows id = true
    · have htoo := hlong
      rw [outgrows, decide_eq_true_eq] at htoo
      simp only [Option.any_some, hid, hlong, Bool.not_true, Bool.false_eq_true, if_false, if_true]
      exact if_pos htoo
    · have hfits := hlong
      rw [outgrows, decide_eq_true_eq] at hfits
      simp only [Option.any_some, hid, hlong, Bool.not_true, Bool.false_eq_true, if_false]
      exact ⟨_, if_neg hfits, hends⟩
  · rw [Bool.not_eq_true] at hsafe
    rw [scoped_unplaced _ hsafe, hsafe]
    rfl

theorem makes_posted (hw : r.IsWhole limit) (ho : r.isOversized limit = false)
    (hr : r.route? = some route) (hposts : r.postsTenant = true) :
    r.Makes limit route owner (route.transform.apply owner limit (r.withCappedBody limit)) := by
  obtain ⟨hpath, hm⟩ := postsTenant_iff.mp hposts
  obtain rfl := route?_eq_tenants hr hpath
  have hreads : surfaceRoutes[1].transform.readsBody r.method = true := by
    rw [hm]
    rfl
  have happly : surfaceRoutes[1].transform.apply owner limit (r.withCappedBody limit) =
      (r.withCappedBody limit).withAssertedBody "firebase_uid" owner limit :=
    Transform.apply_asserted hreads
  unfold Makes
  rw [happly, tenantRules_of_posts hposts]
  by_cases hs : r.body.bytes.size ≤ limit
  · have hread : (r.withCappedBody limit).body.collect limit = .ok r.body.bytes := by
      rw [hw.collect ho, if_pos hs]
    rw [withAssertedBody_of_ok hread, if_neg (Nat.not_lt.mpr hs)]
    unfold Gatehouse.assertIdentity
    cases Json.objectOfBytes? r.body.bytes with
    | none => rfl
    | some members =>
      cases owner with
      | none => rfl
      | some id => exact ⟨_, rfl, fun _ => nofun⟩
  · have hread : (r.withCappedBody limit).body.collect limit = .error .overLimit := by
      rw [hw.collect ho, if_neg hs]
    rw [withAssertedBody_of_error hread, if_pos (Nat.lt_of_not_le hs)]
    rfl

theorem IsWhole.makes (hw : r.IsWhole limit) (hm : r.method ≠ .options)
    (ho : r.isOversized limit = false) (hr : r.route? = some route) (owner : Option Identity) :
    r.Makes limit route owner (route.transform.apply owner limit (r.withCappedBody limit)) := by
  by_cases hpath : r.target.path = tenantsPath
  · rcases tenants_method hm hr hpath with hlists | hposts
    · exact makes_listed hw hr hlists
    · exact makes_posted hw ho hr hposts
  · exact makes_elsewhere hw hr hpath

end Request

end Gatehouse
