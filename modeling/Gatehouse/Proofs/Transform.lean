import Gatehouse.Route.Outbound

namespace Gatehouse

theorem RequestTarget.withPath_error {t : RequestTarget} {path : String} {f : Failure}
    (h : t.withPath path = .error f) : f = .internal := by
  unfold withPath at h
  dsimp only at h
  split at h <;> cases h
  rfl

theorem Request.scoped_error {r : Request} {template : String} {id : Option Identity} {f : Failure}
    (h : r.scoped template id = .error f) : f = .identityUnavailable ∨ f = .internal := by
  unfold Request.scoped at h
  cases id with
  | none => cases h; exact Or.inl rfl
  | some owner =>
    dsimp only at h
    cases hp : owner.scopedPath? template with
    | none => rw [hp] at h; cases h; exact Or.inl rfl
    | some path =>
      rw [hp] at h
      dsimp only at h
      cases ht : r.target.withPath path with
      | error f' =>
        rw [ht] at h
        cases h
        exact Or.inr (RequestTarget.withPath_error ht)
      | ok target => rw [ht] at h; cases h

theorem Request.scoped_ok_inv {r outbound : Request} {template : String} {id : Option Identity}
    (h : r.scoped template id = .ok outbound) :
    ∃ owner path, id = some owner ∧ owner.scopedPath? template = some path ∧
      r.target.withPath path = .ok outbound.target ∧
      outbound = { r with target := outbound.target } := by
  unfold Request.scoped at h
  cases id with
  | none => cases h
  | some owner =>
    dsimp only at h
    cases hp : owner.scopedPath? template with
    | none => rw [hp] at h; cases h
    | some path =>
      rw [hp] at h
      dsimp only at h
      cases ht : r.target.withPath path with
      | error f => rw [ht] at h; cases h
      | ok target =>
        rw [ht] at h
        cases Except.ok.inj h
        exact ⟨owner, path, rfl, hp, ht, rfl⟩

theorem assertIdentity_error {field : String} {id : Option Identity} {body : ByteArray}
    {f : Failure} (h : assertIdentity field id body = .error f) :
    f = .invalidPayload ∨ f = .identityUnavailable := by
  unfold assertIdentity at h
  split at h
  · cases h; exact Or.inl rfl
  · split at h <;> cases h
    exact Or.inr rfl

theorem assertIdentity_ok_inv {field : String} {id : Option Identity} {body asserted : ByteArray}
    (h : assertIdentity field id body = .ok asserted) :
    ∃ owner members, id = some owner ∧ Json.objectOfBytes? body = some members ∧
      asserted = (Json.object (members.insert field (.string owner.text))).bytes := by
  unfold assertIdentity at h
  split at h
  · cases h
  next members ho =>
    split at h <;> cases h
    exact ⟨_, members, rfl, ho, rfl⟩

theorem Request.withAssertedBody_of_error {r : Request} {field : String} {id : Option Identity}
    {limit : Nat} {fault : ReadFault} (h : r.body.collect limit = .error fault) :
    r.withAssertedBody field id limit = .error fault.failure := by
  unfold withAssertedBody
  rw [h]
  rfl

theorem Request.withAssertedBody_of_ok {r : Request} {field : String} {id : Option Identity}
    {limit : Nat} {body : ByteArray} (h : r.body.collect limit = .ok body) :
    r.withAssertedBody field id limit = (assertIdentity field id body).map fun asserted =>
      { r with
        headers := (r.headers.set .contentLength (.ofNat asserted.size)).remove .transferEncoding
        body := .whole asserted } := by
  unfold withAssertedBody
  rw [h]
  change (assertIdentity field id body >>= _) = _
  cases assertIdentity field id body <;> rfl

theorem Request.withAssertedBody_ok_inv {r outbound : Request} {field : String}
    {id : Option Identity} {limit : Nat} (h : r.withAssertedBody field id limit = .ok outbound) :
    ∃ owner body members, id = some owner ∧ r.body.collect limit = .ok body ∧
      Json.objectOfBytes? body = some members ∧
      let asserted := (Json.object (members.insert field (.string owner.text))).bytes
      outbound = { r with
        headers := (r.headers.set .contentLength (.ofNat asserted.size)).remove .transferEncoding
        body := .whole asserted } := by
  cases hc : r.body.collect limit with
  | error fault =>
    rw [withAssertedBody_of_error hc] at h
    cases h
  | ok body =>
    rw [withAssertedBody_of_ok hc] at h
    cases ha : Gatehouse.assertIdentity field id body with
    | error f =>
      rw [ha] at h
      cases h
    | ok asserted =>
      rw [ha] at h
      obtain ⟨owner, members, hid, ho, rfl⟩ := assertIdentity_ok_inv ha
      exact ⟨owner, body, members, hid, rfl, ho, (Except.ok.inj h).symm⟩

namespace Transform

variable {id : Option Identity} {limit : Nat} {r : Request}

theorem apply_replaceStart (old new : String) (id : Option Identity) (limit : Nat) (r : Request) :
    (Transform.replaceStart old new).apply id limit r =
      (r.target.withPath (Gatehouse.replaceStart old new r.target.path)).map fun target =>
        { r with target } := by
  unfold apply
  cases ht : r.target.withPath (Gatehouse.replaceStart old new r.target.path) <;>
    simp [ht, bind, Except.bind, Except.map, pure, Except.pure]

theorem apply_scoped (hm : r.method = .get) (field template : String) :
    (Transform.assertIdentity field (some template)).apply id limit r = r.scoped template id := by
  simp [apply, hm]

theorem apply_asserted {field : String} {scopedPath : Option String}
    (hb : (Transform.assertIdentity field scopedPath).readsBody r.method = true) :
    (Transform.assertIdentity field scopedPath).apply id limit r =
      r.withAssertedBody field id limit := by
  simp only [readsBody, Bool.and_eq_true, decide_eq_true_eq] at hb
  simp [apply, hb.1, hb.2]

theorem apply_unasserted {field : String} {scopedPath : Option String}
    (hn : (Transform.assertIdentity field scopedPath).needsIdentity r.method = false) :
    (Transform.assertIdentity field scopedPath).apply id limit r = .ok r := by
  by_cases hm : r.method = .get
  · have hnone : scopedPath = none := by simpa [needsIdentity, hm] using hn
    simp [apply, hm, hnone]
  · have hbody : r.method.carriesBody = false := by simpa [needsIdentity, hm] using hn
    simp [apply, hm, hbody]

/-- A transform that has to know the caller does nothing for an unknown one. -/
theorem apply_of_needsIdentity {t : Transform} (hn : t.needsIdentity r.method = true) :
    ∃ f, t.apply none limit r = .error f := by
  cases t with
  | keep => cases hn
  | replaceStart => cases hn
  | assertIdentity field scopedPath =>
    unfold needsIdentity at hn
    by_cases hm : r.method = .get
    · cases scopedPath with
      | none => simp [hm] at hn
      | some template => exact ⟨_, apply_scoped hm field template⟩
    · have hb : (Transform.assertIdentity field scopedPath).readsBody r.method = true := by
        simpa [readsBody, hm] using hn
      rw [apply_asserted hb]
      cases hc : r.body.collect limit with
      | error fault => exact ⟨_, Request.withAssertedBody_of_error hc⟩
      | ok body =>
        rw [Request.withAssertedBody_of_ok hc]
        unfold Gatehouse.assertIdentity
        cases Json.objectOfBytes? body <;> exact ⟨_, rfl⟩

/-- The request that each transform leaves, with what it takes for the transform to be done. -/
inductive Yields (id : Option Identity) (limit : Nat) (r : Request) :
    Transform → Request → Prop where
  | kept : Yields id limit r .keep r
  | moved {old new : String} {target : RequestTarget}
      (ht : r.target.withPath (Gatehouse.replaceStart old new r.target.path) = .ok target) :
      Yields id limit r (.replaceStart old new) { r with target }
  | owned {field template path : String} {owner : Identity} {target : RequestTarget}
      (hm : r.method = .get) (hid : id = some owner) (hp : owner.scopedPath? template = some path)
      (ht : r.target.withPath path = .ok target) :
      Yields id limit r (.assertIdentity field (some template)) { r with target }
  | unasserted {field : String} {scopedPath : Option String}
      (hn : (Transform.assertIdentity field scopedPath).needsIdentity r.method = false) :
      Yields id limit r (.assertIdentity field scopedPath) r
  | asserted {field : String} {scopedPath : Option String} {owner : Identity} {body : ByteArray}
      {members : Members}
      (hb : (Transform.assertIdentity field scopedPath).readsBody r.method = true)
      (hid : id = some owner) (hc : r.body.collect limit = .ok body)
      (ho : Json.objectOfBytes? body = some members) {asserted : ByteArray}
      (ha : asserted = (Json.object (members.insert field (.string owner.text))).bytes) :
      Yields id limit r (.assertIdentity field scopedPath)
        { r with
          headers := (r.headers.set .contentLength (.ofNat asserted.size)).remove .transferEncoding
          body := .whole asserted }

theorem apply_yields {t : Transform} {outbound : Request}
    (h : t.apply id limit r = .ok outbound) : t.Yields id limit r outbound := by
  cases t with
  | keep =>
    cases Except.ok.inj h
    exact .kept
  | replaceStart old new =>
    rw [apply_replaceStart] at h
    cases ht : r.target.withPath (Gatehouse.replaceStart old new r.target.path) with
    | error f =>
      rw [ht] at h
      cases h
    | ok target =>
      rw [ht] at h
      cases Except.ok.inj h
      exact .moved ht
  | assertIdentity field scopedPath =>
    by_cases hn : (Transform.assertIdentity field scopedPath).needsIdentity r.method = true
    · by_cases hm : r.method = .get
      · cases scopedPath with
        | none => simp [needsIdentity, hm] at hn
        | some template =>
          rw [apply_scoped hm] at h
          obtain ⟨owner, path, hid, hp, ht, hrest⟩ := Request.scoped_ok_inv h
          rw [hrest]
          exact .owned hm hid hp ht
      · have hb : (Transform.assertIdentity field scopedPath).readsBody r.method = true := by
          simpa [needsIdentity, readsBody, hm] using hn
        rw [apply_asserted hb] at h
        obtain ⟨owner, body, members, hid, hc, ho, hrest⟩ := Request.withAssertedBody_ok_inv h
        rw [hrest]
        exact .asserted hb hid hc ho rfl
    · have hn : (Transform.assertIdentity field scopedPath).needsIdentity r.method = false := by
        simpa using hn
      rw [apply_unasserted hn] at h
      cases Except.ok.inj h
      exact .unasserted hn

/-- A transform leaves the target as it is or puts another path in the place of its own. -/
theorem apply_target {t : Transform} {outbound : Request} (h : t.apply id limit r = .ok outbound) :
    outbound.target = r.target ∨
      (∃ old new, t = .replaceStart old new ∧
        r.target.withPath (Gatehouse.replaceStart old new r.target.path) = .ok outbound.target) ∨
      ∃ (owner : Identity) (field template path : String),
        t = .assertIdentity field (some template) ∧ owner.scopedPath? template = some path ∧
        r.target.withPath path = .ok outbound.target := by
  cases apply_yields h with
  | kept | unasserted | asserted => exact Or.inl rfl
  | moved ht => exact Or.inr (Or.inl ⟨_, _, rfl, ht⟩)
  | owned _ _ hp ht => exact Or.inr (Or.inr ⟨_, _, _, _, rfl, hp, ht⟩)

/-- A transform waits in vain just for a body that it reads and that stalls. -/
theorem apply_requestTimeout_iff {t : Transform} : t.apply id limit r = .error .requestTimeout ↔
    t.readsBody r.method = true ∧ r.body.collect limit = .error .stalled := by
  cases t with
  | keep => simp [apply, readsBody]
  | replaceStart old new =>
    rw [apply_replaceStart]
    cases ht : r.target.withPath (Gatehouse.replaceStart old new r.target.path) with
    | error f => simp [RequestTarget.withPath_error ht, Except.map, readsBody]
    | ok target => simp [Except.map, readsBody]
  | assertIdentity field scopedPath =>
    by_cases hb : (Transform.assertIdentity field scopedPath).readsBody r.method = true
    · rw [apply_asserted hb, hb]
      cases hc : r.body.collect limit with
      | error fault =>
        rw [Request.withAssertedBody_of_error hc]
        cases fault <;> simp [ReadFault.failure]
      | ok body =>
        rw [Request.withAssertedBody_of_ok hc]
        cases ha : Gatehouse.assertIdentity field id body with
        | error f => rcases assertIdentity_error ha with rfl | rfl <;> simp [Except.map]
        | ok asserted => simp [Except.map]
    · refine ⟨fun h => ?_, fun h => absurd h.1 hb⟩
      simp only [readsBody, Bool.and_eq_true, decide_eq_true_eq, not_and] at hb
      unfold apply at h
      dsimp only at h
      split at h
      · split at h
        · cases h
        · rcases Request.scoped_error h with hf | hf <;> cases hf
      next hm => simp [hb hm] at h

end Transform

end Gatehouse
