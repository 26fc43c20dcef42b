import Gatehouse.Proofs.DotPieces
import Gatehouse.Proofs.Members
import Gatehouse.Proofs.Onward

namespace Gatehouse

section Paths

variable {path : String}

theorem withoutDots_ne_of_front {front more : List (List Char)}
    (h : pieces '/' path.toList = [] :: (front ++ more))
    (hfront : ∀ piece ∈ front, isDotPiece piece = false) (hback : ['.', '.'] ∉ more)
    {other : String} (hne : ¬joinWith ['/'] ([] :: front) <+: other.toList) :
    withoutDots path ≠ other := by
  rintro rfl
  exact hne (prefix_withoutDots h hfront hback)

/-- A single tenant's path never comes to that of all tenants. -/
theorem withoutDots_tenant
    (h : (PathPattern.template "/api/tenants/\x7bid\x7d").accepts path) :
    withoutDots path ≠ tenantsPath := by
  have hsegments : templateSegments "/api/tenants/\x7bid\x7d" =
      ["", "api", "tenants"].map Segment.literal ++ [.param] := by decide
  unfold PathPattern.accepts at h
  dsimp only at h
  rw [hsegments] at h
  obtain ⟨rest, hpieces, hrest⟩ := segmentsAccept_literals_inv h
  obtain ⟨p, more, rfl, -, hmore⟩ := segmentsAccept_cons_inv hrest
  obtain rfl : more = [] := by
    cases more with
    | nil => rfl
    | cons => cases hmore
  intro he
  by_cases hdot : isDotPiece p = true
  · have htext : tenantsPath.toList = _ := he ▸ withoutDots_of_pieces hpieces
    have hcases : p = ['.', '.'] ∨ p = ['.'] := by simpa [isDotPiece] using hdot
    rcases hcases with rfl | rfl <;> exact absurd htext (by decide)
  · have hfront : ∀ piece ∈ ["", "api", "tenants"].map String.toList,
        isDotPiece piece = false := by decide
    have hnoDots : ∀ piece ∈ pieces '/' path.toList, isDotPiece piece = false := by
      intro piece hmem
      rw [hpieces] at hmem
      rcases List.mem_append.mp hmem with hmem | hmem
      · exact hfront piece hmem
      · rw [List.mem_singleton.mp hmem]
        simpa using hdot
    rw [withoutDots_of_noDots hnoDots] at he
    have hthree : (pieces '/' tenantsPath.toList).length = 3 := by decide
    rw [← he, hpieces] at hthree
    cases hthree

/-- Nor does the path that an identity has to itself. -/
theorem Identity.withoutDots_collection {id : Identity} (hsafe : id.isPathSafe) :
    withoutDots id.collection ≠ tenantsPath := by
  simp only [isPathSafe, Bool.and_eq_true, List.all_eq_true] at hsafe
  have hslash : '/' ∉ id.text.toList := fun hmem => absurd (hsafe.1 '/' hmem) (by decide)
  have hdots : id.text.toList ≠ ['.', '.'] := fun he => by simp [he] at hsafe
  have hshape : id.collection.toList = [] ++ '/' :: ("api".toList ++ '/' :: ("user".toList ++
      '/' :: (id.text.toList ++ '/' :: "tenants".toList))) := toList_collection id
  have hpieces : pieces '/' id.collection.toList =
      [] :: (["api".toList, "user".toList] ++ [id.text.toList, "tenants".toList]) := by
    rw [hshape, pieces_append_cons, pieces_append_cons, pieces_append_cons, pieces_append_cons,
      pieces_of_not_mem hslash]
    rfl
  refine withoutDots_ne_of_front hpieces (by decide) (fun hmem => ?_) (by decide)
  rcases List.mem_pair.mp hmem with he | he
  · exact hdots he.symm
  · exact absurd he (by decide)

/-- Nor, without a step back, does any path below that of the keys. -/
theorem withoutDots_keys (h : (PathPattern.leading "/api/apikeys").accepts path)
    (hback : ['.', '.'] ∉ pieces '/' path.toList) : withoutDots path ≠ tenantsPath := by
  obtain ⟨rest, hrest⟩ := List.isPrefixOf_iff_prefix.mp h
  obtain ⟨piece, more, hm⟩ := List.exists_cons_of_ne_nil (pieces_ne_nil '/' rest)
  have hshape : path.toList = [] ++ '/' :: ("api".toList ++ '/' :: ("apikeys".toList ++ rest)) :=
    hrest.symm
  have hpieces : pieces '/' path.toList =
      [] :: (["api".toList, "apikeys".toList ++ piece] ++ more) := by
    rw [hshape, pieces_append_cons, pieces_append_cons,
      pieces_append_of_not_mem (by decide) hm]
    rfl
  rw [hpieces] at hback
  refine withoutDots_ne_of_front hpieces (fun p hp => ?_)
    (fun hmem => hback (by simp [hmem])) ?_
  · rcases List.mem_pair.mp hp with rfl | rfl
    · decide
    · rfl
  · intro hprefix
    have hstem : "/api/apikeys".toList <+:
        joinWith ['/'] [[], "api".toList, "apikeys".toList ++ piece] := ⟨piece, rfl⟩
    exact absurd (hstem.trans hprefix) (by decide)

end Paths

theorem Identity.path_of_withPath {id : Identity} (hsafe : id.isPathSafe)
    {t t' : RequestTarget} (h : t.withPath id.collection = .ok t') :
    t'.forwarded.path = id.collection := by
  have hroot : (PathAndQuery.mk "/" none).IsLegal :=
    ⟨List.all_eq_true.mp (by decide), fun q hq => by cases hq⟩
  refine RequestTarget.path_of_withPath (Identity.collection_isLegal hsafe hroot).path ?_ h
  rw [toList_collection, List.head?_append]
  rfl

/-- Whether a body is that of an object that binds a name to a text and to nothing else. -/
def Body.Binds (b : Body) (name text : String) : Prop :=
  ∃ members : Members, b = .whole (Json.object members).bytes ∧
    members.get? name = some (.string text) ∧ ∀ v, (name, v) ∈ members → v = .string text

theorem Body.binds_insert {members : Members} (h : members.IsSorted) (name text : String) :
    (Body.whole (Json.object (members.insert name (.string text))).bytes).Binds name text := by
  have hget := Members.get?_insert_self name (.string text) members
  refine ⟨_, rfl, hget, fun v hv => ?_⟩
  have hv := (h.insert name (.string text)).get?_of_mem hv
  exact Option.some.inj (hv.symm.trans hget)

/-- The name under which the backend reads whose a tenant is. -/
def ownerField : String := "firebase_uid"

/-- The owner that a body names, if it can be read. -/
def Body.namedOwner? (b : Body) : Option String :=
  match (Json.objectOfBytes? b.bytes).bind (Members.get? ownerField) with
  | some (.string text) => some text
  | _ => none

namespace Surface

theorem backend_cases : ∀ route ∈ surfaceRoutes, route.target = .backend →
    route = surfaceRoutes[1] ∨ route = surfaceRoutes[2] ∨ route = surfaceRoutes[3] := by
  decide

theorem forwarded_path {m : Method} {t : RequestTarget} {route : Route}
    (h : surface.resolve m t.path = .ok route) : t.forwarded.path = t.path := by
  obtain ⟨hmem, haccepts, -⟩ := resolve_ok_inv h
  rw [RequestTarget.forwarded_of_path (path_ne_empty hmem haccepts)]

variable {r outbound : Request} {route : Route} {owner : Option Identity} {limit : Nat}

/-- Of the tenants' own requests, that which makes a tenant is the one that keeps their path. -/
theorem tenants_yields (hm : r.method ≠ .options)
    (hallows : (surfaceRoutes[1]).methods.allows r.method)
    (hy : (surfaceRoutes[1]).transform.Yields owner limit r outbound)
    (hpath : withoutDots outbound.target.forwarded.path = tenantsPath) :
    r.method = .post ∧ outbound.method = .post ∧
      ∃ id, owner = some id ∧ outbound.body.Binds ownerField id.text := by
  have hmethods : r.method = .get ∨ r.method = .post := by
    have hlisted : r.method ∈ [Method.get, .post, .options] := by
      simpa [MethodSet.allows, surfaceRoutes] using hallows
    simp only [List.mem_cons, List.not_mem_nil, or_false] at hlisted
    rcases hlisted with h | h | h
    · exact Or.inl h
    · exact Or.inr h
    · exact absurd h hm
  cases hy with
  | owned _ _ hp ht =>
    rw [Identity.scopedPath?_eq] at hp
    split at hp <;> cases hp
    next hsafe =>
      rw [Identity.path_of_withPath hsafe ht] at hpath
      exact absurd hpath (Identity.withoutDots_collection hsafe)
  | unasserted hn =>
    rcases hmethods with h | h <;> rw [h] at hn <;> cases hn
  | @asserted _ _ id _ members hb hid _ ho _ ha =>
    have hpost : r.method = .post := by
      rcases hmethods with h | h
      · rw [h] at hb
        cases hb
      · exact h
    refine ⟨hpost, hpost, id, hid, ?_⟩
    rw [ha]
    exact Body.binds_insert (Json.objectOfBytes?_isSorted ho) ownerField id.text

/--
What is sent on for the tenants' path is the making of a tenant for the owner of the session, or a
request below the path of the keys as it came.
-/
theorem yields_tenants (hm : r.method ≠ .options)
    (hr : surface.resolve r.method r.target.path = .ok route) (hwho : route.target = .backend)
    (hy : route.transform.Yields owner limit r outbound)
    (hpath : withoutDots outbound.target.forwarded.path = tenantsPath) :
    (r.target.path = tenantsPath ∧ r.method = .post ∧ outbound.method = .post ∧
        ∃ id, owner = some id ∧ outbound.body.Binds ownerField id.text) ∨
      ("/api/apikeys".toList <+: r.target.path.toList ∧
        ['.', '.'] ∈ pieces '/' r.target.path.toList ∧ outbound = r) := by
  have hsame := forwarded_path hr
  obtain ⟨hmem, haccepts, hallows⟩ := resolve_ok_inv hr
  rcases backend_cases route hmem hwho with rfl | rfl | rfl
  · exact Or.inl ⟨of_decide_eq_true haccepts, tenants_yields hm hallows hy hpath⟩
  · cases hy
    rw [hsame] at hpath
    exact absurd hpath (withoutDots_tenant haccepts)
  · cases hy
    rw [hsame] at hpath
    refine Or.inr ⟨List.isPrefixOf_iff_prefix.mp haccepts, ?_, rfl⟩
    exact not_imp_comm.mp (withoutDots_keys haccepts) (not_not.mpr hpath)

end Surface

namespace Gateway

variable {g : Gateway} {σ : Type} {a : Arrival}

/--
What the backend is asked for under the tenants' path, with dot pieces settled, is the making of a
tenant for the owner of the session, whom the auth service named before, or it is what a client
asked for below the path of the keys by a step back, in the client's own words.
-/
theorem serve_tenants (g : Gateway) (hg : g.routes = surface) (a : Arrival)
    (answer : σ → Call → Outcome × σ) (s : σ) :
    let r := a.request.identified a.freshId
    let run := (g.serve a).run answer s
    ∀ x ∈ run.asked, x.1.collaborator = .backend →
      withoutDots x.1.target.path = tenantsPath →
      (r.target.path = tenantsPath ∧ x.1.method = .post ∧
          ∃ id, g.NamesOwner r run.asked x (some id) ∧ x.1.body.Binds ownerField id.text) ∨
        ("/api/apikeys".toList <+: r.target.path.toList ∧
          ['.', '.'] ∈ pieces '/' r.target.path.toList ∧ x.1.method = r.method ∧
          x.1.target.path = r.target.path ∧ x.1.body = (r.withCappedBody g.bodyLimit).body) := by
  intro r run x hx hwho hpath
  obtain ⟨route, hr⟩ := reaches_of_asked answer s hx
  have htarget : x.1.collaborator = route.target :=
    target_of_asked answer s hr hx (by simp [hwho])
  have hbackend : route.target = .backend := htarget.symm.trans hwho
  obtain ⟨owner, outbound, howner, hmade, hcall⟩ :=
    asked_onward answer s (fun _ => by simp [hbackend]) hr hx htarget
  rw [onwardCall_of_ne (by simp [hbackend])] at hcall
  obtain ⟨-, hplace, -⟩ := Call.of_timeless_eq hcall
  obtain ⟨hmethod, hbody⟩ := Call.sent_of_timeless_eq hcall
  have hforwarded : outbound.target.forwarded.path = x.1.target.path :=
    congrArg RequestTarget.path hplace
  rw [← hforwarded] at hpath ⊢
  rw [← hmethod, ← hbody]
  rcases Surface.yields_tenants (r := r.withCappedBody g.bodyLimit) hr.request (hg ▸ hr.found)
    hbackend (Transform.apply_yields hmade) hpath with
    ⟨hplace, -, hpost, id, rfl, hbinds⟩ | ⟨hstem, hback, rfl⟩
  · rcases howner with hnone | hnames
    · cases hnone
    · exact Or.inl ⟨hplace, hpost, id, hnames, hbinds⟩
  · exact Or.inr ⟨hstem, hback, rfl, Surface.forwarded_path (hg ▸ hr.found), rfl⟩

/-- A request that wants to make a tenant for somebody, whoever sends it. -/
def pretendingArrival (path : String) : Arrival :=
  let a := sampleArrival path
  let body := Body.whole (Json.object [(ownerField, .string "victim")]).bytes
  { a with request := { a.request with method := .post, body } }

/-- What the auth service says of a session of its own. -/
def ownedReply : Outcome :=
  .reply ⟨.ok, .empty, .whole (Json.object [("uid", .string "u1")]).bytes⟩ 0

theorem serve_tenants_pretended :
    (sample 60000).routes = surface ∧
      let run := ((sample 60000).serve (pretendingArrival tenantsPath)).run Outcome.scripted
        [ownedReply, ownedReply]
      run.asked.map (·.1.collaborator) = [.auth, .auth, .backend] ∧
        ∀ x ∈ run.asked, x.1.collaborator = .backend → x.1.body.Binds ownerField "u1" := by
  refine ⟨Surface.eq_ordered.symm, ?_⟩
  intro run
  refine ⟨by decide +kernel, fun x hx hwho => ?_⟩
  have hpath : ∀ x ∈ run.asked, x.1.collaborator = .backend →
      withoutDots x.1.target.path = tenantsPath := by decide +kernel
  have howners : ∀ x ∈ run.asked, x.2.owner? = none ∨ x.2.owner? = some ⟨"u1"⟩ := by
    decide +kernel
  rcases serve_tenants (sample 60000) Surface.eq_ordered.symm (pretendingArrival tenantsPath)
    Outcome.scripted _ x hx hwho (hpath x hx hwho) with ⟨-, -, id, hnames, hbinds⟩ | ⟨hstem, -⟩
  · obtain ⟨y, hy, howner⟩ := hnames.exists_mem
    rcases howners y hy with hnone | hsome
    · rw [howner] at hnone
      cases hnone
    · obtain rfl := Option.some.inj (howner.symm.trans hsome)
      exact hbinds
  · exact absurd hstem (by decide +kernel)

/-- By a step back from the path of the keys, somebody else than the owner is named. -/
theorem pretence_kept :
    let run := ((sample 60000).serve (pretendingArrival "/api/apikeys/../tenants")).run
      Outcome.scripted [ownedReply]
    run.asked.map (·.1.collaborator) = [.auth, .backend] ∧
      run.asked.map (fun x => withoutDots x.1.target.path) = ["/auth/me", tenantsPath] ∧
      run.asked.map (·.2.owner?) = [some ⟨"u1"⟩, none] ∧
      run.asked.map (·.1.body.namedOwner?) = [none, some "victim"] := by
  decide +kernel

end Gateway

end Gatehouse
