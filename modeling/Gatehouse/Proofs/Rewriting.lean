import Gatehouse.Proofs.Body
import Gatehouse.Proofs.Cutting
import Gatehouse.Proofs.Place
import Gatehouse.Proofs.Surface
import Gatehouse.Proofs.Transform

namespace Gatehouse

theorem exists_rest {start text : String} (h : start.toList <+: text.toList) :
    ∃ rest, text = start ++ rest := by
  obtain ⟨rest, hrest⟩ := h
  refine ⟨String.ofList rest, String.toList_inj.mp ?_⟩
  rw [String.toList_append, String.toList_ofList, hrest]

theorem replaceStart_append (old new rest : String) :
    replaceStart old new (old ++ rest) = new ++ rest := by
  unfold replaceStart
  rw [String.toList_append, dropStart?_append]
  dsimp only
  rw [← String.toList_append, String.ofList_toList]

/-- The same request for another path, with the query that it came with. -/
def Request.movedTo (r : Request) (path : String) : Request :=
  { r with target := r.target.atPlace ⟨path, r.target.query⟩ }

/-- Whether a start that is no longer than another can take its place on any path. -/
structure Shortens (old new : String) : Prop where
  long : 1 < old.toList.length
  legal : ∀ c ∈ new.toList, isPathChar c
  slash : new.toList.head? = some '/'
  size : String.utf8Len new.toList ≤ String.utf8Len old.toList

/-- A path on which a shorter start takes the place of another remains within the bounds. -/
theorem Transform.replaceStart_moves {old new rest text : String} {id : Option Identity}
    {limit : Nat} {r : Request} (ht : RequestTarget.ofText text = .ok r.target)
    (hpath : r.target.path = old ++ rest) (hshort : Shortens old new) :
    (Transform.replaceStart old new).apply id limit r = .ok (r.movedTo (new ++ rest)) := by
  obtain ⟨hold, hlegal, hs, hsize⟩ := hshort
  have hrest : r.target.path.toList = old.toList ++ rest.toList := by
    rw [hpath, String.toList_append]
  have hnew : (new ++ rest).toList = new.toList ++ rest.toList := String.toList_append
  have hne : r.target.path ≠ "" := by
    intro hempty
    rw [hempty] at hrest
    have hnil := (List.append_eq_nil_iff.mp hrest.symm).1
    simp [hnil] at hold
  have hp := RequestTarget.pathAndQuery?_of_path hne
  obtain ⟨hplace, hbound⟩ := RequestTarget.place_of_ofText ht hp
  have hl : (PathAndQuery.mk (new ++ rest) r.target.query).IsLegal := by
    refine ⟨fun c hc => ?_, hplace.query⟩
    rw [hnew] at hc
    rcases List.mem_append.mp hc with hc | hc
    · exact hlegal c hc
    · exact hplace.path c (hrest ▸ List.mem_append_right _ hc)
  have hslash : (new ++ rest).toList.head? = some '/' := by
    rw [hnew, List.head?_append, hs]
    rfl
  have hfits : (PathAndQuery.mk (new ++ rest) r.target.query).text.utf8ByteSize ≤
      maxTargetLength := by
    rcases hbound with hroot | hbound
    · have hlength := congrArg List.length hrest
      simp [show r.target.path = "/" from hroot] at hlength
      omega
    · rw [PathAndQuery.utf8ByteSize_text, PathAndQuery.chars] at hbound ⊢
      rw [hrest] at hbound
      rw [hnew]
      simp only [String.utf8Len_append] at hbound ⊢
      omega
  rw [Transform.apply_replaceStart, hpath, replaceStart_append,
    RequestTarget.withPath_of_isLegal hp hl hslash, if_neg (Nat.not_lt.mpr hfits), Request.movedTo]
  rfl

theorem segmentsAccept_cons_inv {s : Segment} {more : List Segment} {ps : List (List Char)}
    (h : segmentsAccept (s :: more) ps) :
    ∃ p rest, ps = p :: rest ∧ s.accepts p ∧ segmentsAccept more rest := by
  cases ps with
  | nil => simp [segmentsAccept] at h
  | cons p rest =>
    simp only [segmentsAccept, Bool.and_eq_true] at h
    exact ⟨p, rest, rfl, h.1, h.2⟩

/-- What a template accepts begins with the literal pieces that it begins with. -/
theorem segmentsAccept_literals_inv {ls : List String} {more : List Segment} {ps : List (List Char)}
    (h : segmentsAccept (ls.map Segment.literal ++ more) ps) :
    ∃ rest, ps = ls.map String.toList ++ rest ∧ segmentsAccept more rest := by
  induction ls generalizing ps with
  | nil => exact ⟨ps, rfl, h⟩
  | cons l ls ih =>
    obtain ⟨p, after, rfl, hp, hafter⟩ := segmentsAccept_cons_inv h
    obtain rfl : l.toList = p := of_decide_eq_true hp
    obtain ⟨rest, rfl, hrest⟩ := ih hafter
    exact ⟨rest, rfl, hrest⟩

/-- The pieces that segments spell out before the first parameter. -/
def literalFront : List Segment → List (List Char)
  | .literal text :: more => text.toList :: literalFront more
  | _ => []

theorem prefix_of_segmentsAccept {segments : List Segment} {ps : List (List Char)}
    (h : segmentsAccept segments ps) : literalFront segments <+: ps := by
  induction segments generalizing ps with
  | nil => exact List.nil_prefix
  | cons s more ih =>
    obtain ⟨p, rest, rfl, hp, hrest⟩ := segmentsAccept_cons_inv h
    cases s with
    | literal text =>
      obtain rfl : text.toList = p := of_decide_eq_true hp
      exact List.cons_prefix_cons.mpr ⟨rfl, ih hrest⟩
    | param => exact List.nil_prefix

/-- What all the paths of a pattern begin with. -/
def PathPattern.front : PathPattern → List Char
  | exact path => path.toList
  | template pattern => joinWith ['/'] (literalFront (templateSegments pattern))
  | leading stem => stem.toList

theorem PathPattern.prefix_of_accepts {a : PathPattern} {path : String} (h : a.accepts path) :
    a.front <+: path.toList := by
  cases a with
  | exact text =>
    obtain rfl : path = text := of_decide_eq_true h
    exact List.prefix_refl _
  | template pattern =>
    have hfront := joinWith_prefix ['/'] (prefix_of_segmentsAccept h)
    rwa [joinWith_pieces] at hfront
  | leading stem => exact List.isPrefixOf_iff_prefix.mp h

def tenantsPath : String := "/api/tenants"

namespace Surface

/-- The starts of paths that the public surface replaces, each with what takes its place. -/
def replacedStarts : List (String × String) :=
  [("/api/nodes", "/node"), ("/api/monitoring", "/monitoring")]

theorem mem_replacedStarts {route : Route} (hr : route ∈ surfaceRoutes) {old new : String}
    (ht : route.transform = .replaceStart old new) : (old, new) ∈ replacedStarts := by
  simp only [surfaceRoutes, List.mem_cons, List.not_mem_nil, or_false] at hr
  rcases hr with rfl | rfl | rfl | rfl | rfl | rfl | rfl <;> cases ht <;> decide

theorem shortens_of_mem {old new : String} (h : (old, new) ∈ replacedStarts) :
    Shortens old new := by
  have hlegal : ∀ starts ∈ replacedStarts, starts.2.toList.all isPathChar := by decide
  have hshort : ∀ starts ∈ replacedStarts, 1 < starts.1.toList.length ∧
      starts.2.toList.head? = some '/' ∧
      String.utf8Len starts.2.toList ≤ String.utf8Len starts.1.toList := by decide
  obtain ⟨hlong, hslash, hsize⟩ := hshort _ h
  exact ⟨hlong, List.all_eq_true.mp (hlegal _ h), hslash, hsize⟩

theorem tenants_of_accepts : ∀ route ∈ surfaceRoutes, route.path.accepts tenantsPath →
    route = surfaceRoutes[1] := by decide

/-- The paths of the public surface lie below the root. -/
theorem prefix_of_accepts {route : Route} (hr : route ∈ surfaceRoutes) {path : String}
    (h : route.path.accepts path) : ['/', 'a'] <+: path.toList := by
  have hfront : ∀ route ∈ surfaceRoutes, ['/', 'a'] <+: route.path.front := by decide
  exact (hfront route hr).trans (PathPattern.prefix_of_accepts h)

theorem path_ne_empty {route : Route} (hr : route ∈ surfaceRoutes) {path : String}
    (h : route.path.accepts path) : path ≠ "" := by
  rintro rfl
  exact absurd (prefix_of_accepts hr h) (by decide)

/-- Routes for other paths than that of the tenants change at most the start of a path. -/
theorem transform_cases {m : Method} {path : String} {route : Route}
    (h : surface.resolve m path = .ok route) (hpath : path ≠ tenantsPath) :
    route.transform = .keep ∨ ∃ old new, route.transform = .replaceStart old new ∧
      Shortens old new ∧ old.toList <+: path.toList := by
  obtain ⟨hmem, haccepts, _⟩ := resolve_ok_inv h
  have hfront := PathPattern.prefix_of_accepts haccepts
  simp only [surfaceRoutes, List.mem_cons, List.not_mem_nil, or_false] at hmem
  rcases hmem with rfl | rfl | rfl | rfl | rfl | rfl | rfl
  · exact Or.inl rfl
  · exact absurd (by simpa [PathPattern.accepts, tenantsPath] using haccepts) hpath
  · exact Or.inl rfl
  · exact Or.inl rfl
  · exact Or.inr ⟨_, _, rfl, shortens_of_mem (by decide), .trans (by decide) hfront⟩
  · exact Or.inr ⟨_, _, rfl, shortens_of_mem (by decide), .trans (by decide) hfront⟩
  · exact Or.inr ⟨_, _, rfl, shortens_of_mem (by decide), .trans (by decide) hfront⟩

end Surface

/-- The path that an identity has to itself on the public surface. -/
def Identity.collection (id : Identity) : String := "/api/user/" ++ id.text ++ "/tenants"

theorem isPathChar_of_isUnreserved {c : Char} (h : isUnreserved c) : isPathChar c := by
  simp only [isUnreserved, Bool.or_eq_true, beq_iff_eq] at h
  rcases h with (((h | rfl) | rfl) | rfl) | rfl
  · have hranges : (decide ('A' ≤ c ∧ c ≤ 'Z') || ('a' ≤ c && c ≤ 'z') || ('0' ≤ c && c ≤ '9')) =
        true := h
    unfold isPathChar
    grind [Char.le_def]
  all_goals decide

theorem Identity.toList_collection (id : Identity) :
    id.collection.toList = "/api/user/".toList ++ (id.text.toList ++ "/tenants".toList) := by
  rw [collection, String.toList_append, String.toList_append, List.append_assoc]

theorem Identity.scopedPath?_eq (id : Identity) :
    id.scopedPath? "/api/user/\x7bidentity\x7d/tenants" =
      if id.isPathSafe then some id.collection else none := by
  have hreplace : replaceWord identityPlaceholder id.text.toList
      "/api/user/\x7bidentity\x7d/tenants".toList =
        "/api/user/".toList ++ (id.text.toList ++ "/tenants".toList) := rfl
  unfold Identity.scopedPath?
  rw [hreplace, ← Identity.toList_collection, String.ofList_toList]

theorem Identity.collection_isLegal {id : Identity} (hsafe : id.isPathSafe) {place : PathAndQuery}
    (hl : place.IsLegal) : (PathAndQuery.mk id.collection place.query).IsLegal := by
  refine ⟨fun c hc => ?_, hl.query⟩
  rw [Identity.toList_collection] at hc
  simp only [isPathSafe, Bool.and_eq_true, List.all_eq_true] at hsafe
  have hstart : ∀ c ∈ "/api/user/".toList, isPathChar c := List.all_eq_true.mp (by decide)
  have hend : ∀ c ∈ "/tenants".toList, isPathChar c := List.all_eq_true.mp (by decide)
  rcases List.mem_append.mp hc with hc | hc
  · exact hstart c hc
  rcases List.mem_append.mp hc with hc | hc
  · exact isPathChar_of_isUnreserved (hsafe.1 c hc)
  · exact hend c hc

theorem Request.scoped_unplaced {r : Request} {owner : Option Identity} (template : String)
    (h : owner.any Identity.isPathSafe = false) :
    r.scoped template owner = .error .identityUnavailable := by
  unfold Request.scoped
  cases owner with
  | none => rfl
  | some id =>
    have hnone : id.scopedPath? template = none := if_neg (by simpa using h)
    dsimp only
    rw [hnone]

/-- A request for the collection of an identity that is safe in a path fails only for its length. -/
theorem Request.scoped_of_safe {r : Request} {text : String} {place : PathAndQuery} {id : Identity}
    (ht : RequestTarget.ofText text = .ok r.target) (hp : r.target.pathAndQuery? = some place)
    (hsafe : id.isPathSafe = true) :
    r.scoped "/api/user/\x7bidentity\x7d/tenants" (some id) =
      if maxTargetLength < (PathAndQuery.mk id.collection r.target.query).text.utf8ByteSize then
        .error .internal
      else .ok { r with target := r.target.atPlace ⟨id.collection, r.target.query⟩ } := by
  have hquery : r.target.query = place.query := by simp [RequestTarget.query, hp]
  have hl := Identity.collection_isLegal hsafe (RequestTarget.place_of_ofText ht hp).1
  have hs : id.collection.toList.head? = some '/' := by
    rw [Identity.toList_collection, List.head?_append]
    rfl
  unfold Request.scoped
  dsimp only
  rw [Identity.scopedPath?_eq, if_pos hsafe]
  dsimp only
  rw [RequestTarget.withPath_of_isLegal hp hl hs, ← hquery]
  split <;> rfl

end Gatehouse
