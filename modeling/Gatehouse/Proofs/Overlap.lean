import Gatehouse.Proofs.Alterations
import Gatehouse.Proofs.Onward

namespace Gatehouse

namespace PathPattern

variable {a b : PathPattern} {path : String}

/-- Whether no path is covered by both patterns. -/
def Disjoint (a b : PathPattern) : Prop := ∀ path, a.accepts path → ¬b.accepts path

theorem Disjoint.symm (h : a.Disjoint b) : b.Disjoint a := fun path hb ha => h path ha hb

/--
Whether two patterns can be told apart: by what their paths begin with, or because one of them is a
single path that the other leaves out.
-/
def apart : PathPattern → PathPattern → Bool
  | exact path, b => !b.accepts path
  | a, exact path => !a.accepts path
  | a, b => !a.front.isPrefixOf b.front && !b.front.isPrefixOf a.front

theorem disjoint_exact (h : ¬a.accepts path) : a.Disjoint (.exact path) := by
  intro other ha hother
  obtain rfl : other = path := of_decide_eq_true hother
  exact h ha

/-- Of two fronts of one path, one begins with the other. -/
theorem disjoint_of_fronts (h : (!a.front.isPrefixOf b.front && !b.front.isPrefixOf a.front)) :
    a.Disjoint b := by
  simp only [Bool.and_eq_true, Bool.not_eq_true', ← Bool.not_eq_true,
    List.isPrefixOf_iff_prefix] at h
  intro path ha hb
  exact (List.prefix_or_prefix_of_prefix (prefix_of_accepts ha) (prefix_of_accepts hb)).elim h.1 h.2

theorem disjoint_of_apart (h : a.apart b) : a.Disjoint b := by
  have hsingle {c : PathPattern} {path : String} (hc : (!c.accepts path)) :
      c.Disjoint (.exact path) := disjoint_exact (by simpa using hc)
  cases a with
  | exact path => exact (hsingle h).symm
  | template | leading =>
    cases b with
    | exact path => exact hsingle h
    | template | leading => exact disjoint_of_fronts h

end PathPattern

namespace RouteTable

variable {routes : List Route} {route : Route} {path : String}

/-- Whether no path is covered by two of the routes. -/
def IsUnambiguous (routes : List Route) : Prop :=
  routes.Pairwise fun a b => a.path.Disjoint b.path

theorem IsUnambiguous.length_covering_le (h : IsUnambiguous routes) (path : String) :
    (routes.filter (·.path.accepts path)).length ≤ 1 := by
  have hnone : (routes.filter (·.path.accepts path)).Pairwise fun _ _ => False := by
    refine (List.Pairwise.filter _ h).imp_of_mem fun ha hb hdisjoint => ?_
    exact hdisjoint path (List.mem_filter.mp ha).2 (List.mem_filter.mp hb).2
  generalize routes.filter (·.path.accepts path) = covering at hnone ⊢
  cases covering with
  | nil => exact Nat.zero_le 1
  | cons first more =>
    cases more with
    | nil => exact Nat.le_refl 1
    | cons second => exact (List.rel_of_pairwise_cons hnone (List.mem_cons_self ..)).elim

theorem IsUnambiguous.filter_eq (h : IsUnambiguous routes) (hr : route ∈ routes)
    (hcovers : route.path.accepts path) : routes.filter (·.path.accepts path) = [route] := by
  have hmem : route ∈ routes.filter (·.path.accepts path) := List.mem_filter.mpr ⟨hr, hcovers⟩
  obtain ⟨only, honly⟩ := List.length_eq_one_iff.mp
    (Nat.le_antisymm (h.length_covering_le path) (List.length_pos_of_mem hmem))
  rw [honly] at hmem ⊢
  rw [List.mem_singleton.mp hmem]

/-- Where no path is covered twice, the method is a matter of the one route that covers the path. -/
theorem IsUnambiguous.resolve_eq (h : IsUnambiguous routes) (hr : route ∈ routes)
    (hcovers : route.path.accepts path) (m : Method) :
    (ofRoutes routes).resolve m path =
      if route.methods.allows m then .ok route else .error .method := by
  have hperm : ((ofRoutes routes).routes.filter (·.path.accepts path)).Perm
      (routes.filter (·.path.accepts path)) := (List.mergeSort_perm _ _).filter _
  rw [h.filter_eq hr hcovers] at hperm
  unfold resolve
  rw [List.perm_singleton.mp hperm]
  cases hm : route.methods.allows m <;> simp [hm]

end RouteTable

namespace Surface

variable {route : Route} {old new : String}

theorem isUnambiguous : RouteTable.IsUnambiguous surfaceRoutes := by
  have hapart : surfaceRoutes.Pairwise fun a b => a.path.apart b.path := by decide +kernel
  exact hapart.imp PathPattern.disjoint_of_apart

/-- A path tells by its new start which old one it had. -/
theorem eq_of_append_eq {starts starts' : String × String} (h : starts ∈ replacedStarts)
    (h' : starts' ∈ replacedStarts) {rest rest' : String}
    (heq : starts.2 ++ rest = starts'.2 ++ rest') : starts = starts' ∧ rest = rest' := by
  have htold : ∀ a ∈ replacedStarts, ∀ b ∈ replacedStarts,
      a.2.toList <+: b.2.toList ∨ b.2.toList <+: a.2.toList → a = b := by decide
  have hlists : starts.2.toList ++ rest.toList = starts'.2.toList ++ rest'.toList := by
    rw [← String.toList_append, heq, String.toList_append]
  obtain rfl : starts = starts' := htold _ h _ h' <|
    List.prefix_or_prefix_of_prefix (List.prefix_append _ _) ⟨_, hlists.symm⟩
  exact ⟨rfl, String.toList_inj.mp (List.append_cancel_left hlists)⟩

/-- Whether a request, whose target was read, has a route that puts another start to its path. -/
structure Rewrites (route : Route) (old new : String) (r : Request) : Prop where
  read : ∃ text, RequestTarget.ofText text = .ok r.target
  found : surface.resolve r.method r.target.path = .ok route
  replaces : route.transform = .replaceStart old new

/-- A start that is replaced is there, and what takes its place is another one. -/
theorem replaceStart_of_resolve {m : Method} {path : String}
    (hr : surface.resolve m path = .ok route) (ht : route.transform = .replaceStart old new) :
    ∃ rest, path = old ++ rest ∧ replaceStart old new path = new ++ rest ∧ new ++ rest ≠ path := by
  have hchanges : ∀ starts ∈ replacedStarts, starts.2 ≠ starts.1 := by decide
  obtain ⟨-, rest, rfl⟩ := replaces_of_resolve hr ht
  refine ⟨rest, rfl, replaceStart_append old new rest, fun heq => ?_⟩
  have hlists := congrArg String.toList heq
  rw [String.toList_append, String.toList_append] at hlists
  exact hchanges _ (mem_replacedStarts (resolve_ok_inv hr).1 ht)
    (String.toList_inj.mp (List.append_cancel_right hlists))

theorem Rewrites.path_ne_empty {r : Request} (h : Rewrites route old new r) :
    r.target.path ≠ "" :=
  Surface.path_ne_empty (resolve_ok_inv h.found).1 (resolve_ok_inv h.found).2.1

theorem Rewrites.apply_eq {r : Request} (h : Rewrites route old new r) (id : Option Identity)
    (limit : Nat) :
    let moved := r.movedTo (replaceStart old new r.target.path)
    route.transform.apply id limit r = .ok moved ∧
      moved.target.forwarded = ⟨replaceStart old new r.target.path, r.target.query⟩ := by
  obtain ⟨text, ht⟩ := h.read
  obtain ⟨hshort, rest, hpath⟩ := replaces_of_resolve h.found h.replaces
  refine ⟨?_, RequestTarget.forwarded_atPlace h.path_ne_empty⟩
  rw [h.replaces, Transform.replaceStart_moves ht hpath hshort, hpath, replaceStart_append]

/-- What is sent on tells what was asked for, whatever routes the requests have. -/
theorem Rewrites.place_eq {r s outbound outbound' : Request} {route' : Route} {old' new' : String}
    {id id' : Option Identity} {limit limit' : Nat} (hr : Rewrites route old new r)
    (hs : Rewrites route' old' new' s) (hout : route.transform.apply id limit r = .ok outbound)
    (hout' : route'.transform.apply id' limit' s = .ok outbound')
    (hsame : outbound.target.forwarded.text = outbound'.target.forwarded.text) :
    r.target.pathAndQuery? = s.target.pathAndQuery? := by
  obtain ⟨text, ht⟩ := hr.read
  obtain ⟨text', ht'⟩ := hs.read
  have hread := ofText_forwarded ht hr.found hout
  have hread' := ofText_forwarded ht' hs.found hout'
  have hplace := Except.ok.inj (hread.symm.trans (hsame ▸ hread'))
  obtain ⟨happly, hforwarded⟩ := hr.apply_eq id limit
  obtain ⟨happly', hforwarded'⟩ := hs.apply_eq id' limit'
  obtain rfl := Except.ok.inj (happly.symm.trans hout)
  obtain rfl := Except.ok.inj (happly'.symm.trans hout')
  rw [hforwarded, hforwarded'] at hplace
  obtain ⟨hpath, hquery⟩ := PathAndQuery.mk.inj hplace
  obtain ⟨rest, hrest, hnew, -⟩ := replaceStart_of_resolve hr.found hr.replaces
  obtain ⟨rest', hrest', hnew', -⟩ := replaceStart_of_resolve hs.found hs.replaces
  rw [hnew, hnew'] at hpath
  obtain ⟨hstarts, rfl⟩ := eq_of_append_eq
    (mem_replacedStarts (resolve_ok_inv hr.found).1 hr.replaces)
    (mem_replacedStarts (resolve_ok_inv hs.found).1 hs.replaces) hpath
  obtain ⟨rfl, -⟩ := Prod.mk.inj hstarts
  rw [RequestTarget.pathAndQuery?_of_path hr.path_ne_empty,
    RequestTarget.pathAndQuery?_of_path hs.path_ne_empty, hrest, hrest', hquery]

/--
The public surface leaves no choice and mixes nothing up. No path is covered by two of its patterns,
so that the route of the one that covers it takes the request, or its method is refused. A path that
gets another start had the one that is taken off, and is another path afterwards; every request for
it is sent on, with the query that it came with; and two requests that ask for different paths or
with different queries are sent on as different ones.
-/
theorem unambiguous_and_faithful :
    (∀ path, (surfaceRoutes.filter (·.path.accepts path)).length ≤ 1) ∧
    (∀ route ∈ surfaceRoutes, ∀ path, route.path.accepts path → ∀ m,
      surface.resolve m path = if route.methods.allows m then .ok route else .error .method) ∧
    (∀ m path route old new, surface.resolve m path = .ok route →
      route.transform = .replaceStart old new →
      ∃ rest, path = old ++ rest ∧ replaceStart old new path = new ++ rest ∧ new ++ rest ≠ path) ∧
    (∀ route old new r, Rewrites route old new r → ∀ id limit, ∃ outbound,
      route.transform.apply id limit r = .ok outbound ∧ outbound.target.forwarded =
        ⟨replaceStart old new r.target.path, r.target.query⟩) ∧
    ∀ route old new r, Rewrites route old new r → ∀ route' old' new' s,
      Rewrites route' old' new' s → ∀ id limit outbound,
      route.transform.apply id limit r = .ok outbound → ∀ id' limit' outbound',
      route'.transform.apply id' limit' s = .ok outbound' →
      outbound.target.forwarded.text = outbound'.target.forwarded.text →
      r.target.pathAndQuery? = s.target.pathAndQuery? := by
  refine ⟨isUnambiguous.length_covering_le, ?_, ?_, ?_, ?_⟩
  · intro route hr path hcovers m
    exact isUnambiguous.resolve_eq hr hcovers m
  · intro m path route old new hr ht
    exact replaceStart_of_resolve hr ht
  · intro route old new r h id limit
    obtain ⟨happly, hplace⟩ := h.apply_eq id limit
    exact ⟨_, happly, hplace⟩
  · intro route old new r hr route' old' new' s hs id limit outbound hout id' limit' outbound' hout'
    exact hr.place_eq hs hout hout'

/-- A question for the nodes, and the same by way of a proxy that adds a question mark. -/
def askedNodes : Request where
  method := .get
  target := .resource ⟨"/api/nodes", none⟩
  headers := .empty
  body := .empty

def askedNodesMarked : Request :=
  { askedNodes with target := .absolute "http" "gateway.example" ⟨"/api/nodes", some ""⟩ }

/-- An empty query is not lost on the way, nor is one made up. -/
theorem unambiguous_and_faithful_marked :
    surfaceRoutes.filter (·.path.accepts "/api/nodes") = [surfaceRoutes[4]] ∧
      Rewrites surfaceRoutes[4] "/api/nodes" "/node" askedNodes ∧
      Rewrites surfaceRoutes[4] "/api/nodes" "/node" askedNodesMarked ∧
      ∃ outbound outbound', surfaceRoutes[4].transform.apply none 0 askedNodes = .ok outbound ∧
        surfaceRoutes[4].transform.apply none 0 askedNodesMarked = .ok outbound' ∧
        outbound.target.forwarded = ⟨"/node", none⟩ ∧
        outbound.target.forwarded.text ≠ outbound'.target.forwarded.text := by
  have hfound : surface.resolve .get "/api/nodes" = .ok surfaceRoutes[4] := by
    rw [eq_ordered]
    rfl
  have hplain : Rewrites surfaceRoutes[4] "/api/nodes" "/node" askedNodes :=
    ⟨⟨"/api/nodes", by rfl⟩, hfound, rfl⟩
  have hmarked : Rewrites surfaceRoutes[4] "/api/nodes" "/node" askedNodesMarked :=
    ⟨⟨"http://gateway.example/api/nodes?", by rfl⟩, hfound, rfl⟩
  obtain ⟨-, -, -, hsent, htold⟩ := unambiguous_and_faithful
  obtain ⟨outbound, hout, hplace⟩ := hsent _ _ _ _ hplain none 0
  obtain ⟨outbound', hout', -⟩ := hsent _ _ _ _ hmarked none 0
  refine ⟨by decide +kernel, hplain, hmarked, outbound, outbound', hout, hout', hplace, ?_⟩
  intro hsame
  exact absurd (htold _ _ _ _ hplain _ _ _ _ hmarked _ _ _ hout _ _ _ hout' hsame) (by decide)

end Surface

end Gatehouse
