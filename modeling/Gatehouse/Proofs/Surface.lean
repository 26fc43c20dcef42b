import Gatehouse.Route.Surface

namespace Gatehouse

namespace Specificity

theorem le_trans {a b c : Specificity} (hab : a.le b) (hbc : b.le c) : a.le c := by
  simp only [le, Bool.or_eq_true, Bool.and_eq_true, decide_eq_true_eq, beq_iff_eq] at *
  omega

theorem le_total (a b : Specificity) : a.le b || b.le a := by
  simp only [le, Bool.or_eq_true, Bool.and_eq_true, decide_eq_true_eq, beq_iff_eq]
  omega

end Specificity

namespace RouteTable

variable {table : RouteTable} {m : Method} {path : String} {route : Route}

theorem resolve_ok_inv (h : table.resolve m path = .ok route) :
    route ∈ table.routes ∧ route.path.accepts path ∧ route.methods.allows m := by
  unfold resolve at h
  dsimp only at h
  split at h
  next found hf =>
    cases Except.ok.inj h
    obtain ⟨hmem, haccepts⟩ := List.mem_filter.mp (List.mem_of_find?_eq_some hf)
    have hallows := List.find?_some hf
    exact ⟨hmem, haccepts, hallows⟩
  next => cases h

theorem resolve_path_iff :
    table.resolve m path = .error .path ↔
      ∀ route ∈ table.routes, route.path.accepts path = false := by
  unfold resolve
  dsimp only
  constructor
  · intro h
    split at h
    · cases h
    · split at h
      next he =>
        intro route hr
        have hnil := List.isEmpty_iff.mp he
        simpa using List.filter_eq_nil_iff.mp hnil route hr
      next => cases h
  · intro h
    have hnil : table.routes.filter (·.path.accepts path) = [] :=
      List.filter_eq_nil_iff.mpr fun route hr => by simp [h route hr]
    simp [hnil]

theorem resolve_method_iff :
    table.resolve m path = .error .method ↔
      (∃ route ∈ table.routes, route.path.accepts path) ∧
        ∀ route ∈ table.routes, route.path.accepts path → route.methods.allows m = false := by
  unfold resolve
  dsimp only
  constructor
  · intro h
    split at h
    · cases h
    next hf =>
      split at h
      next => cases h
      next he =>
        rw [List.isEmpty_iff] at he
        obtain ⟨covering, hc⟩ := List.exists_mem_of_ne_nil _ he
        refine ⟨⟨covering, List.mem_filter.mp hc⟩, fun route hr haccepts => ?_⟩
        simpa using List.find?_eq_none.mp hf route (List.mem_filter.mpr ⟨hr, haccepts⟩)
  · rintro ⟨⟨route, hr, haccepts⟩, hnone⟩
    have hfind : (table.routes.filter (·.path.accepts path)).find? (·.methods.allows m) = none :=
      List.find?_eq_none.mpr fun other ho => by
        obtain ⟨hmem, ha⟩ := List.mem_filter.mp ho
        simp [hnone other hmem ha]
    have hne : table.routes.filter (·.path.accepts path) ≠ [] :=
      List.ne_nil_of_mem (List.mem_filter.mpr ⟨hr, haccepts⟩)
    rw [hfind]
    simp [hne]

/-- The order that the routes of a table are sorted by, the more specific ones first. -/
theorem order_trans (a b c : Route) (hab : b.path.specificity.le a.path.specificity)
    (hbc : c.path.specificity.le b.path.specificity) :
    c.path.specificity.le a.path.specificity :=
  Specificity.le_trans hbc hab

theorem ofRoutes_pairwise (routes : List Route) :
    (ofRoutes routes).routes.Pairwise fun a b => b.path.specificity.le a.path.specificity :=
  List.pairwise_mergeSort order_trans (fun _ _ => Specificity.le_total _ _) routes

theorem mem_ofRoutes {routes : List Route} : route ∈ (ofRoutes routes).routes ↔ route ∈ routes :=
  List.mem_mergeSort

end RouteTable

namespace Surface

theorem resolve_ok_inv {m : Method} {path : String} {route : Route}
    (h : surface.resolve m path = .ok route) :
    route ∈ surfaceRoutes ∧ route.path.accepts path ∧ route.methods.allows m := by
  obtain ⟨hmem, hrest⟩ := RouteTable.resolve_ok_inv h
  exact ⟨RouteTable.mem_ofRoutes.mp hmem, hrest⟩

/-- The routes as the table holds them. -/
def ordered : List Route :=
  [surfaceRoutes[5], surfaceRoutes[1], surfaceRoutes[6], surfaceRoutes[2], surfaceRoutes[3],
   surfaceRoutes[4], surfaceRoutes[0]]

theorem eq_ordered : surface = ⟨ordered⟩ := by
  -- the sorting is not evaluated: two sorted lists with the same members, no two of one rank and
  -- length, are the same list
  have hperm : surface.routes.Perm ordered :=
    (List.mergeSort_perm _ _).trans (by decide : surfaceRoutes.Perm ordered)
  have hsorted : ordered.Pairwise fun a b => b.path.specificity.le a.path.specificity := by decide
  have hanti : ∀ a ∈ surfaceRoutes, ∀ b ∈ ordered, b.path.specificity.le a.path.specificity →
      a.path.specificity.le b.path.specificity → a = b := by decide
  have heq : surface.routes = ordered := by
    refine List.Perm.eq_of_pairwise (fun a b ha hb => ?_) (RouteTable.ofRoutes_pairwise _) hsorted
      hperm
    exact hanti a (RouteTable.mem_ofRoutes.mp ha) b hb
  rw [← heq]

/-- Behind a session there are the backend and the node service, and these only there. -/
theorem guarded_iff : ∀ route ∈ surfaceRoutes,
    (route.requiresAuth = true ↔ route.target = .backend ∨ route.target = .node) := by
  decide

/-- In front of a session nobody is identified. -/
theorem needsIdentity_of_open : ∀ route ∈ surfaceRoutes, route.requiresAuth = false →
    ∀ m, route.transform.needsIdentity m = false := by
  intro route hr hopen m
  simp only [surfaceRoutes, List.mem_cons, List.not_mem_nil, or_false] at hr
  rcases hr with rfl | rfl | rfl | rfl | rfl | rfl | rfl <;> first | rfl | cases hopen

end Surface

end Gatehouse
