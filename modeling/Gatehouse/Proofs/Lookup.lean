import Gatehouse.Proofs.Surface

namespace Gatehouse

/--
Whether a pattern comes before another: a single path before a template, a template before a stem,
and of two patterns of one kind the one with the longer text.
-/
inductive PathPattern.Outranks : PathPattern → PathPattern → Prop where
  | exactTemplate (a b : String) : Outranks (.exact a) (.template b)
  | exactLeading (a b : String) : Outranks (.exact a) (.leading b)
  | templateLeading (a b : String) : Outranks (.template a) (.leading b)
  | exact {a b : String} (h : b.utf8ByteSize < a.utf8ByteSize) : Outranks (.exact a) (.exact b)
  | template {a b : String} (h : b.utf8ByteSize < a.utf8ByteSize) :
      Outranks (.template a) (.template b)
  | leading {a b : String} (h : b.utf8ByteSize < a.utf8ByteSize) :
      Outranks (.leading a) (.leading b)

namespace Specificity

theorem le_iff {a b : Specificity} :
    a.le b ↔ a.rank < b.rank ∨ a.rank = b.rank ∧ a.length ≤ b.length := by
  simp [le]

theorem le_refl (a : Specificity) : a.le a := le_iff.mpr (Or.inr ⟨rfl, Nat.le_refl _⟩)

theorem le_antisymm {a b : Specificity} (hab : a.le b) (hba : b.le a) : a = b := by
  obtain ⟨rank, length⟩ := a
  obtain ⟨rank', length'⟩ := b
  rw [le_iff] at hab hba
  rw [Specificity.mk.injEq]
  dsimp only at hab hba
  omega

end Specificity

theorem PathPattern.outranks_iff {a b : PathPattern} :
    a.Outranks b ↔ ¬a.specificity.le b.specificity := by
  rw [Specificity.le_iff]
  constructor
  · intro h
    cases h <;> dsimp only [specificity, text] <;> omega
  · intro h
    cases a <;> cases b <;> dsimp only [specificity, text] at h <;>
      first | (constructor; omega) | constructor | omega

/-- Whether a request for this path by this method may follow a route. -/
def Route.fits (m : Method) (path : String) (route : Route) : Bool :=
  route.path.accepts path && route.methods.allows m

namespace RouteTable

variable {routes : List Route} {m : Method} {path : String} {route : Route}

/--
Whether a route is the earliest of the best among declared ones: it fits, outranks those that fit
and were declared before it, and is outranked by none that fits and was declared behind it.
-/
def Chooses (routes : List Route) (m : Method) (path : String) (route : Route) : Prop :=
  ∃ before after, routes = before ++ route :: after ∧ route.fits m path ∧
    (∀ other ∈ before, other.fits m path → route.path.Outranks other.path) ∧
    ∀ other ∈ after, other.fits m path → ¬other.path.Outranks route.path

/-- Two choices among the same routes are one: else each would be outranked by the other's place. -/
theorem Chooses.unique {other : Route} (h : Chooses routes m path route)
    (h' : Chooses routes m path other) : route = other := by
  obtain ⟨before, after, hroutes, hfits, hbefore, hafter⟩ := h
  obtain ⟨before', after', hroutes', hfits', hbefore', hafter'⟩ := h'
  rcases List.append_eq_append_iff.mp (hroutes.symm.trans hroutes') with
    ⟨more, hm, hrest⟩ | ⟨more, hm, hrest⟩
  · cases more with
    | nil => exact (List.cons.inj hrest).1
    | cons x more =>
      obtain ⟨hx, hrest⟩ := List.cons.inj hrest
      have hin : route ∈ before' := by simp [hm, hx]
      have hbehind : other ∈ after := by simp [hrest]
      exact absurd (hbefore' route hin hfits) (hafter other hbehind hfits')
  · cases more with
    | nil => exact (List.cons.inj hrest).1.symm
    | cons x more =>
      obtain ⟨hx, hrest⟩ := List.cons.inj hrest
      have hin : other ∈ before := by simp [hm, hx]
      have hbehind : route ∈ after' := by simp [hrest]
      exact absurd (hbefore other hin hfits') (hafter' route hbehind hfits)

theorem resolve_ok_iff {table : RouteTable} :
    table.resolve m path = .ok route ↔ table.routes.find? (·.fits m path) = some route := by
  have hfind : (table.routes.filter (·.path.accepts path)).find? (·.methods.allows m) =
      table.routes.find? (·.fits m path) := by
    rw [List.find?_filter]
    congr 1
    funext other
    simp [Route.fits]
  unfold resolve
  dsimp only
  rw [hfind]
  cases table.routes.find? (·.fits m path) <;> simp

/-- Sorting keeps routes of one specificity in the order they were declared in. -/
theorem filter_ofRoutes (routes : List Route) {p : Route → Bool} {s : Specificity}
    (hp : ∀ route, p route → route.path.specificity = s) :
    (ofRoutes routes).routes.filter p = routes.filter p := by
  have hperm : ((ofRoutes routes).routes.filter p).Perm (routes.filter p) :=
    (List.mergeSort_perm routes _).filter p
  have hequal : (routes.filter p).Pairwise fun a b => b.path.specificity.le a.path.specificity := by
    refine List.pairwise_of_forall_mem_list fun a ha b hb => ?_
    rw [hp a (List.mem_filter.mp ha).2, hp b (List.mem_filter.mp hb).2]
    exact Specificity.le_refl s
  have hsub : (routes.filter p).Sublist (ofRoutes routes).routes :=
    List.sublist_mergeSort order_trans (fun _ _ => Specificity.le_total _ _) hequal
      List.filter_sublist
  have hsub : (routes.filter p).Sublist ((ofRoutes routes).routes.filter p) := by
    simpa [List.filter_filter] using hsub.filter p
  exact (hsub.eq_of_length hperm.length_eq.symm).symm

/-- No route that fits is more specific than the first one that fits in the table. -/
theorem le_of_find? (h : (ofRoutes routes).routes.find? (·.fits m path) = some route)
    {other : Route} (hmem : other ∈ routes) (hfits : other.fits m path) :
    other.path.specificity.le route.path.specificity := by
  obtain ⟨_, first, rest, hsorted, hfirst⟩ := List.find?_eq_some_iff_append.mp h
  have hpairwise := ofRoutes_pairwise routes
  rw [hsorted] at hpairwise
  have hin : other ∈ first ++ route :: rest := hsorted ▸ mem_ofRoutes.mpr hmem
  rcases List.mem_append.mp hin with hin | hin
  · exact absurd hfits (by simpa using hfirst other hin)
  rcases List.mem_cons.mp hin with rfl | hin
  · exact Specificity.le_refl _
  · exact (List.pairwise_cons.mp (List.pairwise_append.mp hpairwise).2.1).1 other hin

theorem chooses_of_find? (h : (ofRoutes routes).routes.find? (·.fits m path) = some route) :
    Chooses routes m path route := by
  have hfirst : routes.find? (fun other =>
      other.fits m path && decide (other.path.specificity = route.path.specificity)) =
      some route := by
    have hfits := List.find?_some h
    rw [← List.head?_filter, ← filter_ofRoutes routes (s := route.path.specificity) (by simp),
      List.head?_filter]
    obtain ⟨_, first, rest, hsorted, hnone⟩ := List.find?_eq_some_iff_append.mp h
    refine List.find?_eq_some_iff_append.mpr ⟨by simp [hfits], first, rest, hsorted, ?_⟩
    intro other ho
    have hnot : other.fits m path = false := by simpa using hnone other ho
    simp [hnot]
  obtain ⟨hfits, before, after, hroutes, hbefore⟩ := List.find?_eq_some_iff_append.mp hfirst
  have hbest {other : Route} (hin : other ∈ before ++ route :: after) (ho : other.fits m path) :
      other.path.specificity.le route.path.specificity := le_of_find? h (hroutes ▸ hin) ho
  refine ⟨before, after, hroutes, (Bool.and_eq_true_iff.mp hfits).1, fun other hin ho => ?_,
    fun other hin ho => ?_⟩
  · rw [PathPattern.outranks_iff]
    intro hle
    have heq := Specificity.le_antisymm (hbest (by simp [hin]) ho) hle
    simpa [ho, heq] using hbefore other hin
  · rw [PathPattern.outranks_iff]
    exact fun hnot => hnot (hbest (by simp [hin]) ho)

/--
The lookup over any declared routes: it finds the earliest declared one of those that fit and that
no other that fits outranks; the method is at fault exactly when some route covers the path and none
of those takes the method, and the path exactly when no route covers it.
-/
theorem resolve_mostSpecific (routes : List Route) (m : Method) (path : String) :
    (∀ route, (ofRoutes routes).resolve m path = .ok route ↔ Chooses routes m path route) ∧
    ((ofRoutes routes).resolve m path = .error .method ↔
      (∃ route ∈ routes, route.path.accepts path) ∧
        ∀ route ∈ routes, route.path.accepts path → route.methods.allows m = false) ∧
    ((ofRoutes routes).resolve m path = .error .path ↔
      ∀ route ∈ routes, route.path.accepts path = false) := by
  have hmethod : (ofRoutes routes).resolve m path = .error .method ↔ _ := resolve_method_iff
  have hpath : (ofRoutes routes).resolve m path = .error .path ↔ _ := resolve_path_iff
  simp only [mem_ofRoutes] at hmethod hpath
  refine ⟨fun route => ?_, hmethod, hpath⟩
  rw [resolve_ok_iff]
  refine ⟨chooses_of_find?, fun h => ?_⟩
  have hsome : ((ofRoutes routes).routes.find? (·.fits m path)).isSome := by
    obtain ⟨before, after, hroutes, hfits, _⟩ := h
    refine List.find?_isSome.mpr ⟨route, mem_ofRoutes.mpr ?_, hfits⟩
    simp [hroutes]
  obtain ⟨found, hfound⟩ := Option.isSome_iff_exists.mp hsome
  rw [hfound, (chooses_of_find? hfound).unique h]

end RouteTable

end Gatehouse
