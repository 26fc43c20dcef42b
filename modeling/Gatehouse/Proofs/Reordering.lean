import Mathlib.Data.List.Nodup
import Gatehouse.Proofs.Containment

namespace Gatehouse

namespace PathPattern

variable {a b : PathPattern} {path : String}

theorem Outranks.asymm (h : a.Outranks b) : ¬b.Outranks a := by
  rw [outranks_iff] at h ⊢
  have htotal := Specificity.le_total a.specificity b.specificity
  rw [Bool.or_eq_true] at htotal
  exact not_not_intro (htotal.resolve_left h)

/-- Whether two patterns are different templates with texts of one length. -/
def rivals : PathPattern → PathPattern → Bool
  | template p, template q => p ≠ q && p.utf8ByteSize = q.utf8ByteSize
  | _, _ => false

theorem not_outranks_of_rivals (h : a.rivals b) : ¬b.Outranks a := by
  intro ho
  cases ho with
  | template hlt =>
    simp only [rivals, Bool.and_eq_true, decide_eq_true_eq] at h
    omega
  | _ => cases h

/-- Stems of one length that begin the same path are one stem. -/
theorem eq_of_leading_accepts {stem other : String} (h : (leading stem).accepts path)
    (h' : (leading other).accepts path) (hsize : stem.utf8ByteSize = other.utf8ByteSize) :
    stem = other := by
  have hstem : stem.toList <+: path.toList := List.isPrefixOf_iff_prefix.mp h
  have hother : other.toList <+: path.toList := List.isPrefixOf_iff_prefix.mp h'
  rcases List.prefix_or_prefix_of_prefix hstem hother with hp | hp
  · by_contra hne
    have hlt := utf8ByteSize_lt_of_prefix hp hne
    omega
  · by_contra hne
    have hlt := utf8ByteSize_lt_of_prefix hp (Ne.symm hne)
    omega

/-- Different patterns that cover one path are ranked, unless they are rivals. -/
theorem outranks_or_rivals (ha : a.accepts path) (hb : b.accepts path) (hne : a ≠ b) :
    a.Outranks b ∨ b.Outranks a ∨ a.rivals b := by
  by_cases hab : a.Outranks b
  · exact .inl hab
  by_cases hba : b.Outranks a
  · exact .inr (.inl hba)
  refine .inr (.inr ?_)
  rw [outranks_iff, not_not] at hab hba
  have hrank := Specificity.le_antisymm hab hba
  cases a <;> cases b <;> simp only [specificity, Specificity.mk.injEq, text] at hrank
  case exact.exact p q =>
    have hp : path = p := of_decide_eq_true ha
    have hq : path = q := of_decide_eq_true hb
    exact absurd (congrArg exact (hp.symm.trans hq)) hne
  case template.template p q =>
    have hpq : p ≠ q := fun he => hne (congrArg template he)
    simp [rivals, hpq, hrank]
  case leading.leading p q =>
    exact absurd (congrArg leading (eq_of_leading_accepts ha hb hrank.2)) hne
  all_goals omega

end PathPattern

namespace RouteTable

variable {routes others : List Route} {m : Method} {path : String} {route : Route}

/-- Whether two templates with texts of one length are declared that both cover the path. -/
def IsTied (routes : List Route) (path : String) : Prop :=
  ∃ a ∈ routes, ∃ b ∈ routes, a.path.rivals b.path ∧ a.path.accepts path ∧ b.path.accepts path

instance (routes : List Route) (path : String) : Decidable (IsTied routes path) :=
  inferInstanceAs (Decidable (∃ a ∈ routes, ∃ b ∈ routes, _ ∧ _ ∧ _))

/-- Whether a route fits and outranks all others that do. -/
structure IsForemost (routes : List Route) (m : Method) (path : String) (route : Route) :
    Prop where
  mem : route ∈ routes
  fits : route.fits m path
  outranks : ∀ other ∈ routes, other.fits m path → other ≠ route → route.path.Outranks other.path

theorem IsForemost.perm (h : IsForemost routes m path route) (hperm : others.Perm routes) :
    IsForemost others m path route :=
  ⟨hperm.mem_iff.mpr h.mem, h.fits, fun other ho => h.outranks other (hperm.mem_iff.mp ho)⟩

theorem IsForemost.unique {other : Route} (h : IsForemost routes m path route)
    (h' : IsForemost routes m path other) : route = other := by
  by_contra hne
  have hfirst := h.outranks other h'.mem h'.fits (Ne.symm hne)
  exact hfirst.asymm (h'.outranks route h.mem h.fits hne)

/-- Without a tie, the first route of the table that fits outranks all others that do. -/
theorem isForemost_of_find? (hdistinct : (routes.map Route.path).Nodup)
    (huntied : ¬IsTied routes path)
    (h : (ofRoutes routes).routes.find? (·.fits m path) = some route) :
    IsForemost routes m path route := by
  have hmem : route ∈ routes := mem_ofRoutes.mp (List.mem_of_find?_eq_some h)
  have hfits : route.fits m path := List.find?_some h
  refine ⟨hmem, hfits, fun other ho hother hne => ?_⟩
  have hpath : route.path ≠ other.path := fun he =>
    hne (List.inj_on_of_nodup_map hdistinct ho hmem he.symm)
  have hcovers : route.path.accepts path := (Bool.and_eq_true_iff.mp hfits).1
  have hcovers' : other.path.accepts path := (Bool.and_eq_true_iff.mp hother).1
  rcases PathPattern.outranks_or_rivals hcovers hcovers' hpath with hranked | hranked | hrivals
  · exact hranked
  · exact absurd (le_of_find? h ho hother) (PathPattern.outranks_iff.mp hranked)
  · exact absurd ⟨route, hmem, other, ho, hrivals, hcovers, hcovers'⟩ huntied

theorem resolve_ok_iff_isForemost (hdistinct : (routes.map Route.path).Nodup)
    (huntied : ¬IsTied routes path) :
    (ofRoutes routes).resolve m path = .ok route ↔ IsForemost routes m path route := by
  rw [resolve_ok_iff]
  refine ⟨isForemost_of_find? hdistinct huntied, fun h => ?_⟩
  have hsome : ((ofRoutes routes).routes.find? (·.fits m path)).isSome :=
    List.find?_isSome.mpr ⟨route, mem_ofRoutes.mpr h.mem, h.fits⟩
  obtain ⟨found, hfound⟩ := Option.isSome_iff_exists.mp hsome
  rw [hfound, (isForemost_of_find? hdistinct huntied hfound).unique h]

/-- Lookups that find the same routes and fail to find any for the same reason are the same. -/
theorem resolve_eq_of_perm (hperm : others.Perm routes)
    (hok : ∀ route, (ofRoutes others).resolve m path = .ok route ↔
      (ofRoutes routes).resolve m path = .ok route) :
    (ofRoutes others).resolve m path = (ofRoutes routes).resolve m path := by
  have hmem (route : Route) : route ∈ (ofRoutes others).routes ↔ route ∈ (ofRoutes routes).routes :=
    mem_ofRoutes.trans (hperm.mem_iff.trans mem_ofRoutes.symm)
  cases h : (ofRoutes routes).resolve m path with
  | ok route => exact (hok route).mpr h
  | error reason =>
    cases reason with
    | path =>
      rw [resolve_path_iff] at h ⊢
      exact fun route hr => h route ((hmem route).mp hr)
    | method =>
      rw [resolve_method_iff] at h ⊢
      obtain ⟨⟨route, hr, hcovers⟩, hnone⟩ := h
      exact ⟨⟨route, (hmem route).mpr hr, hcovers⟩,
        fun route hr => hnone route ((hmem route).mp hr)⟩

theorem ofRoutes_pair_of_not {first second : Route} (h : ¬second.path.Outranks first.path) :
    ofRoutes [first, second] = ⟨[first, second]⟩ := by
  rw [PathPattern.outranks_iff, not_not] at h
  simp [ofRoutes, List.mergeSort, h]

/-- Of two rivals that fit, the one that is declared first is found. -/
theorem resolve_rivals {first second : Route} (h : first.path.rivals second.path)
    (hfirst : first.fits m path) : (ofRoutes [first, second]).resolve m path = .ok first := by
  rw [ofRoutes_pair_of_not (PathPattern.not_outranks_of_rivals h), resolve_ok_iff]
  exact List.find?_cons_of_pos hfirst

/--
The order in which routes of different patterns are declared does not count for a path that no two
templates with texts of one length cover: a table of the same routes in any other order gives the
same answer, be it a route or why there is none. It is the route that fits and outranks all others
that do.
-/
theorem resolve_perm (hdistinct : (routes.map Route.path).Nodup) (hperm : others.Perm routes)
    (huntied : ¬IsTied routes path) (m : Method) :
    (ofRoutes others).resolve m path = (ofRoutes routes).resolve m path ∧
      ∀ route, (ofRoutes others).resolve m path = .ok route ↔ IsForemost routes m path route := by
  have hok (route : Route) :
      (ofRoutes routes).resolve m path = .ok route ↔ IsForemost routes m path route :=
    resolve_ok_iff_isForemost hdistinct huntied
  have hsame : (ofRoutes others).resolve m path = (ofRoutes routes).resolve m path := by
    have hdistinct' : (others.map Route.path).Nodup :=
      (hperm.map Route.path).nodup_iff.mpr hdistinct
    have huntied' : ¬IsTied others path := by
      rintro ⟨a, ha, b, hb, h⟩
      exact huntied ⟨a, hperm.mem_iff.mp ha, b, hperm.mem_iff.mp hb, h⟩
    refine resolve_eq_of_perm hperm fun route => ?_
    rw [resolve_ok_iff_isForemost hdistinct' huntied', hok route]
    exact ⟨fun h => h.perm hperm.symm, fun h => h.perm hperm⟩
  exact ⟨hsame, fun route => hsame ▸ hok route⟩

/-- Two templates that are rivals for one path, and a stem for what they leave. -/
def rivalRoutes : List Route :=
  [⟨"api", .leading "/api", .only [.delete], .backend, true, .keep⟩,
   ⟨"latest", .template "/api/\x7bkind\x7d/latest", .any, .backend, true, .keep⟩,
   ⟨"tenant", .template "/api/tenants/\x7bkey\x7d", .only [.get], .backend, true, .keep⟩]

/-- Where the templates are rivals their order counts; where they are not, that of all is free. -/
theorem resolve_perm_rivals :
    IsTied rivalRoutes "/api/tenants/latest" ∧
      (ofRoutes rivalRoutes.tail).resolve .get "/api/tenants/latest" = .ok rivalRoutes[1] ∧
      (ofRoutes rivalRoutes.tail.reverse).resolve .get "/api/tenants/latest" =
        .ok rivalRoutes[2] ∧
      (rivalRoutes.map Route.path).Nodup ∧ rivalRoutes.reverse.Perm rivalRoutes ∧
      ¬IsTied rivalRoutes "/api/tenants/t1" ∧
      (ofRoutes rivalRoutes.reverse).resolve .delete "/api/tenants/t1" = .ok rivalRoutes[0] := by
  have hdistinct : (rivalRoutes.map Route.path).Nodup := by decide
  have huntied : ¬IsTied rivalRoutes "/api/tenants/t1" := by decide +kernel
  have hperm : rivalRoutes.reverse.Perm rivalRoutes := List.reverse_perm _
  refine ⟨by decide +kernel, resolve_rivals (by decide +kernel) (by decide +kernel),
    resolve_rivals (by decide +kernel) (by decide +kernel), hdistinct, hperm, huntied, ?_⟩
  have honly : ∀ other ∈ rivalRoutes, other.fits .delete "/api/tenants/t1" →
      other = rivalRoutes[0] := by decide +kernel
  refine ((resolve_perm hdistinct hperm huntied .delete).2 _).mpr
    ⟨by decide, by decide +kernel, fun other ho hfits hne => ?_⟩
  exact absurd (honly other ho hfits) hne

end RouteTable

end Gatehouse
