import Gatehouse.Proofs.Session
import Gatehouse.Proofs.Visible

namespace Gatehouse

theorem findCookie?_isVisible {name field value : List Char} (hf : IsVisible field)
    (h : findCookie? name field = some value) : IsVisible value := by
  obtain ⟨piece, hp, h⟩ := List.exists_of_findSome?_eq_some h
  obtain ⟨⟨key, v⟩, hcut, h⟩ := Option.bind_eq_some_iff.mp h
  have hv : v ⊆ piece := List.Subset.trans (cutAt?_subset hcut).2 (trimBy_subset _ _)
  dsimp only at h
  split at h
  · cases Option.some.inj h
    exact hf.subset (List.Subset.trans hv (subset_of_mem_piecesBy hp))
  · cases h

theorem unquote_subset (value : List Char) : unquote value ⊆ value := by
  unfold unquote
  cases h : (dropStart? ['"'] value).bind (dropFinish? ['"']) with
  | none => exact List.Subset.refl value
  | some inner =>
    obtain ⟨rest, hs, hf⟩ := Option.bind_eq_some_iff.mp h
    exact List.Subset.trans (dropFinish?_subset hf) (dropStart?_subset hs)

namespace Headers

theorem cookieFields_isVisible {h : Headers} {field : List Char} (hf : field ∈ h.cookieFields) :
    IsVisible field := by
  obtain ⟨v, _, hv⟩ := List.mem_filterMap.mp hf
  exact HeaderValue.chars?_isVisible hv

theorem cookieValue?_isVisible {h : Headers} {name value : String}
    (hv : h.cookieValue? name = some value) : IsVisible value.toList := by
  obtain ⟨found, hfound, hvalue⟩ := Option.bind_eq_some_iff.mp hv
  obtain ⟨raw, hraw, rfl⟩ := Option.map_eq_some_iff.mp hfound
  have hvis : IsVisible raw := by
    rw [Option.orElse_eq_orElse, Option.orElse_eq_or, Option.or_eq_some_iff] at hraw
    rcases hraw with hfirst | ⟨_, hlater⟩
    · obtain ⟨field, hfield, hcookie⟩ := Option.bind_eq_some_iff.mp hfirst
      obtain ⟨v, _, hchars⟩ := Option.bind_eq_some_iff.mp hfield
      exact findCookie?_isVisible (HeaderValue.chars?_isVisible hchars) hcookie
    · obtain ⟨field, hfield, hcookie⟩ := List.exists_of_findSome?_eq_some hlater
      exact findCookie?_isVisible (cookieFields_isVisible hfield) hcookie
  split at hvalue
  · cases hvalue
  · cases Option.some.inj hvalue
    rw [String.toList_ofList]
    exact hvis.subset (unquote_subset raw)

theorem fullCookie?_isVisible {h : Headers} {text : String} (ht : h.fullCookie? = some text) :
    IsVisible text.toList := by
  unfold fullCookie? at ht
  dsimp only at ht
  split at ht
  · cases ht
  · cases Option.some.inj ht
    rw [String.toList_ofList]
    refine IsVisible.joinWith (by decide) fun part hpart => ?_
    obtain ⟨hmem, _⟩ := List.mem_filter.mp hpart
    obtain ⟨field, hfield, rfl⟩ := List.mem_map.mp hmem
    exact (cookieFields_isVisible hfield).subset (trimBy_subset _ _)

end Headers

theorem sessionCookie_isVisible {token : String} (h : IsVisible token.toList) :
    IsVisible (sessionCookie ++ "=" ++ token).toList := by
  rw [String.toList_append, String.toList_append]
  exact (IsVisible.append (by decide) (by decide)).append h

theorem refreshCookies_isVisible (h : Headers) {token : String} (ht : IsVisible token.toList) :
    IsVisible (h.refreshCookies token).toList := by
  unfold Headers.refreshCookies
  cases hc : h.fullCookie? with
  | none => exact sessionCookie_isVisible ht
  | some text => exact Headers.fullCookie?_isVisible hc

end Gatehouse
