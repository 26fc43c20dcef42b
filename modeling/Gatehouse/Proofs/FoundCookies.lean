import Gatehouse.Proofs.CookiePairs

namespace Gatehouse

theorem dropFinish?_singleton {c : Char} {xs inner : List Char}
    (h : dropFinish? [c] xs = some inner) : xs = inner ++ [c] := by
  unfold dropFinish? at h
  split at h
  next hs =>
    cases Option.some.inj h
    obtain ⟨front, rfl⟩ := List.isSuffixOf_iff_suffix.mp hs
    rw [List.length_append, Nat.add_sub_cancel, List.take_left]
  next => cases h

theorem unquote_eq_nil_iff {value : List Char} :
    unquote value = [] ↔ value = [] ∨ value = ['"', '"'] := by
  constructor
  · intro h
    unfold unquote at h
    cases hq : (dropStart? ['"'] value).bind (dropFinish? ['"']) with
    | none =>
      rw [hq] at h
      exact Or.inl h
    | some inner =>
      rw [hq, Option.getD_some] at h
      subst h
      obtain ⟨rest, hstart, hfinish⟩ := Option.bind_eq_some_iff.mp hq
      rw [dropStart?_eq_some hstart, dropFinish?_singleton hfinish]
      exact Or.inr rfl
  · rintro (rfl | rfl) <;> rfl

/-- A pair gives a name this value once the quotes around it are gone. -/
def PairGives (name pair value : List Char) : Prop :=
  ∃ raw, '=' ∉ name ∧ pair = name ++ '=' :: raw ∧ unquote raw = value

/-- The pair of a name with two quotes and nothing between them. -/
def quotedNothing (name : List Char) : List Char := name ++ ['=', '"', '"']

/-- The first value that pairs give a name and that is not empty, with the pairs before that one. -/
structure FirstUsable (name : List Char) (pairs skipped : List (List Char)) (value : List Char) :
    Prop where
  given : ∃ pair more, pairs = skipped ++ pair :: more ∧ PairGives name pair value
  usable : value ≠ []
  first : ∀ pair ∈ skipped, ∀ other, PairGives name pair other → other = []

variable {name pair value raw : List Char} {pairs skipped : List (List Char)}

theorem pairValue?_eq_some_iff : pairValue? name pair = some raw ↔
    '=' ∉ name ∧ pair = name ++ '=' :: raw ∧ raw ≠ [] := by
  unfold pairValue?
  rw [Option.bind_eq_some_iff]
  constructor
  · rintro ⟨⟨key, found⟩, hcut, hv⟩
    obtain ⟨hmem, hpair⟩ := cutAt?_eq_some_iff.mp hcut
    dsimp only at hv
    split at hv
    next hk =>
      cases Option.some.inj hv
      obtain ⟨rfl, hne⟩ := hk
      exact ⟨hmem, hpair, hne⟩
    next => cases hv
  · rintro ⟨hmem, hpair, hne⟩
    exact ⟨(name, raw), cutAt?_eq_some_iff.mpr ⟨hmem, hpair⟩, by simp [hne]⟩

theorem PairGives.pairValue? (h : PairGives name pair value) (hv : value ≠ []) :
    ∃ raw, pairValue? name pair = some raw ∧ unquote raw = value := by
  obtain ⟨raw, hmem, hpair, rfl⟩ := h
  have hraw : raw ≠ [] := fun he => hv (unquote_eq_nil_iff.mpr (Or.inl he))
  exact ⟨raw, pairValue?_eq_some_iff.mpr ⟨hmem, hpair, hraw⟩, rfl⟩

theorem eq_nil_of_pairValue? (hn : pairValue? name pair = none) (h : PairGives name pair value) :
    value = [] := by
  refine Decidable.byContradiction fun hv => ?_
  obtain ⟨raw, hraw, -⟩ := h.pairValue? hv
  rw [hn] at hraw
  cases hraw

/-- What is taken for a value without being one. -/
theorem eq_quotedNothing (h : pairValue? name pair = some raw) (hraw : unquote raw = []) :
    pair = quotedNothing name := by
  obtain ⟨-, rfl, hne⟩ := pairValue?_eq_some_iff.mp h
  rcases unquote_eq_nil_iff.mp hraw with he | rfl
  · exact absurd he hne
  · rfl

namespace FirstUsable

theorem findSome? (h : FirstUsable name pairs skipped value)
    (hq : quotedNothing name ∉ skipped) :
    ∃ raw, pairs.findSome? (pairValue? name) = some raw ∧ unquote raw = value := by
  obtain ⟨pair, more, hpairs, hgives⟩ := h.given
  obtain ⟨raw, hraw, hvalue⟩ := hgives.pairValue? h.usable
  refine ⟨raw, List.findSome?_eq_some_iff.mpr ⟨skipped, pair, more, hpairs, hraw, ?_⟩, hvalue⟩
  intro other hother
  cases hf : Gatehouse.pairValue? name other with
  | none => rfl
  | some found =>
    obtain ⟨hmem, hpair, -⟩ := pairValue?_eq_some_iff.mp hf
    have hnil : unquote found = [] := h.first other hother _ ⟨found, hmem, hpair, rfl⟩
    exact absurd (eq_quotedNothing hf hnil ▸ hother) hq

theorem of_findSome? (h : pairs.findSome? (pairValue? name) = some raw)
    (hraw : unquote raw ≠ []) :
    ∃ skipped, FirstUsable name pairs skipped (unquote raw) ∧ quotedNothing name ∉ skipped := by
  obtain ⟨skipped, pair, more, hpairs, hf, hnone⟩ := List.findSome?_eq_some_iff.mp h
  obtain ⟨hmem, hpair, -⟩ := pairValue?_eq_some_iff.mp hf
  refine ⟨skipped, ⟨⟨pair, more, hpairs, raw, hmem, hpair, rfl⟩, hraw, ?_⟩, fun hq => ?_⟩
  · exact fun other hother v hv => eq_nil_of_pairValue? (hnone other hother) hv
  · have hsome : pairValue? name (quotedNothing name) = some ['"', '"'] :=
      pairValue?_eq_some_iff.mpr ⟨hmem, rfl, by simp⟩
    rw [hnone _ hq] at hsome
    cases hsome

theorem mem_iff_of {p : List Char} (h : FirstUsable name pairs skipped value) {other : List Char}
    {skipped' : List (List Char)} (h' : FirstUsable name pairs skipped' other) :
    p ∈ skipped ↔ p ∈ skipped' := by
  obtain ⟨pair, more, hpairs, hgives⟩ := h.given
  obtain ⟨pair', more', hpairs', hgives'⟩ := h'.given
  rcases List.append_eq_append_iff.mp (hpairs.symm.trans hpairs') with
    ⟨between, hs, hrest⟩ | ⟨between, hs, hrest⟩
  · cases between with
    | nil => rw [hs, List.append_nil]
    | cons b rest =>
      obtain ⟨rfl, -⟩ := List.cons.inj hrest
      exact absurd (h'.first pair (hs ▸ by simp) _ hgives) h.usable
  · cases between with
    | nil => rw [hs, List.append_nil]
    | cons b rest =>
      obtain ⟨rfl, -⟩ := List.cons.inj hrest
      exact absurd (h.first pair' (hs ▸ by simp) _ hgives') h'.usable

theorem exists_of_mem (hp : pair ∈ pairs) (hg : PairGives name pair value) (hv : value ≠ []) :
    ∃ skipped value, FirstUsable name pairs skipped value := by
  induction pairs with
  | nil => cases hp
  | cons first rest ih =>
    by_cases hfirst : ∃ v, PairGives name first v ∧ v ≠ []
    · obtain ⟨v, hgives, hne⟩ := hfirst
      exact ⟨[], v, ⟨first, rest, rfl, hgives⟩, hne, by simp⟩
    · have hnone : ∀ v, PairGives name first v → v = [] := fun v hgives =>
        Decidable.byContradiction fun hne => hfirst ⟨v, hgives, hne⟩
      rcases List.mem_cons.mp hp with rfl | hp
      · exact absurd (hnone value hg) hv
      · obtain ⟨skipped, v, ⟨p, more, hrest, hgives⟩, hne, hbefore⟩ := ih hp
        refine ⟨first :: skipped, v, ⟨p, more, by rw [hrest]; rfl, hgives⟩, hne, ?_⟩
        intro q hq
        rcases List.mem_cons.mp hq with rfl | hq
        · exact hnone
        · exact hbefore q hq

end FirstUsable

namespace Headers

theorem cookieValue?_eq_some_iff (h : Headers) (name value : String) :
    h.cookieValue? name = some value ↔
      ∃ skipped, FirstUsable name.toList h.cookiePairs skipped value.toList ∧
        quotedNothing name.toList ∉ skipped := by
  rw [cookieValue?_eq, Option.bind_eq_some_iff]
  constructor
  · rintro ⟨found, hfound, hvalue⟩
    obtain ⟨raw, hraw, rfl⟩ := Option.map_eq_some_iff.mp hfound
    split at hvalue
    next => cases hvalue
    next hne =>
      cases Option.some.inj hvalue
      rw [String.toList_ofList]
      exact FirstUsable.of_findSome? hraw (by simpa using hne)
  · rintro ⟨skipped, hfirst, hq⟩
    obtain ⟨raw, hraw, hvalue⟩ := hfirst.findSome? hq
    refine ⟨value.toList, by rw [hraw, Option.map_some, hvalue], ?_⟩
    rw [if_neg (by simpa using hfirst.usable), String.ofList_toList]

/--
A cookie is found with the first value of its name that is not empty without the quotes around it,
unless a pair before that gives the name two quotes and nothing between them: then none is found, as
if there were no such value.
-/
theorem cookieValue?_usable (h : Headers) (name : String) :
    (∀ value, h.cookieValue? name = some value ↔
      ∃ skipped, FirstUsable name.toList h.cookiePairs skipped value.toList ∧
        quotedNothing name.toList ∉ skipped) ∧
    (h.cookieValue? name = none ↔
      (∀ pair ∈ h.cookiePairs, ∀ value, PairGives name.toList pair value → value = []) ∨
      ∃ skipped value, FirstUsable name.toList h.cookiePairs skipped value ∧
        quotedNothing name.toList ∈ skipped) := by
  refine ⟨h.cookieValue?_eq_some_iff name, fun hnone => ?_, fun hcases => ?_⟩
  · by_cases hu : ∃ skipped value, FirstUsable name.toList h.cookiePairs skipped value
    · obtain ⟨skipped, value, hfirst⟩ := hu
      refine Or.inr ⟨skipped, value, hfirst, Decidable.byContradiction fun hq => ?_⟩
      have hfound := (h.cookieValue?_eq_some_iff name (String.ofList value)).mpr
        ⟨skipped, by rwa [String.toList_ofList], hq⟩
      rw [hnone] at hfound
      cases hfound
    · refine Or.inl fun pair hp value hg => Decidable.byContradiction fun hv => hu ?_
      exact FirstUsable.exists_of_mem hp hg hv
  · rw [Option.eq_none_iff_forall_ne_some]
    intro value hvalue
    obtain ⟨skipped, hfirst, hq⟩ := (h.cookieValue?_eq_some_iff name value).mp hvalue
    rcases hcases with hempty | ⟨skipped', value', hfirst', hq'⟩
    · obtain ⟨pair, more, hpairs, hgives⟩ := hfirst.given
      exact hfirst.usable (hempty pair (by simp [hpairs]) _ hgives)
    · exact hq ((hfirst'.mem_iff_of hfirst).mp hq')

/-- A session in the second field, behind an empty one and before another. -/
def repeated : Headers :=
  (Headers.empty.add .cookie ⟨octetsOf "theme=dark; session_token=", by decide⟩).add .cookie
    ⟨octetsOf " session_token=\"tok\"; session_token=later", by decide⟩

theorem cookieValue?_usable_repeated :
    repeated.sessionToken? = some "tok" ∧
      ∃ skipped, FirstUsable sessionCookie.toList repeated.cookiePairs skipped "tok".toList ∧
        quotedNothing sessionCookie.toList ∉ skipped := by
  have hfound : repeated.sessionToken? = some "tok" := by decide +kernel
  exact ⟨hfound, ((cookieValue?_usable repeated sessionCookie).1 "tok").mp hfound⟩

/-- A session behind two quotes with nothing between them. -/
def overshadowed : Headers :=
  Headers.empty.add .cookie ⟨octetsOf "session_token=\"\"; session_token=abc", by decide⟩

/-- There is a session in these cookies, and none is found. -/
theorem session_overlooked :
    (∃ skipped, FirstUsable sessionCookie.toList overshadowed.cookiePairs skipped "abc".toList) ∧
      overshadowed.sessionToken? = none := by
  refine ⟨⟨["session_token=\"\"".toList],
    ⟨"session_token=abc".toList, [], by decide +kernel, "abc".toList, ?_⟩, by decide, ?_⟩,
    by decide +kernel⟩
  · exact ⟨by decide, by decide, by decide⟩
  · intro pair hp other hg
    obtain rfl := List.mem_singleton.mp hp
    have hnothing : pairValue? sessionCookie.toList "session_token=\"\"".toList =
      some ['"', '"'] := by decide
    obtain ⟨raw, -, hpair, rfl⟩ := hg
    obtain ⟨-, hnamed, -⟩ := pairValue?_eq_some_iff.mp hnothing
    have hraw := List.append_cancel_left (hpair.symm.trans hnamed)
    obtain ⟨-, rfl⟩ := List.cons.inj hraw
    rfl

end Headers

end Gatehouse
