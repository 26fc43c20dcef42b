import Mathlib.Data.String.Basic
import Gatehouse.Route.Outbound

namespace Gatehouse

theorem Except.bind_eq_ok_iff {ε α β : Type} {x : Except ε α} {f : α → Except ε β} {b : β} :
    x >>= f = .ok b ↔ ∃ a, x = .ok a ∧ f a = .ok b := by
  cases x <;> simp [bind, Except.bind]

theorem ne_of_isPathChar {c : Char} (h : isPathChar c) : c ≠ '?' ∧ c ≠ '#' := by
  constructor <;>
  · rintro rfl
    exact absurd h (by decide)

theorem ne_of_isQueryChar {c : Char} (h : isQueryChar c) : c ≠ '#' := by
  rintro rfl
  exact absurd h (by decide)

namespace PathAndQuery

/-- Whether a place holds no character that it may not hold. -/
structure IsLegal (place : PathAndQuery) : Prop where
  path : ∀ c ∈ place.path.toList, isPathChar c
  query : ∀ q, place.query = some q → ∀ c ∈ q.toList, isQueryChar c

theorem utf8ByteSize_text (place : PathAndQuery) :
    place.text.utf8ByteSize = String.utf8Len place.chars := String.utf8ByteSize_ofList _

theorem scan_isLegal {cs : List Char} {place : PathAndQuery} (h : scan cs = .ok place) :
    place.IsLegal := by
  unfold scan at h
  dsimp only at h
  split at h
  · cases h
  next hpath =>
    have hchars : ∀ c ∈ cs.takeWhile (fun c => c != '?' && c != '#'), isPathChar c := by
      simpa using hpath
    have hlegal : ∀ c ∈ (if (cs.takeWhile fun c => c != '?' && c != '#').isEmpty then "/"
        else String.ofList (cs.takeWhile fun c => c != '?' && c != '#')).toList, isPathChar c := by
      split
      · exact List.all_eq_true.mp (by decide)
      · rw [String.toList_ofList]
        exact hchars
    split at h
    · split at h
      next hq =>
        cases Except.ok.inj h
        refine ⟨hlegal, fun q hquery c hc => ?_⟩
        cases Option.some.inj hquery
        rw [String.toList_ofList] at hc
        exact List.all_eq_true.mp hq c hc
      · cases h
    · cases Except.ok.inj h
      exact ⟨hlegal, fun q hquery => by cases hquery⟩

theorem scan_size {cs : List Char} {place : PathAndQuery} (h : scan cs = .ok place) :
    place.path = "/" ∨ place.text.utf8ByteSize ≤ String.utf8Len cs := by
  unfold scan at h
  dsimp only at h
  split at h
  · cases h
  by_cases he : (cs.takeWhile fun c => c != '?' && c != '#').isEmpty = true
  · rw [if_pos he] at h
    split at h
    · split at h <;> cases h
      exact Or.inl rfl
    · cases h
      exact Or.inl rfl
  · rw [if_neg he] at h
    refine Or.inr ?_
    rw [utf8ByteSize_text]
    have hcut := List.takeWhile_append_dropWhile (p := fun c => c != '?' && c != '#') (l := cs)
    split at h
    next rest hrest =>
      split at h
      · cases Except.ok.inj h
        rw [hrest] at hcut
        have hquery := String.utf8Len_le_of_prefix (rest.takeWhile_prefix (· != '#'))
        simp only [chars, String.toList_ofList]
        conv_rhs => rw [← hcut]
        simp only [String.utf8Len_append, String.utf8Len_cons]
        omega
      · cases h
    · cases Except.ok.inj h
      simp only [chars, String.toList_ofList, List.append_nil]
      exact String.utf8Len_le_of_prefix (List.takeWhile_prefix _)

theorem scan_chars {place : PathAndQuery} (hl : place.IsLegal) (hne : place.path.toList ≠ []) :
    scan place.chars = .ok place := by
  obtain ⟨path, query⟩ := place
  have hstop : ∀ c ∈ path.toList, (fun c => c != '?' && c != '#') c = true := by
    intro c hc
    have hne := ne_of_isPathChar (hl.path c hc)
    simp [hne.1, hne.2]
  have hall : path.toList.all isPathChar = true := List.all_eq_true.mpr hl.path
  have hsome : path.toList.isEmpty = false := by simpa using hne
  unfold scan chars
  rw [List.takeWhile_append_of_pos hstop, List.dropWhile_append_of_pos hstop]
  cases query with
  | none => simp [hall, hsome]
  | some q =>
    have hq : ∀ c ∈ q.toList, (c != '#') = true := by
      intro c hc
      simpa using ne_of_isQueryChar (hl.query q rfl c hc)
    have hqall : q.toList.all isQueryChar = true := List.all_eq_true.mpr (hl.query q rfl)
    have htake : (q.toList ++ []).takeWhile (· != '#') = q.toList ++ [].takeWhile (· != '#') :=
      List.takeWhile_append_of_pos hq
    rw [List.append_nil, List.takeWhile_nil, List.append_nil] at htake
    simp [htake, hall, hqall, hsome]

/-- What is read from the text of a place has its path, whatever becomes of the query. -/
theorem scan_path {place found : PathAndQuery} (hl : ∀ c ∈ place.path.toList, isPathChar c)
    (hne : place.path.toList ≠ []) (h : scan place.chars = .ok found) :
    found.path = place.path := by
  obtain ⟨path, query⟩ := place
  have hstop : ∀ c ∈ path.toList, (fun c => c != '?' && c != '#') c = true := by
    intro c hc
    have hne := ne_of_isPathChar (hl c hc)
    simp [hne.1, hne.2]
  have hpath : (chars ⟨path, query⟩).takeWhile (fun c => c != '?' && c != '#') = path.toList := by
    unfold chars
    rw [List.takeWhile_append_of_pos hstop]
    cases query <;> simp
  have hsome : path.toList.isEmpty = false := by simpa using hne
  unfold scan at h
  rw [hpath] at h
  simp only [List.all_eq_true.mpr hl, hsome, String.ofList_toList] at h
  split at h
  · cases h
  split at h
  · split at h <;> cases h
    rfl
  · cases h
    rfl

/-- A legal place is read again from its text, as long as that is not too long. -/
theorem ofText_text {place : PathAndQuery} (hl : place.IsLegal)
    (hs : place.path.toList.head? = some '/') (hn : place.text.utf8ByteSize ≤ maxTargetLength) :
    ofText place.text = .ok place := by
  obtain ⟨rest, hpath⟩ : ∃ rest, place.path.toList = '/' :: rest := by
    cases hp : place.path.toList with
    | nil => simp [hp] at hs
    | cons c rest =>
      simp only [hp, List.head?_cons, Option.some.injEq] at hs
      exact ⟨rest, by rw [hs]⟩
  obtain ⟨more, hchars⟩ : ∃ more, place.chars = '/' :: more := by
    simp only [chars, hpath, List.cons_append]
    exact ⟨_, rfl⟩
  have hscan := scan_chars hl (by simp [hpath])
  unfold ofText
  rw [if_neg (by omega), text, String.toList_ofList, hchars]
  rw [hchars] at hscan
  simp [hscan]

/-- What is read from a text with a leading slash is the text up to its fragment. -/
theorem scan_ok_inv {cs : List Char} {place : PathAndQuery} (hs : cs.head? = some '/')
    (h : scan cs = .ok place) :
    place.path.toList.head? = some '/' ∧ place.chars = cs.takeWhile (· != '#') := by
  have hcut := List.takeWhile_append_dropWhile (p := fun c => c != '?' && c != '#') (l := cs)
  have hpath : ∀ c ∈ cs.takeWhile (fun c => c != '?' && c != '#'), (c != '#') = true := by
    intro c hc
    have hc := List.all_eq_true.mp List.all_takeWhile c hc
    simp only [Bool.and_eq_true] at hc
    exact hc.2
  have hfirst : (cs.takeWhile fun c => c != '?' && c != '#').head? = some '/' := by
    cases cs with
    | nil => cases hs
    | cons c rest =>
      obtain rfl := Option.some.inj hs
      rfl
  have hsome : (cs.takeWhile fun c => c != '?' && c != '#').isEmpty = false := by
    cases hpath : cs.takeWhile fun c => c != '?' && c != '#' with
    | nil => simp [hpath] at hfirst
    | cons => rfl
  have hstop : cs.takeWhile (· != '#') = cs.takeWhile (fun c => c != '?' && c != '#') ++
      (cs.dropWhile fun c => c != '?' && c != '#').takeWhile (· != '#') := by
    conv_lhs => rw [← hcut]
    exact List.takeWhile_append_of_pos hpath
  unfold scan at h
  simp only [hsome, Bool.false_eq_true, if_false] at h
  split at h
  · cases h
  rw [hstop]
  split at h
  next rest hrest =>
    split at h
    · cases Except.ok.inj h
      rw [hrest]
      exact ⟨by simpa using hfirst, by simp [chars]⟩
    · cases h
  next hnot =>
    cases Except.ok.inj h
    have hnil : (cs.dropWhile fun c => c != '?' && c != '#').takeWhile (· != '#') = [] := by
      cases hrest : cs.dropWhile fun c => c != '?' && c != '#' with
      | nil => rfl
      | cons d more =>
        have hd := List.head?_dropWhile_not (fun c => c != '?' && c != '#') cs
        rw [hrest] at hd
        have hne : d ≠ '?' := fun he => hnot more (he ▸ hrest)
        have hd : d = '#' := by simpa [hne] using hd
        simp [hd]
    rw [hnil]
    exact ⟨by simpa using hfirst, by simp [chars]⟩

theorem ofText_inv {text : String} {place : PathAndQuery} (hs : text.toList.head? = some '/')
    (h : ofText text = .ok place) :
    text.utf8ByteSize ≤ maxTargetLength ∧ scan text.toList = .ok place := by
  unfold ofText at h
  split at h
  · cases h
  next hn =>
    refine ⟨by omega, ?_⟩
    split at h
    · cases h
    next ht => simp [ht] at hs
    next ht =>
      split at h
      · rw [ht]
        exact h
      · cases h

/-- What was read from a text with a leading slash is read again from its own text. -/
theorem ofText_text_of_ofText {text : String} {place : PathAndQuery}
    (hs : text.toList.head? = some '/') (h : ofText text = .ok place) :
    ofText place.text = .ok place := by
  obtain ⟨hn, hscan⟩ := ofText_inv hs h
  obtain ⟨hpath, hchars⟩ := scan_ok_inv hs hscan
  have hsize : place.text.utf8ByteSize ≤ maxTargetLength := by
    have hle := String.utf8Len_le_of_prefix (text.toList.takeWhile_prefix (· != '#'))
    rw [← hchars, ← utf8ByteSize_text, ← String.utf8ByteSize_ofList text.toList,
      String.ofList_toList] at hle
    omega
  exact ofText_text (scan_isLegal hscan) hpath hsize

end PathAndQuery

theorem cutAuthority_suffix {cs authority rest : List Char}
    (h : cutAuthority cs = .ok (authority, rest)) : rest <:+ cs := by
  unfold cutAuthority at h
  dsimp only at h
  cases hs : (cs.takeWhile (!endsAuthority ·)).foldlM AuthorityScan.step {} with
  | error fault => rw [hs] at h; cases h
  | ok seen =>
    rw [hs] at h
    simp only [bind, Except.bind] at h
    split at h
    · cases Except.ok.inj h
      exact List.dropWhile_suffix _
    · cases h

theorem cutScheme_suffix {cs rest : List Char} {scheme : String}
    (h : cutScheme cs = .ok (some (scheme, rest))) : rest <:+ cs := by
  unfold cutScheme at h
  dsimp only at h
  split at h
  next after hdrop =>
    have hsuffix : after <:+ cs := by
      have hdropped := List.drop_suffix (cs.takeWhile isSchemeChar).length cs
      rw [hdrop] at hdropped
      exact (List.suffix_cons _ _ |>.trans (List.suffix_cons _ _) |>.trans
        (List.suffix_cons _ _)).trans hdropped
    split at h
    · cases Except.ok.inj h
      exact hsuffix
    · split at h
      · cases h
      · split at h
        · cases h
        · cases Except.ok.inj h
          exact hsuffix
  · cases h

namespace RequestTarget

/-- What a target that was read asks for is the root, a star, or read from the end of the text. -/
theorem ofText_place {text : String} {t : RequestTarget} {place : PathAndQuery}
    (h : ofText text = .ok t) (hp : t.pathAndQuery? = some place) :
    place = ⟨"/", none⟩ ∨ place = ⟨"*", none⟩ ∨
      ∃ cs, cs <:+ text.toList ∧ PathAndQuery.scan cs = .ok place := by
  unfold ofText at h
  split at h
  · cases h
  split at h
  · cases h
  · cases h
    exact Or.inl (Option.some.inj hp).symm
  · cases h
    exact Or.inr (Or.inl (Option.some.inj hp).symm)
  · obtain ⟨_, _, h⟩ := Except.bind_eq_ok_iff.mp h
    cases h
    cases hp
  next rest _ htext =>
    obtain ⟨found, hscan, h⟩ := Except.bind_eq_ok_iff.mp h
    cases h
    cases hp
    exact Or.inr (Or.inr ⟨_, htext ▸ List.suffix_refl _, hscan⟩)
  next =>
    obtain ⟨cut, hcut, h⟩ := Except.bind_eq_ok_iff.mp h
    split at h
    · obtain ⟨⟨authority, rest⟩, hauthority, h⟩ := Except.bind_eq_ok_iff.mp h
      dsimp only at h
      split at h <;> cases h
      cases hp
    next scheme after =>
      dsimp only at h
      split at h
      · cases h
      obtain ⟨⟨authority, rest⟩, hauthority, h⟩ := Except.bind_eq_ok_iff.mp h
      dsimp only at h
      split at h
      · cases h
      obtain ⟨found, hscan, h⟩ := Except.bind_eq_ok_iff.mp h
      cases h
      cases hp
      exact Or.inr (Or.inr ⟨rest, (cutAuthority_suffix hauthority).trans (cutScheme_suffix hcut),
        hscan⟩)

/-- What a target that was read asks for is legal, and too long only if it is the root. -/
theorem place_of_ofText {text : String} {t : RequestTarget} {place : PathAndQuery}
    (h : ofText text = .ok t) (hp : t.pathAndQuery? = some place) :
    place.IsLegal ∧ (place.path = "/" ∨ place.text.utf8ByteSize ≤ maxTargetLength) := by
  have hsize : text.utf8ByteSize ≤ maxTargetLength := by
    unfold ofText at h
    split at h
    · cases h
    · omega
  rcases ofText_place h hp with rfl | rfl | ⟨cs, hcs, hscan⟩
  · exact ⟨⟨List.all_eq_true.mp (by decide), by simp⟩, Or.inl rfl⟩
  · exact ⟨⟨List.all_eq_true.mp (by decide), by simp⟩, Or.inr (by decide)⟩
  · refine ⟨PathAndQuery.scan_isLegal hscan, ?_⟩
    rcases PathAndQuery.scan_size hscan with hroot | hlen
    · exact Or.inl hroot
    · refine Or.inr ?_
      have hfits := String.utf8Len_le_of_suffix hcs
      rw [← String.utf8ByteSize_ofList text.toList, String.ofList_toList] at hfits
      omega

/-- The same target at another place. -/
def atPlace : RequestTarget → PathAndQuery → RequestTarget
  | resource _, place => resource place
  | absolute scheme authority _, place => absolute scheme authority place
  | server authority, _ => server authority

theorem pathAndQuery?_of_path {t : RequestTarget} (h : t.path ≠ "") :
    t.pathAndQuery? = some ⟨t.path, t.query⟩ := by
  cases t with
  | resource | absolute => rfl
  | server => exact absurd rfl h

theorem forwarded_of_path {t : RequestTarget} (h : t.path ≠ "") :
    t.forwarded = ⟨t.path, t.query⟩ := by
  rw [forwarded, pathAndQuery?_of_path h]
  rfl

theorem forwarded_atPlace {t : RequestTarget} {place : PathAndQuery} (h : t.path ≠ "") :
    (t.atPlace place).forwarded = place := by
  cases t with
  | resource | absolute => rfl
  | server => exact absurd rfl h

theorem text_some (path q : String) : (PathAndQuery.mk path (some q)).text = path ++ "?" ++ q := by
  show String.ofList (path.toList ++ (['?'] ++ q.toList)) = path ++ "?" ++ q
  rw [← List.append_assoc, String.ofList_append, String.ofList_append, String.ofList_toList,
    String.ofList_toList]

theorem text_none (path : String) : (PathAndQuery.mk path none).text = path := by
  simp [PathAndQuery.text, PathAndQuery.chars]

theorem withPath_of_ok {t : RequestTarget} {old new : PathAndQuery} {path : String}
    (hp : t.pathAndQuery? = some old)
    (h : PathAndQuery.ofText (PathAndQuery.mk path t.query).text = .ok new) :
    t.withPath path = .ok (t.atPlace new) := by
  unfold withPath
  cases hq : t.query with
  | none =>
    rw [hq, text_none] at h
    cases t with
    | resource | absolute => simp [h, atPlace]
    | server => cases hp
  | some q =>
    rw [hq, text_some] at h
    cases t with
    | resource | absolute => simp [h, atPlace]
    | server => cases hp

theorem withPath_of_error {t : RequestTarget} {path : String} {fault : TargetFault}
    (h : PathAndQuery.ofText (PathAndQuery.mk path t.query).text = .error fault) :
    t.withPath path = .error .internal := by
  unfold withPath
  cases hq : t.query with
  | none =>
    rw [hq, text_none] at h
    simp [h]
  | some q =>
    rw [hq, text_some] at h
    simp [h]

theorem withPath_ok_inv {t t' : RequestTarget} {path : String} (h : t.withPath path = .ok t') :
    PathAndQuery.ofText (PathAndQuery.mk path t.query).text = .ok t'.forwarded := by
  cases hread : PathAndQuery.ofText (PathAndQuery.mk path t.query).text with
  | error fault =>
    rw [withPath_of_error hread] at h
    cases h
  | ok place =>
    cases hp : t.pathAndQuery? with
    | none =>
      cases t with
      | server authority =>
        have hnone : (server authority).query = none := rfl
        rw [hnone, text_none] at hread
        simp [withPath, hnone, hread] at h
      | resource | absolute => cases hp
    | some old =>
      rw [withPath_of_ok hp hread] at h
      cases Except.ok.inj h
      cases t with
      | server => cases hp
      | resource | absolute => rfl

/-- A target goes to another legal path, unless it gets too long. -/
theorem path_of_withPath {t t' : RequestTarget} {path : String}
    (hl : ∀ c ∈ path.toList, isPathChar c) (hs : path.toList.head? = some '/')
    (h : t.withPath path = .ok t') : t'.forwarded.path = path := by
  have hread := withPath_ok_inv h
  have hstart : (PathAndQuery.mk path t.query).text.toList.head? = some '/' := by
    rw [PathAndQuery.text, String.toList_ofList, PathAndQuery.chars, List.head?_append, hs]
    rfl
  obtain ⟨-, hscan⟩ := PathAndQuery.ofText_inv hstart hread
  rw [PathAndQuery.text, String.toList_ofList] at hscan
  have hne : path.toList ≠ [] := fun he => by simp [he] at hs
  exact PathAndQuery.scan_path hl hne hscan

theorem withPath_of_isLegal {t : RequestTarget} {place : PathAndQuery} {path : String}
    (hp : t.pathAndQuery? = some place) (hl : (PathAndQuery.mk path place.query).IsLegal)
    (hs : path.toList.head? = some '/') :
    t.withPath path =
      if maxTargetLength < (PathAndQuery.mk path place.query).text.utf8ByteSize then
        .error .internal
      else .ok (t.atPlace ⟨path, place.query⟩) := by
  have hquery : t.query = place.query := by simp [query, hp]
  by_cases hn : maxTargetLength < (PathAndQuery.mk path place.query).text.utf8ByteSize
  · rw [if_pos hn]
    have hlong : PathAndQuery.ofText (PathAndQuery.mk path place.query).text = .error .tooLong := by
      unfold PathAndQuery.ofText
      rw [if_pos hn]
    exact withPath_of_error (hquery ▸ hlong)
  · rw [if_neg hn]
    have hread : PathAndQuery.ofText (PathAndQuery.mk path place.query).text =
        .ok ⟨path, place.query⟩ := PathAndQuery.ofText_text hl hs (by omega)
    exact withPath_of_ok hp (hquery ▸ hread)

end RequestTarget

end Gatehouse
