import Gatehouse.Proofs.Cutting
import Gatehouse.Url.Domain

namespace Gatehouse

/-- ASCII characters that a domain may hold. -/
def isHostChar (c : Char) : Bool := isAscii c && isDomainChar c

namespace Punycode

theorem digit_isHostChar {d : Nat} (h : d < 36) : isHostChar (digit d) := by
  have hall : ∀ e ∈ List.range 36, isHostChar (digit e) := by decide
  exact hall d (List.mem_range.mpr h)

theorem threshold_bounds (place bias : Nat) :
    1 ≤ threshold place bias ∧ threshold place bias ≤ 26 := by
  unfold threshold
  split
  · omega
  · split <;> omega

theorem numberDigits_isHostChar {bias fuel place q : Nat} (hq : q ≤ fuel) :
    ∀ c ∈ numberDigits bias fuel place q, isHostChar c := by
  induction fuel generalizing place q with
  | zero =>
    obtain rfl : q = 0 := by omega
    intro c hc
    obtain rfl := List.mem_singleton.mp hc
    exact digit_isHostChar (by omega)
  | succ fuel ih =>
    obtain ⟨hpos, hle⟩ := threshold_bounds place bias
    unfold numberDigits
    dsimp only
    intro c hc
    split at hc
    next hlt =>
      obtain rfl := List.mem_singleton.mp hc
      exact digit_isHostChar (by omega)
    next hge =>
      rcases List.mem_cons.mp hc with rfl | hc
      · have hmod := Nat.mod_lt (q - threshold place bias)
          (show 0 < 36 - threshold place bias by omega)
        exact digit_isHostChar (by omega)
      · have hdiv := Nat.div_le_self (q - threshold place bias) (36 - threshold place bias)
        exact ih (by omega) c hc

theorem pass_isHostChar {basic code : Nat} {p : Progress}
    (h : ∀ c ∈ p.written, isHostChar c) (n : Nat) :
    ∀ c ∈ (p.pass basic code n).written, isHostChar c := by
  unfold Progress.pass
  split
  · exact h
  · split
    · intro c hc
      rcases List.mem_append.mp hc with hc | hc
      · exact h c hc
      · exact numberDigits_isHostChar (Nat.le_refl _) c hc
    · exact h

theorem passes_isHostChar {basic code : Nat} (label : List Nat) {p : Progress}
    (h : ∀ c ∈ p.written, isHostChar c) :
    ∀ c ∈ (label.foldl (Progress.pass basic code) p).written, isHostChar c := by
  induction label generalizing p with
  | nil => exact h
  | cons n rest ih => exact ih (pass_isHostChar h n)

theorem place_isHostChar {label : List Nat} {basic fuel code : Nat} {p : Progress}
    (h : ∀ c ∈ p.written, isHostChar c) :
    ∀ c ∈ (place label basic fuel code p).written, isHostChar c := by
  induction fuel generalizing code p with
  | zero => exact h
  | succ fuel ih =>
    unfold place
    split
    · exact h
    · exact ih (passes_isHostChar label h)

/-- A code holds nothing but digits, hyphens and what its label holds of ASCII. -/
theorem encode_isHostChar {label : List Char} (h : ∀ c ∈ label, isDomainChar c) :
    ∀ c ∈ encode label, isHostChar c := by
  have hbasic : ∀ c ∈ label.filter (·.toNat < 0x80), isHostChar c := by
    intro c hc
    obtain ⟨hmem, hascii⟩ := List.mem_filter.mp hc
    rw [isHostChar, h c hmem, Bool.and_true]
    exact hascii
  unfold encode
  refine place_isHostChar fun c hc => ?_
  dsimp only at hc
  split at hc
  · cases hc
  · rcases List.mem_append.mp hc with hc | hc
    · exact hbasic c hc
    · obtain rfl := List.mem_singleton.mp hc
      decide

end Punycode

theorem ne_of_isHostChar {c d : Char} (h : isHostChar c) (hd : isHostChar d = false) : c ≠ d := by
  rintro rfl
  simp [hd] at h

theorem isAscii_of_isHostChar {c : Char} (h : isHostChar c) : isAscii c := by
  simp only [isHostChar, Bool.and_eq_true] at h
  exact h.1

theorem codedMark_isHostChar : ∀ c ∈ codedMark, isHostChar c := List.all_eq_true.mp (by decide)

theorem decodedLabel?_inv {code label : List Char} (h : decodedLabel? code = some label) :
    (∀ c ∈ label, isDomainChar c) ∧ Punycode.encode label = code := by
  unfold decodedLabel? at h
  split at h
  · cases h
  obtain ⟨found, -, h⟩ := Option.bind_eq_some_iff.mp h
  dsimp only at h
  split at h
  · cases h
  next hfit =>
    split at h
    · cases h
    next hsame =>
      cases Option.some.inj h
      simp only [Bool.or_eq_true, Bool.not_eq_true', not_or, Bool.not_eq_false,
        List.all_eq_true] at hfit
      simp only [bne_iff_ne, ne_eq, Bool.or_eq_true, not_or, Classical.not_not] at hsame
      exact ⟨hfit.2, hsame.2⟩

theorem asciiLabel?_isHostChar {label spelled out : List Char}
    (hs : spelledLabel? label = some spelled) (hfit : isFitLabel spelled)
    (ho : asciiLabel? label = some out) : ∀ c ∈ out, isHostChar c := by
  have hlegal : ∀ c ∈ spelled, isDomainChar c := by
    simp only [isFitLabel, Bool.and_eq_true] at hfit
    exact List.all_eq_true.mp hfit.1
  have hcoded {code : List Char} (h : ∀ c ∈ code, isHostChar c) :
      ∀ c ∈ codedMark ++ code, isHostChar c := by
    intro c hc
    rcases List.mem_append.mp hc with hc | hc
    · exact codedMark_isHostChar c hc
    · exact h c hc
  unfold spelledLabel? at hs
  unfold asciiLabel? at ho
  split at hs
  next code hcode =>
    obtain ⟨hdomain, hcodeeq⟩ := decodedLabel?_inv hs
    have hlabel : label = codedMark ++ code := dropStart?_eq_some hcode
    have hall : ∀ c ∈ label, isHostChar c :=
      hlabel ▸ hcoded (hcodeeq ▸ Punycode.encode_isHostChar hdomain)
    have hascii : label.all isAscii = true :=
      List.all_eq_true.mpr fun c hc => isAscii_of_isHostChar (hall c hc)
    rw [if_pos hascii] at ho
    exact Option.some.inj ho ▸ hall
  next =>
    obtain rfl := Option.some.inj hs
    split at ho
    next hascii =>
      obtain rfl := Option.some.inj ho
      intro c hc
      rw [isHostChar, List.all_eq_true.mp hascii c hc, hlegal c hc]
      rfl
    next =>
      split at ho
      · cases ho
      · obtain rfl := Option.some.inj ho
        exact hcoded (Punycode.encode_isHostChar hlegal)

theorem mapM_eq_some_inv {α β : Type} {f : α → Option β} {xs : List α} {ys : List β}
    (h : xs.mapM f = some ys) :
    (∀ y ∈ ys, ∃ x ∈ xs, f x = some y) ∧ ∀ x ∈ xs, ∃ y ∈ ys, f x = some y := by
  induction xs generalizing ys with
  | nil =>
    rw [List.mapM_nil] at h
    cases Option.some.inj h
    simp
  | cons x rest ih =>
    rw [List.mapM_cons] at h
    obtain ⟨y, hy, h⟩ := Option.bind_eq_some_iff.mp h
    obtain ⟨more, hmore, h⟩ := Option.bind_eq_some_iff.mp h
    cases Option.some.inj h
    obtain ⟨hback, hforth⟩ := ih hmore
    refine ⟨fun z hz => ?_, fun z hz => ?_⟩
    · rcases List.mem_cons.mp hz with rfl | hz
      · exact ⟨x, List.mem_cons_self .., hy⟩
      · obtain ⟨w, hw, hwz⟩ := hback z hz
        exact ⟨w, List.mem_cons_of_mem _ hw, hwz⟩
    · rcases List.mem_cons.mp hz with rfl | hz
      · exact ⟨y, List.mem_cons_self .., hy⟩
      · obtain ⟨w, hw, hwz⟩ := hforth z hz
        exact ⟨w, List.mem_cons_of_mem _ hw, hwz⟩

theorem asciiDomain?_isHostChar {domain out : List Char} (h : asciiDomain? domain = some out) :
    ∀ c ∈ out, isHostChar c := by
  unfold asciiDomain? at h
  obtain ⟨spelled, hspelled, h⟩ := Option.bind_eq_some_iff.mp h
  dsimp only at h
  split at h
  · cases h
  next hfit =>
    split at h
    · cases h
    obtain ⟨outs, houts, h⟩ := Option.bind_eq_some_iff.mp h
    cases Option.some.inj h
    have hfit : ∀ label ∈ spelled, isFitLabel label := by simpa using hfit
    intro c hc
    rcases mem_joinWith hc with hc | ⟨out, hout, hc⟩
    · obtain rfl := List.mem_singleton.mp hc
      decide
    · obtain ⟨label, hlabel, ho⟩ := (mapM_eq_some_inv houts).1 out hout
      obtain ⟨s, hs, hspells⟩ := (mapM_eq_some_inv hspelled).2 label hlabel
      exact asciiLabel?_isHostChar hspells (hfit s hs) ho c hc

end Gatehouse
