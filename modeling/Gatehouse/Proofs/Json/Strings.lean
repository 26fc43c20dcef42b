import Gatehouse.Json.Parser
import Gatehouse.Json.Printer

namespace Gatehouse

namespace Json

/-- A character is spelt, behind an opening quote, at the front of some characters. -/
inductive CharAt : Char → List Char → List Char → Prop where
  | plain {c : Char} {rest : List Char} (hlow : ¬c.toNat < 0x20) (hquote : c ≠ '"')
      (hslash : c ≠ '\\') : CharAt c (c :: rest) rest
  | short {e c : Char} {rest : List Char} (h : escaped? e = some c) :
      CharAt c ('\\' :: e :: rest) rest
  | unit {d₁ d₂ d₃ d₄ : Char} {n : Nat} {rest : List Char} (h : unit? d₁ d₂ d₃ d₄ = some n)
      (hhigh : isHighSurrogate n = false) (hlow : isLowSurrogate n = false) :
      CharAt (Char.ofNat n) ('\\' :: 'u' :: d₁ :: d₂ :: d₃ :: d₄ :: rest) rest
  | pair {d₁ d₂ d₃ d₄ e₁ e₂ e₃ e₄ : Char} {high low : Nat} {rest : List Char}
      (hd : unit? d₁ d₂ d₃ d₄ = some high) (hhigh : isHighSurrogate high)
      (he : unit? e₁ e₂ e₃ e₄ = some low) (hlow : isLowSurrogate low) :
      CharAt (Char.ofNat (0x10000 + (high - 0xD800) * 0x400 + (low - 0xDC00)))
        ('\\' :: 'u' :: d₁ :: d₂ :: d₃ :: d₄ :: '\\' :: 'u' :: e₁ :: e₂ :: e₃ :: e₄ :: rest) rest

/-- A text is spelt, behind an opening quote and up to the closing one, at the front. -/
inductive TextAt : List Char → List Char → List Char → Prop where
  | close {rest : List Char} : TextAt [] ('"' :: rest) rest
  | next {c : Char} {text cs mid rest : List Char} (hc : CharAt c cs mid)
      (h : TextAt text mid rest) : TextAt (c :: text) cs rest

variable {c : Char} {before text cs mid rest chars : List Char}

theorem CharAt.length_lt (h : CharAt c cs mid) : mid.length < cs.length := by
  cases h <;> simp only [List.length_cons] <;> omega

theorem stringBody_go_of_charAt (h : CharAt c cs mid) (before : List Char) :
    stringBody.go before cs = stringBody.go (c :: before) mid := by
  cases h with
  | plain hlow hquote hslash =>
    rw [stringBody.go.eq_def]
    simp [hlow, hslash]
  | @short e _ _ h =>
    have he : e ≠ 'u' := by
      rintro rfl
      cases h
    rw [stringBody.go, h]
    exact fun _ _ _ _ _ heq _ => he heq
  | unit h hhigh hlow =>
    rw [stringBody.go.eq_def]
    simp [h, hhigh, hlow]
  | pair hd hhigh he hlow =>
    rw [stringBody.go.eq_def]
    simp [hd, hhigh, he, hlow]

/-- What is read of a string is its end, or one character and then the rest of the string. -/
theorem stringBody_go_inv (h : stringBody.go before cs = some (chars, rest)) :
    (cs = '"' :: rest ∧ chars = before.reverse) ∨
      ∃ c mid, CharAt c cs mid ∧ stringBody.go (c :: before) mid = some (chars, rest) := by
  rw [stringBody.go.eq_def] at h
  split at h
  next d₁ d₂ d₃ d₄ more =>
    split at h
    · cases h
    next n hn =>
      split at h
      next hhigh =>
        split at h
        next e₁ e₂ e₃ e₄ after =>
          split at h
          · cases h
          next low hl =>
            split at h
            next hlow => exact Or.inr ⟨_, _, .pair hn hhigh hl hlow, h⟩
            · cases h
        · cases h
      next hhigh =>
        split at h
        · cases h
        next hlow =>
          exact Or.inr ⟨_, _, .unit hn (by simpa using hhigh) (by simpa using hlow), h⟩
  next e more _ =>
    split at h
    · cases h
    next c hc => exact Or.inr ⟨c, more, .short hc, h⟩
  next more =>
    obtain ⟨rfl, rfl⟩ := Prod.mk.inj (Option.some.inj h)
    exact Or.inl ⟨rfl, rfl⟩
  next c more _ _ hquote =>
    split at h
    · cases h
    next hc =>
      simp only [Bool.or_eq_true, decide_eq_true_eq, beq_iff_eq, not_or] at hc
      exact Or.inr ⟨c, more, .plain hc.1 (fun he => hquote he) hc.2, h⟩
  · cases h

theorem stringBody_go_eq_some_iff : stringBody.go before cs = some (chars, rest) ↔
    ∃ text, chars = before.reverse ++ text ∧ TextAt text cs rest := by
  constructor
  · intro h
    induction hn : cs.length using Nat.strongRecOn generalizing before cs with
    | _ n ih =>
      rcases stringBody_go_inv h with ⟨rfl, rfl⟩ | ⟨c, mid, hc, hmore⟩
      · exact ⟨[], (List.append_nil _).symm, .close⟩
      · obtain ⟨text, rfl, htext⟩ := ih mid.length (hn ▸ hc.length_lt) hmore rfl
        exact ⟨c :: text, by simp, .next hc htext⟩
  · rintro ⟨text, rfl, htext⟩
    induction htext generalizing before with
    | close => rw [List.append_nil]; rfl
    | next hc _ ih =>
      rw [stringBody_go_of_charAt hc, ih, List.reverse_cons, List.append_assoc]
      rfl

theorem stringBody_eq_some_iff : stringBody cs = some (chars, rest) ↔ TextAt chars cs rest := by
  rw [stringBody, stringBody_go_eq_some_iff]
  simp

theorem TextAt.length_lt (h : TextAt text cs rest) : rest.length < cs.length := by
  induction h with
  | close => simp
  | next hc _ ih => exact Nat.lt_trans ih hc.length_lt

theorem unit?_hexPair {n : Nat} (h : n < 0x20) :
    ∃ a b, hexPair n = [a, b] ∧ unit? '0' '0' a b = some n := by
  have hall : ∀ n ∈ List.range 0x20,
      unit? '0' '0' (digitChar (n / 16 % 16)) (digitChar (n % 16)) = some n := by decide
  exact ⟨_, _, rfl, hall n (List.mem_range.mpr h)⟩

theorem charAt_escape (c : Char) (rest : List Char) : CharAt c (escape c ++ rest) rest := by
  unfold escape
  split
  · exact .short rfl
  · exact .short rfl
  · exact .short rfl
  · exact .short rfl
  · exact .short rfl
  · exact .short rfl
  · exact .short rfl
  next hquote hslash _ _ _ _ _ =>
    split
    next hlow =>
      obtain ⟨a, b, hpair, hunit⟩ := unit?_hexPair hlow
      have hnot : ¬isHighSurrogate c.toNat ∧ ¬isLowSurrogate c.toNat := by
        simp only [isHighSurrogate, isLowSurrogate, Bool.and_eq_true, decide_eq_true_eq]
        omega
      have hunitAt : CharAt (Char.ofNat c.toNat) _ rest :=
        .unit hunit (by simpa using hnot.1) (by simpa using hnot.2)
      rw [Char.ofNat_toNat] at hunitAt
      rw [hpair]
      exact hunitAt
    next hlow => exact .plain hlow (fun he => hquote he) (fun he => hslash he)

/-- What stands for a text between quotes spells it. -/
theorem textAt_escape (text rest : List Char) :
    TextAt text (text.flatMap escape ++ '"' :: rest) rest := by
  induction text with
  | nil => exact .close
  | cons c more ih =>
    rw [List.flatMap_cons, List.append_assoc]
    exact .next (charAt_escape c _) ih

end Json

end Gatehouse
