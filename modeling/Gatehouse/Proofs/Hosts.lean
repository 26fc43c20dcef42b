import Gatehouse.Proofs.Domains
import Gatehouse.Url.Host

namespace Gatehouse

theorem digitChar_isAlphanum {d : Nat} (h : d < 36) : (digitChar d).isAlphanum := by
  have hall : ∀ e ∈ List.range 36, (digitChar e).isAlphanum := by decide
  exact hall d (List.mem_range.mpr h)

theorem ne_of_isAlphanum {c d : Char} (h : c.isAlphanum) (hd : d.isAlphanum = false) : c ≠ d := by
  rintro rfl
  simp [hd] at h

theorem digitsIn_isAlphanum {base : Nat} (hpos : 0 < base) (hbase : base ≤ 36) (n : Nat) :
    ∀ c ∈ digitsIn base n, c.isAlphanum :=
  digitsIn_all hpos (fun _ hd => digitChar_isAlphanum (by omega)) n

theorem decimal_isHostChar (n : Nat) : ∀ c ∈ decimal n, isHostChar c :=
  digitsIn_all (by decide) (by decide) n

theorem toList_dottedText (a b c d : Nat) :
    (dottedText a b c d).toList = joinWith ['.'] ([a, b, c, d].map decimal) := by
  have hdecimal : ([a, b, c, d].map decimalText).map String.toList =
      [a, b, c, d].map decimal := by
    simp [decimalText]
  rw [dottedText, String.toList_intercalate, hdecimal]
  exact intercalate_eq_joinWith _ _

theorem dottedText_isHostChar (a b c d : Nat) : ∀ x ∈ (dottedText a b c d).toList, isHostChar x := by
  intro x hx
  rw [toList_dottedText] at hx
  rcases mem_joinWith hx with hx | ⟨p, hp, hx⟩
  · obtain rfl := List.mem_singleton.mp hx
    decide
  · obtain ⟨n, -, rfl⟩ := List.mem_map.mp hp
    exact decimal_isHostChar n x hx

theorem dottedText_chars (a b c d : Nat) :
    ∀ x ∈ (dottedText a b c d).toList, x = '.' ∨ x.isAlphanum := by
  intro x hx
  rw [toList_dottedText] at hx
  rcases mem_joinWith hx with hx | ⟨p, hp, hx⟩
  · exact Or.inl (List.mem_singleton.mp hx)
  · obtain ⟨n, -, rfl⟩ := List.mem_map.mp hp
    exact Or.inr (digitsIn_isAlphanum (by omega) (by omega) n x hx)

theorem dottedText_ne_nil (a b c d : Nat) : (dottedText a b c d).toList ≠ [] := by
  rw [toList_dottedText]
  simp [joinWith]

theorem v4Host?_eq_some {domain : List Char} {text : String} (h : v4Host? domain = some text) :
    ∃ a b c d, text = dottedText a b c d := by
  unfold v4Host? at h
  dsimp only at h
  split at h
  · cases h
  obtain ⟨numbers, -, h⟩ := Option.bind_eq_some_iff.mp h
  obtain ⟨last, -, h⟩ := Option.bind_eq_some_iff.mp h
  split at h
  · cases h
  · cases Option.some.inj h
    exact ⟨_, _, _, _, rfl⟩

theorem toList_groupsText (groups : List Nat) :
    (groupsText groups).toList = joinWith [':'] (groups.map (digitsIn 16 ·)) := by
  have hdigits : (groups.map fun g => String.ofList (digitsIn 16 g)).map String.toList =
      groups.map (digitsIn 16 ·) := by
    simp
  rw [groupsText, String.toList_intercalate, hdigits]
  exact intercalate_eq_joinWith _ _

theorem groupsText_chars (groups : List Nat) :
    ∀ c ∈ (groupsText groups).toList, c = ':' ∨ c.isAlphanum := by
  intro c hc
  rw [toList_groupsText] at hc
  rcases mem_joinWith hc with hc | ⟨p, hp, hc⟩
  · exact Or.inl (List.mem_singleton.mp hc)
  · obtain ⟨n, -, rfl⟩ := List.mem_map.mp hp
    exact Or.inr (digitsIn_isAlphanum (by omega) (by omega) n c hc)

theorem count_groupsText (groups : List Nat) :
    (groupsText groups).toList.count ':' = groups.length - 1 := by
  have hnone : ∀ p ∈ groups.map (digitsIn 16 ·), ':' ∉ p := by
    intro p hp hc
    obtain ⟨n, -, rfl⟩ := List.mem_map.mp hp
    exact absurd (digitsIn_isAlphanum (by omega) (by omega) n _ hc) (by decide)
  rw [toList_groupsText, count_joinWith hnone, List.length_map]

theorem longestZeros_le (groups : List Nat) :
    (longestZeros groups).1 + (longestZeros groups).2 ≤ groups.length := by
  induction groups with
  | nil => simp [longestZeros]
  | cons g rest ih =>
    have hhere : leadingZeros (g :: rest) ≤ (g :: rest).length :=
      (List.takeWhile_prefix _).length_le
    unfold longestZeros
    dsimp only
    rw [List.length_cons] at hhere ⊢
    split <;> dsimp only <;> omega

/-- An address of eight groups is written with at most eight colons. -/
theorem compressedText_chars {groups : List Nat} (h : groups.length ≤ 8) :
    (∀ c ∈ (compressedText groups).toList, c = ':' ∨ c.isAlphanum) ∧
      (compressedText groups).toList.count ':' ≤ 8 := by
  have hzeros := longestZeros_le groups
  unfold compressedText
  dsimp only
  split
  · refine ⟨groupsText_chars groups, ?_⟩
    rw [count_groupsText]
    omega
  · have htwo : "::".toList = List.replicate 2 ':' := rfl
    rw [String.toList_append, String.toList_append, htwo]
    refine ⟨fun c hc => ?_, ?_⟩
    · rcases List.mem_append.mp hc with hc | hc
      · rcases List.mem_append.mp hc with hc | hc
        · exact groupsText_chars _ c hc
        · exact Or.inl (List.eq_of_mem_replicate hc)
      · exact groupsText_chars _ c hc
    · rw [List.count_append, List.count_append, count_groupsText, count_groupsText,
        List.count_replicate_self, List.length_take, List.length_drop]
      omega

theorem takeGroups_length (isFirst : Bool) (room : Nat) (cs : List Char) :
    (takeGroups isFirst room cs).groups.length ≤ room := by
  induction room generalizing isFirst cs with
  | zero => simp [takeGroups]
  | succ room ih =>
    unfold takeGroups
    dsimp only
    split
    next hd =>
      have hroom : room ≠ 0 := by
        intro he
        simp [he] at hd
      simp only [List.length_cons, List.length_nil]
      omega
    next =>
      split
      · have hmore := ih false (by assumption)
        simp only [List.length_cons]
        omega
      · simp

theorem takeV6_length {cs rest : List Char} {groups : List Nat}
    (h : takeV6 cs = some (groups, rest)) : groups.length = 8 := by
  unfold takeV6 at h
  dsimp only at h
  split at h
  next height =>
    obtain ⟨rfl, rfl⟩ := Prod.mk.inj (Option.some.inj h)
    exact height
  next hne =>
    split at h
    · cases h
    obtain ⟨behind, -, h⟩ := Option.bind_eq_some_iff.mp h
    obtain ⟨after, -, h⟩ := Option.bind_eq_some_iff.mp h
    obtain ⟨rfl, rfl⟩ := Prod.mk.inj (Option.some.inj h)
    have hfront := takeGroups_length true 8 cs
    have hback := takeGroups_length true (7 - (takeGroups true 8 cs).groups.length) after
    simp only [List.length_append, List.length_replicate]
    omega

/-- The forms of the hosts of well-known schemes: a name, or an address in brackets. -/
inductive IsHost : List Char → Prop where
  | name {cs : List Char} (hne : cs ≠ []) (h : ∀ c ∈ cs, isHostChar c) : IsHost cs
  | bracketed {cs : List Char} (h : ∀ c ∈ cs, c = ':' ∨ c.isAlphanum)
      (hcolons : cs.count ':' ≤ 8) : IsHost ('[' :: (cs ++ [']']))

theorem bracketedHost_isHost {cs : List Char} {text : String} (h : bracketedHost cs = .ok text) :
    IsHost text.toList := by
  unfold bracketedHost at h
  split at h
  · cases h
  · split at h
    next groups hgroups =>
      cases Except.ok.inj h
      obtain ⟨hchars, hcolons⟩ := compressedText_chars (Nat.le_of_eq (takeV6_length hgroups))
      have hform : ("[" ++ compressedText groups ++ "]").toList =
          '[' :: ((compressedText groups).toList ++ [']']) := by
        simp
      rw [hform]
      exact .bracketed hchars hcolons
    · cases h

theorem domainHost_isHost {cs : List Char} {text : String} (h : domainHost cs = .ok text) :
    IsHost text.toList := by
  unfold domainHost at h
  split at h
  · exact bracketedHost_isHost h
  · split at h
    · cases h
    next domain hdomain =>
      obtain ⟨decoded, -, hascii⟩ := Option.bind_eq_some_iff.mp hdomain
      split at h
      · cases h
      next hne =>
        split at h
        · split at h
          next text' hv4 =>
            cases Except.ok.inj h
            obtain ⟨a, b, c, d, rfl⟩ := v4Host?_eq_some hv4
            exact .name (dottedText_ne_nil a b c d) (dottedText_isHostChar a b c d)
          · cases h
        · cases Except.ok.inj h
          rw [String.toList_ofList]
          exact .name (by simpa using hne) (asciiDomain?_isHostChar hascii)

end Gatehouse
