import Gatehouse.Http.Header
import Gatehouse.Proofs.Cutting

namespace Gatehouse

/-- Tab and the printable ASCII characters. -/
def isVisibleChar (c : Char) : Bool := c == '\t' || (' ' ≤ c && c ≤ '~')

/-- Whether a text can be carried by a field and read from it again. -/
def IsVisible (cs : List Char) : Prop := ∀ c ∈ cs, isVisibleChar c

instance (cs : List Char) : Decidable (IsVisible cs) :=
  decidable_of_iff (cs.all isVisibleChar) List.all_eq_true

theorem IsVisible.subset {cs ds : List Char} (h : IsVisible ds) (hs : cs ⊆ ds) : IsVisible cs :=
  fun c hc => h c (hs hc)

theorem IsVisible.append {cs ds : List Char} (h : IsVisible cs) (hd : IsVisible ds) :
    IsVisible (cs ++ ds) := by
  intro c hc
  rcases List.mem_append.mp hc with hc | hc
  · exact h c hc
  · exact hd c hc

theorem IsVisible.joinWith {glue : List Char} (hg : IsVisible glue) {parts : List (List Char)}
    (hp : ∀ part ∈ parts, IsVisible part) : IsVisible (joinWith glue parts) := by
  induction parts with
  | nil => simp [Gatehouse.joinWith, IsVisible]
  | cons part more ih =>
    have hpart := hp part (List.mem_cons_self ..)
    have hmore := ih fun q hq => hp q (List.mem_cons_of_mem _ hq)
    cases more with
    | nil => exact hpart
    | cons next rest => exact (hpart.append hg).append hmore

theorem isVisibleChar_of_octet : ∀ n : Fin 256, isVisibleOctet (UInt8.ofNat n.val) →
    isVisibleChar (Char.ofNat n.val) := by
  decide +kernel

theorem HeaderValue.chars?_isVisible {v : HeaderValue} {cs : List Char} (h : v.chars? = some cs) :
    IsVisible cs := by
  unfold chars? at h
  split at h
  next hr =>
    cases Option.some.inj h
    intro c hc
    obtain ⟨o, ho, rfl⟩ := List.mem_map.mp hc
    have hv := List.all_eq_true.mp hr o ho
    exact isVisibleChar_of_octet ⟨o.toNat, o.toNat_lt⟩ (by simpa using hv)
  next => cases h

theorem isVisibleChar_lt {c : Char} (h : isVisibleChar c) : c.toNat < 128 := by
  unfold isVisibleChar at h
  rw [Bool.or_eq_true] at h
  rcases h with h | h
  · rw [beq_iff_eq] at h
    subst h
    decide
  · have h := (Bool.and_eq_true_iff.mp h).2
    have h : c ≤ '~' := by simpa using h
    have : c.toNat ≤ '~'.toNat := h
    have : '~'.toNat = 126 := rfl
    omega

/-- What holds of the first 128 characters, one by one, holds of every ASCII character. -/
theorem forall_ascii {P : Char → Prop} (h : ∀ n : Fin 128, P (Char.ofNat n.val)) {c : Char}
    (hc : c.toNat < 128) : P c := by
  have hn := h ⟨c.toNat, hc⟩
  rwa [Char.ofNat_toNat] at hn

theorem isAlphanum_lt {c : Char} (h : c.isAlphanum) : c.toNat < 128 := by
  change (decide ('A'.val ≤ c.val ∧ c.val ≤ 'Z'.val) ||
    (decide ('a'.val ≤ c.val) && decide (c.val ≤ 'z'.val)) ||
    (decide ('0'.val ≤ c.val) && decide (c.val ≤ '9'.val))) = true at h
  simp only [Bool.or_eq_true, Bool.and_eq_true, decide_eq_true_eq, UInt32.le_iff_toNat_le] at h
  rcases h with (⟨-, h⟩ | ⟨-, h⟩) | ⟨-, h⟩
  all_goals exact Nat.lt_of_le_of_lt h (by decide)

theorem isVisibleOctet_ofNat {c : Char} (hc : c.toNat < 128) :
    isVisibleOctet (UInt8.ofNat c.toNat) = isVisibleChar c :=
  forall_ascii (P := fun c => isVisibleOctet (UInt8.ofNat c.toNat) = isVisibleChar c)
    (by decide +kernel) hc

theorem isFieldBlank_ofNat {c : Char} (h : isVisibleChar c) :
    isFieldBlank (UInt8.ofNat c.toNat) = isBlank c :=
  forall_ascii (P := fun c => isVisibleChar c → isFieldBlank (UInt8.ofNat c.toNat) = isBlank c)
    (by decide +kernel) (isVisibleChar_lt h) h

theorem utf8EncodeChar_of_lt {c : Char} (hc : c.toNat < 128) :
    String.utf8EncodeChar c = [UInt8.ofNat c.toNat] := by
  have hv : c.val.toNat ≤ 127 := Nat.le_of_lt_succ hc
  unfold String.utf8EncodeChar
  dsimp only
  rw [if_pos hv]
  rfl

/-- Visible text is encoded as one octet a character. -/
theorem octetsOf_of_isVisible {text : String} (h : IsVisible text.toList) :
    octetsOf text = text.toList.map fun c => UInt8.ofNat c.toNat := by
  rw [octetsOf, List.map_eq_flatMap, List.flatMap_def, List.flatMap_def,
    List.map_congr_left fun c hc => utf8EncodeChar_of_lt (isVisibleChar_lt (h c hc))]

theorem isValueOctet_of_isVisibleOctet {o : UInt8} (h : isVisibleOctet o) : isValueOctet o := by
  unfold isVisibleOctet at h
  unfold isValueOctet
  grind

theorem octetsOf_isVisible {text : String} (h : IsVisible text.toList) :
    ∀ o ∈ octetsOf text, isVisibleOctet o := by
  intro o ho
  rw [octetsOf_of_isVisible h] at ho
  obtain ⟨c, hc, rfl⟩ := List.mem_map.mp ho
  rw [isVisibleOctet_ofNat (isVisibleChar_lt (h c hc))]
  exact h c hc

theorem HeaderValue.ofText?_of_isVisible {text : String} (h : IsVisible text.toList) :
    ∃ v, HeaderValue.ofText? text = some v := by
  have hall : (octetsOf text).all isValueOctet := by
    rw [List.all_eq_true]
    exact fun o ho => isValueOctet_of_isVisibleOctet (octetsOf_isVisible h o ho)
  exact ⟨⟨octetsOf text, hall⟩, by simp [ofText?, ofOctets?, hall]⟩

theorem HeaderValue.octets_of_ofText? {v : HeaderValue} {text : String}
    (h : HeaderValue.ofText? text = some v) : v.octets = octetsOf text := by
  unfold ofText? ofOctets? at h
  split at h <;> cases h
  rfl

/-- A value with the octets of visible text is read as that text. -/
theorem HeaderValue.chars?_of_octets {v : HeaderValue} {text : String}
    (hv : v.octets = octetsOf text) (h : IsVisible text.toList) :
    v.chars? = some text.toList := by
  have hreadable : v.isReadable := List.all_eq_true.mpr fun o ho =>
    octetsOf_isVisible h o (hv ▸ ho)
  have hback : ∀ c ∈ text.toList, Char.ofNat (UInt8.ofNat c.toNat).toNat = id c := by
    intro c hc
    have hlt : c.toNat < UInt8.size := Nat.lt_trans (isVisibleChar_lt (h c hc)) (by decide)
    rw [UInt8.toNat_ofNat_of_lt' hlt, Char.ofNat_toNat, id]
  rw [chars?, if_pos hreadable, hv, octetsOf_of_isVisible h, List.map_map]
  exact congrArg some ((List.map_congr_left hback).trans (List.map_id _))

theorem not_isVisibleOctet_of_le {o : UInt8} (h : 128 ≤ o.toNat) : ¬isVisibleOctet o := by
  unfold isVisibleOctet
  have htab : o ≠ 0x09 := by
    rintro rfl
    exact absurd h (by decide)
  have hdel : ¬o < 0x7F := by
    rw [UInt8.lt_iff_toNat_lt]
    have : (0x7F : UInt8).toNat = 127 := rfl
    omega
  simp [htab, hdel]

/-- Beyond ASCII the last octet of a character is none that can be read. -/
theorem isVisibleChar_of_octets {c : Char} (h : ∀ o ∈ String.utf8EncodeChar c, isVisibleOctet o) :
    isVisibleChar c := by
  by_cases hc : c.toNat < 128
  · rw [utf8EncodeChar_of_lt hc] at h
    rw [← isVisibleOctet_ofNat hc]
    exact h _ (List.mem_singleton_self _)
  · have hv : ¬c.val.toNat ≤ 127 := fun hle => hc (Nat.lt_succ_of_le hle)
    have hlast : UInt8.ofNat (c.val.toNat % 64 + 128) ∈ String.utf8EncodeChar c := by
      unfold String.utf8EncodeChar
      dsimp only
      rw [if_neg hv]
      split
      · exact List.mem_of_getLast? rfl
      · split <;> exact List.mem_of_getLast? rfl
    have hsize : UInt8.size = 256 := rfl
    have hn : (UInt8.ofNat (c.val.toNat % 64 + 128)).toNat = c.val.toNat % 64 + 128 :=
      UInt8.toNat_ofNat_of_lt' (by omega)
    exact absurd (h _ hlast) (not_isVisibleOctet_of_le (by omega))

theorem isVisible_of_octets {text : String} (h : ∀ o ∈ octetsOf text, isVisibleOctet o) :
    IsVisible text.toList := fun _ hc =>
  isVisibleChar_of_octets fun o ho => h o (List.mem_flatMap.mpr ⟨_, hc, ho⟩)

/-- A value that can be read has the octets of visible text only. -/
theorem HeaderValue.isVisible_of_text? {v : HeaderValue} {seen text : String}
    (hs : v.text? = some seen) (hv : v.octets = octetsOf text) : IsVisible text.toList := by
  obtain ⟨cs, hcs, -⟩ := Option.map_eq_some_iff.mp hs
  unfold chars? at hcs
  split at hcs
  next hr => exact isVisible_of_octets fun o ho => List.all_eq_true.mp hr o (hv ▸ ho)
  next => cases hcs

/-- Visible text is left as it is on the way exactly if there are no blanks around it. -/
theorem HeaderValue.received_eq_iff {v : HeaderValue} {text : String}
    (hv : v.octets = octetsOf text) (h : IsVisible text.toList) :
    v.received = v ↔ trimBlank text.toList = text.toList := by
  have hblank : ∀ c ∈ text.toList, isFieldBlank (UInt8.ofNat c.toNat) = isBlank c :=
    fun c hc => isFieldBlank_ofNat (h c hc)
  have htrim : v.received.octets = (trimBlank text.toList).map fun c => UInt8.ofNat c.toNat := by
    rw [trimBlank, ← trimBy_map_of hblank, ← octetsOf_of_isVisible h, ← hv]
    rfl
  rw [octetsOf_of_isVisible h] at hv
  constructor
  · intro hreceived
    rw [hreceived, hv] at htrim
    have hlength := congrArg List.length htrim
    rw [List.length_map, List.length_map] at hlength
    exact (trimBy_sublist isBlank _).eq_of_length hlength.symm
  · intro hkept
    rw [hkept, ← hv] at htrim
    exact ext_octets htrim

end Gatehouse
