import Gatehouse.Http.Header

namespace Gatehouse

theorem charNumber_lt (c : Char) : c.val.toNat < 0x110000 := by
  have h := c.valid
  simp only [UInt32.isValidChar, Nat.isValidChar] at h
  omega

/-- Of two encodings in four octets, that of the smaller number comes first. -/
theorem fourOctets_append_lt {a b c d a' b' c' d' : Nat} (ha : a < 8) (hb : b < 64) (hc : c < 64)
    (ha' : a' < 8) (hb' : b' < 64) (hc' : c' < 64) (hd : d < 64) (hd' : d' < 64)
    (h : 262144 * a + 4096 * b + 64 * c + d < 262144 * a' + 4096 * b' + 64 * c' + d')
    (xs ys : List UInt8) :
    [UInt8.ofNat (a + 240), .ofNat (b + 128), .ofNat (c + 128), .ofNat (d + 128)] ++ xs <
      [UInt8.ofNat (a' + 240), .ofNat (b' + 128), .ofNat (c' + 128), .ofNat (d' + 128)] ++ ys := by
  simp only [List.cons_append, List.cons_lt_cons_iff, UInt8.lt_iff_toNat_lt, ← UInt8.toNat_inj,
    UInt8.toNat_ofNat']
  omega

/-- An earlier character has the smaller octet at the first place where the encodings differ. -/
theorem utf8EncodeChar_append_lt {c d : Char} (h : c < d) (xs ys : List UInt8) :
    String.utf8EncodeChar c ++ xs < String.utf8EncodeChar d ++ ys := by
  have hless : c.val.toNat < d.val.toNat := h
  have hvalid := charNumber_lt d
  unfold String.utf8EncodeChar
  dsimp only
  generalize c.val.toNat = m at *
  generalize d.val.toNat = n at *
  by_cases hfour : 65535 < m
  · simp only [show ¬m ≤ 127 by omega, show ¬m ≤ 2047 by omega, show ¬m ≤ 65535 by omega,
      show ¬n ≤ 127 by omega, show ¬n ≤ 2047 by omega, show ¬n ≤ 65535 by omega, if_false]
    exact fourOctets_append_lt (by omega) (by omega) (by omega) (by omega) (by omega) (by omega)
      (by omega) (by omega) (by omega) xs ys
  · repeat' split
    all_goals try omega
    all_goals
      simp only [List.cons_append, List.nil_append, List.cons_lt_cons_iff, UInt8.lt_iff_toNat_lt,
        ← UInt8.toNat_inj, UInt8.toNat_ofNat']
      omega

theorem octetsOf_lt {a b : String} (h : a < b) : octetsOf a < octetsOf b := by
  have hchars : a.toList < b.toList := h
  unfold octetsOf
  generalize a.toList = cs at *
  generalize b.toList = ds at *
  induction hchars with
  | @nil d more =>
    obtain ⟨o, os, ho⟩ := List.exists_cons_of_ne_nil (String.utf8EncodeChar_ne_nil (c := d))
    rw [List.flatMap_nil, List.flatMap_cons, ho]
    exact List.nil_lt_cons _ _
  | rel hlt =>
    rw [List.flatMap_cons, List.flatMap_cons]
    exact utf8EncodeChar_append_lt hlt _ _
  | cons _ ih =>
    rw [List.flatMap_cons, List.flatMap_cons]
    exact List.append_left_lt ih

end Gatehouse
