import Gatehouse.Text.Digits

namespace Gatehouse

/-- A number with one more digit behind those read so far. -/
def addDigit? (base : Nat) (sofar : Option Nat) (c : Char) : Option Nat :=
  sofar.bind fun n => (digitValue? c).bind fun d => if d < base then some (n * base + d) else none

theorem addDigit?_digitChar {base d : Nat} (hbase : base ≤ 36) (hd : d < base) (n : Nat) :
    addDigit? base (some n) (digitChar d) = some (n * base + d) := by
  have hall : ∀ e ∈ List.range 36, digitValue? (digitChar e) = some e := by decide
  have hvalue := hall d (List.mem_range.mpr (by omega))
  rw [addDigit?, Option.bind_some, hvalue, Option.bind_some, if_pos hd]

theorem digitsIn_go_foldl {base : Nat} (hone : 1 < base) (hbase : base ≤ 36) {fuel n : Nat}
    (hn : n ≤ fuel) (acc : List Char) :
    (digitsIn.go base fuel n acc).foldl (addDigit? base) (some 0) =
      acc.foldl (addDigit? base) (some n) := by
  induction fuel generalizing n acc with
  | zero =>
    obtain rfl : n = 0 := by omega
    rw [digitsIn.go, List.foldl_cons, Nat.zero_mod, addDigit?_digitChar hbase (by omega),
      Nat.zero_mul]
  | succ fuel ih =>
    rw [digitsIn.go]
    split
    next hlt => rw [List.foldl_cons, addDigit?_digitChar hbase hlt, Nat.zero_mul, Nat.zero_add]
    next hge =>
      have hless : n / base < n := Nat.div_lt_self (by omega) hone
      have hmod : n % base < base := Nat.mod_lt n (by omega)
      rw [ih (by omega), List.foldl_cons, addDigit?_digitChar hbase hmod, Nat.div_add_mod']

/-- A number is read back from its digits. -/
theorem numberIn?_digitsIn {base : Nat} (hone : 1 < base) (hbase : base ≤ 36) (n : Nat) :
    numberIn? base (digitsIn base n) = some n := by
  have hfold : (digitsIn base n).foldl (addDigit? base) (some 0) = some n :=
    digitsIn_go_foldl hone hbase (Nat.le_refl n) []
  have hne : (digitsIn base n).isEmpty = false := by
    cases hd : digitsIn base n with
    | nil =>
      rw [hd] at hfold
      obtain rfl : 0 = n := Option.some.inj hfold
      cases hd
    | cons => rfl
  unfold numberIn?
  rw [hne]
  exact hfold

theorem digitChar_eq_zero {d : Nat} (hd : d < 36) (h : digitChar d = '0') : d = 0 := by
  have hall : ∀ e ∈ List.range 36, digitChar e = '0' → e = 0 := by decide
  exact hall d (List.mem_range.mpr hd) h

theorem digitsIn_go_head {base : Nat} (hone : 1 < base) (hbase : base ≤ 36) {fuel n : Nat}
    (hn : n ≤ fuel) (hpos : 0 < n) (acc : List Char) :
    (digitsIn.go base fuel n acc).head? ≠ some '0' := by
  induction fuel generalizing n acc with
  | zero => omega
  | succ fuel ih =>
    rw [digitsIn.go]
    split
    next hlt =>
      intro h
      have hzero := digitChar_eq_zero (by omega) (Option.some.inj h)
      omega
    next hge =>
      have hless : n / base < n := Nat.div_lt_self hpos hone
      have hmore : 0 < n / base := Nat.div_pos (by omega) (by omega)
      exact ih (by omega) hmore _

theorem decimal_isDecimal (n : Nat) : ∀ c ∈ decimal n, isDecimal c :=
  digitsIn_all (by decide) (by decide) n

theorem decimal_ne_nil (n : Nat) : decimal n ≠ [] := by
  intro h
  have hn : numberIn? 10 (decimal n) = some n := numberIn?_digitsIn (by omega) (by omega) n
  rw [h] at hn
  cases hn

/-- Only zero itself begins with a zero. -/
theorem decimal_head {n : Nat} (h : (decimal n).head? = some '0') : n = 0 :=
  Decidable.byContradiction fun hn =>
    digitsIn_go_head (by omega) (by omega) (Nat.le_refl n) (Nat.pos_of_ne_zero hn) [] h

end Gatehouse
