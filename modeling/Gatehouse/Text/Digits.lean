namespace Gatehouse

/-- The value of a digit, letters of either case counting from ten. -/
def digitValue? (c : Char) : Option Nat :=
  if '0' ≤ c ∧ c ≤ '9' then some (c.toNat - '0'.toNat)
  else if 'a' ≤ c ∧ c ≤ 'z' then some (c.toNat - 'a'.toNat + 10)
  else if 'A' ≤ c ∧ c ≤ 'Z' then some (c.toNat - 'A'.toNat + 10)
  else none

def isDigitIn (base : Nat) (c : Char) : Bool := (digitValue? c).any (· < base)

def isDecimal (c : Char) : Bool := '0' ≤ c && c ≤ '9'

def isHex (c : Char) : Bool := isDigitIn 16 c

/-- The number spelt by non-empty digits of `base`; nothing if some member is no such digit. -/
def numberIn? (base : Nat) (cs : List Char) : Option Nat :=
  if cs.isEmpty then none
  else cs.foldl (fun sofar c =>
    sofar.bind fun n => (digitValue? c).bind fun d =>
      if d < base then some (n * base + d) else none) (some 0)

/-- A decimal number below `2 ^ 64`, with an optional plus sign and any leading zeros. -/
def word64? (cs : List Char) : Option Nat :=
  let digits := if cs.head? = some '+' then cs.tail else cs
  (numberIn? 10 digits).filter (· < UInt64.size)

/-- One digit, with lower-case letters for ten and above. -/
def digitChar (d : Nat) : Char :=
  if d < 10 then Char.ofNat ('0'.toNat + d) else Char.ofNat ('a'.toNat + (d - 10))

/-- The digits of a number, most significant first, with no leading zero. -/
def digitsIn (base n : Nat) : List Char :=
  go n n []
where
  go : Nat → Nat → List Char → List Char
    | 0, n, acc => digitChar (n % base) :: acc
    | fuel + 1, n, acc =>
      if n < base then digitChar n :: acc
      else go fuel (n / base) (digitChar (n % base) :: acc)

theorem digitsIn_go_all {p : Char → Prop} {base : Nat} (hbase : 0 < base)
    (hp : ∀ d < base, p (digitChar d)) :
    ∀ (fuel n : Nat) (acc : List Char),
      (∀ c ∈ acc, p c) → ∀ c ∈ digitsIn.go base fuel n acc, p c := by
  intro fuel
  induction fuel with
  | zero =>
    intro n acc hacc c hc
    rcases List.mem_cons.mp hc with rfl | hc
    · exact hp _ (Nat.mod_lt _ hbase)
    · exact hacc c hc
  | succ fuel ih =>
    intro n acc hacc c hc
    simp only [digitsIn.go] at hc
    split at hc
    next hn =>
      rcases List.mem_cons.mp hc with rfl | hc
      · exact hp _ hn
      · exact hacc c hc
    next =>
      refine ih _ _ (fun d hd => ?_) c hc
      rcases List.mem_cons.mp hd with rfl | hd
      · exact hp _ (Nat.mod_lt _ hbase)
      · exact hacc d hd

/-- A property of all digits of the base holds of every digit of a number. -/
theorem digitsIn_all {p : Char → Prop} {base : Nat} (hbase : 0 < base)
    (hp : ∀ d < base, p (digitChar d)) (n : Nat) : ∀ c ∈ digitsIn base n, p c :=
  digitsIn_go_all hbase hp n n [] (by simp)

def decimal (n : Nat) : List Char := digitsIn 10 n

/-- The text of a number in decimal. -/
def decimalText (n : Nat) : String := String.ofList (decimal n)

/-- Two hexadecimal digits for each octet. -/
def hexPair (n : Nat) : List Char := [digitChar (n / 16 % 16), digitChar (n % 16)]

/-- Fills up with `fill` on the left to `width` members. -/
def padLeft {α : Type} (fill : α) (width : Nat) (xs : List α) : List α :=
  List.replicate (width - xs.length) fill ++ xs

/-- Fills up with `fill` on the right to `width` members. -/
def padRight {α : Type} (fill : α) (width : Nat) (xs : List α) : List α :=
  xs ++ List.replicate (width - xs.length) fill

end Gatehouse
