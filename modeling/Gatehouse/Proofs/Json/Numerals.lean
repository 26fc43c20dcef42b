import Gatehouse.Json.Parser
import Gatehouse.Json.Printer
import Gatehouse.Proofs.Digits

namespace Gatehouse

namespace Json

/-- The digits at the front, of which there is at least one. -/
structure RunAt (run cs rest : List Char) : Prop where
  ne_nil : run ≠ []
  digits : ∀ c ∈ run, isDecimal c
  front : cs = run ++ rest
  ends : ∀ c ∈ rest.head?, isDecimal c = false

inductive SignAt : Bool → List Char → List Char → Prop where
  | minus {cs : List Char} : SignAt true ('-' :: cs) cs
  | none {cs : List Char} : SignAt false cs cs

inductive FractionAt : List Char → List Char → List Char → Prop where
  | none {cs : List Char} (h : cs.head? ≠ some '.') : FractionAt [] cs cs
  | digits {run cs rest : List Char} (h : RunAt run cs rest) : FractionAt run ('.' :: cs) rest

/-- The sign of an exponent may be a plus sign too. -/
inductive ExponentSignAt : Bool → List Char → List Char → Prop where
  | plus {cs : List Char} : ExponentSignAt false ('+' :: cs) cs
  | minus {cs : List Char} : ExponentSignAt true ('-' :: cs) cs
  | none {cs : List Char} : ExponentSignAt false cs cs

inductive ExponentAt : Option (Bool × List Char) → List Char → List Char → Prop where
  | none {cs : List Char} (h : ∀ c ∈ cs.head?, c ≠ 'e' ∧ c ≠ 'E') : ExponentAt none cs cs
  | digits {mark : Char} {negative : Bool} {run cs mid rest : List Char}
      (hmark : mark = 'e' ∨ mark = 'E') (hsign : ExponentSignAt negative cs mid)
      (h : RunAt run mid rest) : ExponentAt (some (negative, run)) (mark :: cs) rest

/-- The parts of a numeral behind its sign: no zero stands before another digit. -/
structure UnsignedAt (integer fraction : List Char) (exponent : Option (Bool × List Char))
    (cs rest : List Char) : Prop where
  parts : ∃ a b, RunAt integer cs a ∧ FractionAt fraction a b ∧ ExponentAt exponent b rest
  leading : integer.head? = some '0' → integer.length = 1

def NumeralAt (x : Numeral) (cs rest : List Char) : Prop :=
  ∃ a, SignAt x.negative cs a ∧ UnsignedAt x.integer x.fraction x.exponent a rest

variable {x : Numeral} {cs rest run fraction : List Char} {exponent : Option (Bool × List Char)}

theorem RunAt.exists_cons (h : RunAt run cs rest) : ∃ d more, cs = d :: more ∧ isDecimal d := by
  obtain ⟨d, more, rfl⟩ := List.exists_cons_of_ne_nil h.ne_nil
  exact ⟨d, more ++ rest, h.front, h.digits d (List.mem_cons_self ..)⟩

theorem RunAt.length_lt (h : RunAt run cs rest) : rest.length < cs.length := by
  have hpos := List.length_pos_iff.mpr h.ne_nil
  rw [h.front, List.length_append]
  omega

theorem FractionAt.length_le (h : FractionAt fraction cs rest) : rest.length ≤ cs.length := by
  cases h with
  | none => exact Nat.le_refl _
  | digits h =>
    have hrun := h.length_lt
    rw [List.length_cons]
    omega

theorem ExponentAt.length_le (h : ExponentAt exponent cs rest) : rest.length ≤ cs.length := by
  cases h with
  | none => exact Nat.le_refl _
  | digits _ hsign h =>
    have hrun := h.length_lt
    cases hsign <;> simp only [List.length_cons] <;> omega

/-- The characters that a numeral begins with. -/
def beginsNumeral (c : Char) : Bool := c == '-' || isDecimal c

theorem ne_of_beginsNumeral {c d : Char} (h : beginsNumeral c) (hd : beginsNumeral d = false) :
    c ≠ d := by
  rintro rfl
  simp [hd] at h

theorem NumeralAt.exists_cons (h : NumeralAt x cs rest) :
    ∃ c more, cs = c :: more ∧ beginsNumeral c := by
  obtain ⟨negative, _, _, _⟩ := x
  obtain ⟨a, hsign, ⟨b, d, hrun, -, -⟩, -⟩ := h
  cases hsign with
  | minus => exact ⟨'-', a, rfl, rfl⟩
  | none =>
    obtain ⟨c, more, rfl, hc⟩ := hrun.exists_cons
    exact ⟨c, more, rfl, by simp [beginsNumeral, hc]⟩

theorem NumeralAt.length_lt (h : NumeralAt x cs rest) : rest.length < cs.length := by
  obtain ⟨a, hsign, ⟨b, d, hrun, hfraction, hexponent⟩, -⟩ := h
  have hfront : a.length ≤ cs.length := by
    generalize x.negative = negative at hsign
    cases hsign <;> simp
  have hint := hrun.length_lt
  have hmid := hfraction.length_le
  have hend := hexponent.length_le
  omega

theorem digits_eq_some_iff : Json.digits cs = some (run, rest) ↔ RunAt run cs rest := by
  unfold Json.digits
  dsimp only
  constructor
  · intro h
    split at h
    · cases h
    next hne =>
      obtain ⟨rfl, rfl⟩ := Prod.mk.inj (Option.some.inj h)
      refine ⟨by simpa using hne, List.all_eq_true.mp List.all_takeWhile,
        List.takeWhile_append_dropWhile.symm, fun c hc => ?_⟩
      have hnot := List.head?_dropWhile_not isDecimal cs
      rw [Option.mem_def.mp hc] at hnot
      exact hnot
  · rintro ⟨hne, hdigits, rfl, hends⟩
    have hrest : rest.takeWhile isDecimal = [] ∧ rest.dropWhile isDecimal = rest := by
      cases rest with
      | nil => exact ⟨rfl, rfl⟩
      | cons c more =>
        have hc := hends c rfl
        simp [hc]
    rw [List.takeWhile_append_of_pos hdigits, List.dropWhile_append_of_pos hdigits, hrest.1,
      hrest.2, List.append_nil, if_neg (by simpa using hne)]

theorem fractionPart_eq_some_iff :
    fractionPart cs = some (fraction, rest) ↔ FractionAt fraction cs rest := by
  constructor
  · intro h
    unfold fractionPart at h
    split at h
    next more => exact .digits (digits_eq_some_iff.mp h)
    next hdot =>
      obtain ⟨rfl, rfl⟩ := Prod.mk.inj (Option.some.inj h)
      refine .none fun he => ?_
      obtain ⟨more, rfl⟩ := List.head?_eq_some_iff.mp he
      exact hdot more rfl
  · rintro (h | h)
    · unfold fractionPart
      split
      · exact absurd rfl h
      · rfl
    · exact digits_eq_some_iff.mpr h

theorem exponentPart_eq_some_iff :
    exponentPart cs = some (exponent, rest) ↔ ExponentAt exponent cs rest := by
  constructor
  · intro h
    unfold exponentPart at h
    split at h
    next mark more =>
      split at h
      next hmark =>
        obtain ⟨⟨found, after⟩, hrun, h⟩ := Option.bind_eq_some_iff.mp h
        obtain ⟨rfl, rfl⟩ := Prod.mk.inj (Option.some.inj h)
        have hrun := digits_eq_some_iff.mp hrun
        split at hrun
        · exact .digits hmark .plus hrun
        · exact .digits hmark .minus hrun
        · exact .digits hmark .none hrun
      next hmark =>
        obtain ⟨rfl, rfl⟩ := Prod.mk.inj (Option.some.inj h)
        exact .none (by simpa using hmark)
    · obtain ⟨rfl, rfl⟩ := Prod.mk.inj (Option.some.inj h)
      exact .none (by simp)
  · intro h
    cases h with
    | none h =>
      cases cs with
      | nil => rfl
      | cons c more =>
        have hc := h c rfl
        simp [exponentPart, hc]
    | digits hmark hsign h =>
      obtain ⟨d, more, rfl, hd⟩ := h.exists_cons
      have hrun := digits_eq_some_iff.mpr h
      cases hsign with
      | plus | minus => simp [exponentPart, hmark, hrun]
      | none =>
        have hplus : d ≠ '+' := by rintro rfl; cases hd
        have hminus : d ≠ '-' := by rintro rfl; cases hd
        simp [exponentPart, hmark, hrun, hplus, hminus]

theorem numeral_eq_some_iff : numeral cs = some (x, rest) ↔ NumeralAt x cs rest := by
  constructor
  · intro h
    unfold numeral at h
    obtain ⟨⟨integer, b⟩, hrun, h⟩ := Option.bind_eq_some_iff.mp h
    dsimp only at h
    split at h
    · cases h
    next hzero =>
      obtain ⟨-, -, h⟩ := Option.bind_eq_some_iff.mp h
      obtain ⟨⟨fraction, c⟩, hfraction, h⟩ := Option.bind_eq_some_iff.mp h
      obtain ⟨⟨exponent, d⟩, hexponent, h⟩ := Option.bind_eq_some_iff.mp h
      obtain ⟨rfl, rfl⟩ := Prod.mk.inj (Option.some.inj h)
      have hrun := digits_eq_some_iff.mp hrun
      refine ⟨_, ?_, ⟨b, c, hrun, fractionPart_eq_some_iff.mp hfraction,
        exponentPart_eq_some_iff.mp hexponent⟩, by simpa using hzero⟩
      split
      · exact .minus
      · exact .none
  · rintro ⟨a, hsign, ⟨b, c, hrun, hfraction, hexponent⟩, hleading⟩
    obtain ⟨d, more, rfl, hd⟩ := hrun.exists_cons
    have hrun := digits_eq_some_iff.mpr hrun
    have hfraction := fractionPart_eq_some_iff.mpr hfraction
    have hexponent := exponentPart_eq_some_iff.mpr hexponent
    obtain ⟨negative, integer, fraction, exponent⟩ := x
    cases hsign with
    | minus => simp_all [numeral]
    | none =>
      have hminus : d ≠ '-' := by rintro rfl; cases hd
      simp_all [numeral]

/-- No numeral goes on here. -/
def EndsNumeral (rest : List Char) : Prop :=
  ∀ c ∈ rest.head?, isDecimal c = false ∧ c ≠ '.' ∧ c ≠ 'e' ∧ c ≠ 'E'

theorem EndsNumeral.runAt (h : EndsNumeral rest) (hne : run ≠ []) (hd : ∀ c ∈ run, isDecimal c) :
    RunAt run (run ++ rest) rest :=
  ⟨hne, hd, rfl, fun c hc => (h c hc).1⟩

theorem EndsNumeral.fractionAt (h : EndsNumeral rest) : FractionAt [] rest rest :=
  .none fun he => (h _ he).2.1 rfl

theorem EndsNumeral.exponentAt (h : EndsNumeral rest) : ExponentAt none rest rest :=
  .none fun c hc => (h c hc).2.2

/-- A whole number in the notation of JSON. -/
def wholeNumeral (n : Int) : Numeral := ⟨decide (n < 0), decimal n.natAbs, [], none⟩

theorem decimal_leading {n : Nat} (h : (decimal n).head? = some '0') : (decimal n).length = 1 := by
  rw [decimal_head h]
  rfl

theorem numeralAt_renderWhole (h : EndsNumeral rest) (n : Int) :
    NumeralAt (wholeNumeral n) (renderWhole n ++ rest) rest := by
  have hrun : RunAt (decimal n.natAbs) (decimal n.natAbs ++ rest) rest :=
    h.runAt (decimal_ne_nil _) (decimal_isDecimal _)
  refine ⟨_, ?_, ⟨_, _, hrun, h.fractionAt, h.exponentAt⟩, decimal_leading⟩
  unfold renderWhole wholeNumeral
  by_cases hn : n < 0
  · simp only [hn, decide_true, if_true]
    exact .minus
  · simp only [hn, decide_false, if_false]
    exact .none

theorem toInt_minValue : Int64.minValue.toInt = -9223372036854775808 := by decide

/-- A whole number of a 64-bit word is read back from its digits. -/
theorem ofNumeral?_wholeNumeral {n : Int} (hlow : Int64.minValue.toInt ≤ n)
    (hhigh : n < UInt64.size) : ofNumeral? (wholeNumeral n) = some (.whole n) := by
  have hread : numberIn? 10 (decimal n.natAbs) = some n.natAbs :=
    numberIn?_digitsIn (by omega) (by omega) _
  unfold ofNumeral? wholeNumeral
  dsimp only
  rw [hread, Option.getD_some]
  by_cases hn : n < 0
  · have habs : -(n.natAbs : Int) = n := by omega
    have hpos : 0 < n.natAbs := by omega
    simp only [hn, habs, hlow, hpos, decide_true, List.isEmpty_nil, Option.isNone_none,
      Bool.and_self, if_true]
  · have habs : (n.natAbs : Int) = n := by omega
    have hsize : n.natAbs < UInt64.size := by omega
    simp only [hn, habs, hsize, decide_true, decide_false, List.isEmpty_nil, Option.isNone_none,
      Bool.and_self, Bool.false_eq_true, if_true, if_false]

theorem whole_range {n : Int} (h : ofNumeral? x = some (.whole n)) :
    Int64.minValue.toInt ≤ n ∧ n < UInt64.size := by
  have hfloat : (floatOf? x).map Json.float ≠ some (.whole n) := by
    intro he
    obtain ⟨_, _, he⟩ := Option.map_eq_some_iff.mp he
    cases he
  have hsize : UInt64.size = 18446744073709551616 := rfl
  rw [toInt_minValue]
  unfold ofNumeral? at h
  rw [toInt_minValue] at h
  dsimp only at h
  cases hx : x.negative with
  | false =>
    simp only [hx, Bool.false_eq_true, if_false] at h
    split at h
    next hfits =>
      obtain rfl := Json.whole.inj (Option.some.inj h)
      simp only [Bool.and_eq_true, decide_eq_true_eq] at hfits
      omega
    · exact absurd h hfloat
  | true =>
    simp only [hx, if_true] at h
    split at h
    next hfits =>
      obtain rfl := Json.whole.inj (Option.some.inj h)
      simp only [Bool.and_eq_true, decide_eq_true_eq] at hfits
      omega
    · exact absurd h hfloat

theorem replicate_isDecimal (n : Nat) : ∀ c ∈ List.replicate n '0', isDecimal c := by
  intro c hc
  rw [List.eq_of_mem_replicate hc]
  decide

theorem append_isDecimal {xs ys : List Char} (hx : ∀ c ∈ xs, isDecimal c)
    (hy : ∀ c ∈ ys, isDecimal c) : ∀ c ∈ xs ++ ys, isDecimal c := by
  intro c hc
  rcases List.mem_append.mp hc with hc | hc
  · exact hx c hc
  · exact hy c hc

theorem exponentText_endsRun (e : Int) :
    ∀ c ∈ (Scientific.exponentText e ++ rest).head?, isDecimal c = false := by
  intro c hc
  obtain rfl : 'e' = c := Option.some.inj hc
  decide

theorem exponentAt_exponentText (h : EndsNumeral rest) (e : Int) :
    ExponentAt (some (decide (e < 0), decimal e.natAbs)) (Scientific.exponentText e ++ rest)
      rest := by
  have hrun := h.runAt (decimal_ne_nil e.natAbs) (decimal_isDecimal _)
  unfold Scientific.exponentText
  by_cases he : e < 0
  · simp only [he, decide_true, if_true]
    exact .digits (Or.inl rfl) .minus hrun
  · simp only [he, decide_false, if_false]
    exact .digits (Or.inl rfl) .plus hrun

/-- A text is a numeral without a sign wherever it ends. -/
def IsUnsigned (text : List Char) : Prop :=
  ∃ integer fraction exponent, ∀ rest, EndsNumeral rest →
    UnsignedAt integer fraction exponent (text ++ rest) rest

theorem isUnsigned_point {integer : List Char} (hint : integer ≠ [])
    (hintDigits : ∀ c ∈ integer, isDecimal c) (hfraction : fraction ≠ [])
    (hdigits : ∀ c ∈ fraction, isDecimal c)
    (hleading : integer.head? = some '0' → integer.length = 1) :
    IsUnsigned (integer ++ '.' :: fraction) := by
  refine ⟨integer, fraction, none, fun rest h => ⟨⟨'.' :: (fraction ++ rest), rest, ?_, ?_,
    h.exponentAt⟩, hleading⟩⟩
  · exact ⟨hint, hintDigits, by simp, by simp [isDecimal]⟩
  · exact .digits (h.runAt hfraction hdigits)

/-- Both sides of the point keep a digit. -/
theorem isUnsigned_split {d : Char} {more : List Char} {k : Nat} (hpos : 0 < k)
    (hless : k < (d :: more).length) (hdigits : ∀ c ∈ d :: more, isDecimal c)
    (hlead : d = '0' → more = []) :
    IsUnsigned ((d :: more).take k ++ '.' :: (d :: more).drop k) := by
  obtain ⟨j, rfl⟩ := Nat.exists_eq_add_one_of_ne_zero (Nat.ne_of_gt hpos)
  have htake : (d :: more).take (j + 1) ≠ [] := by simp
  have hdrop : (d :: more).drop (j + 1) ≠ [] := by simpa using hless
  refine isUnsigned_point htake (fun c hc => hdigits c (List.mem_of_mem_take hc)) hdrop
    (fun c hc => hdigits c (List.mem_of_mem_drop hc)) fun hhead => ?_
  rw [hlead (Option.some.inj hhead)]
  simp

theorem isUnsigned_scientific {d : Char} {more : List Char} (hd : isDecimal d)
    (hmore : ∀ c ∈ more, isDecimal c) (e : Int) :
    IsUnsigned (d :: (if more = [] then [] else '.' :: more) ++ Scientific.exponentText e) := by
  refine ⟨[d], more, some (decide (e < 0), decimal e.natAbs), fun rest h => ?_⟩
  have hexponent := exponentAt_exponentText h e
  have hone : ∀ c ∈ [d], isDecimal c := by simpa using hd
  refine ⟨⟨(if more = [] then [] else '.' :: more) ++ (Scientific.exponentText e ++ rest),
    Scientific.exponentText e ++ rest, ⟨by simp, hone, by simp, ?_⟩, ?_, hexponent⟩, fun _ => rfl⟩
  · split
    · exact exponentText_endsRun e
    · simp [isDecimal]
  · split
    next hnil =>
      subst hnil
      exact .none (by simp [Scientific.exponentText])
    next hne => exact .digits ⟨hne, hmore, rfl, exponentText_endsRun e⟩

/-- A decimal is written as a numeral, since none but zero begins with a zero. -/
theorem isUnsigned_render (layout : FloatLayout) (x : Scientific)
    (hzero : x.digits = 0 → x.exponent ≤ 0) : IsUnsigned (x.render layout) := by
  have hdigits := decimal_isDecimal x.digits
  obtain ⟨d, more, hrun⟩ := List.exists_cons_of_ne_nil (decimal_ne_nil x.digits)
  have hlead : d = '0' → x.digits = 0 ∧ more = [] := by
    rintro rfl
    have hx : x.digits = 0 := decimal_head (by rw [hrun]; rfl)
    rw [hx] at hrun
    exact ⟨hx, (List.cons.inj hrun).2.symm⟩
  unfold Scientific.render
  dsimp only
  rw [hrun] at hdigits ⊢
  have hmore : ∀ c ∈ more, isDecimal c := fun c hc => hdigits c (List.mem_cons_of_mem _ hc)
  split
  next hplace =>
    split
    next hexp =>
      refine isUnsigned_point (by simp) (append_isDecimal hdigits (replicate_isDecimal _)) (by simp)
        (replicate_isDecimal 1) fun hhead => ?_
      obtain ⟨hx, rfl⟩ := hlead (Option.some.inj hhead)
      have hnone : x.exponent.toNat = 0 := Int.toNat_of_nonpos (hzero hx)
      simp [hnone]
    next hexp =>
      exact isUnsigned_split (by omega) (by omega) hdigits fun hd => (hlead hd).2
  next hplace =>
    split
    next hsmall =>
      change IsUnsigned (['0'] ++ '.' :: (List.replicate _ '0' ++ d :: more))
      exact isUnsigned_point (by simp) (replicate_isDecimal 1) (by simp)
        (append_isDecimal (replicate_isDecimal _) hdigits) fun _ => rfl
    next hlarge =>
      have hscientific := isUnsigned_scientific (hdigits d (List.mem_cons_self ..)) hmore
        ((d :: more).length + x.exponent - 1)
      split
      next heq =>
        obtain ⟨rfl, rfl⟩ := List.cons.inj heq
        exact hscientific
      next hne heq =>
        obtain ⟨rfl, rfl⟩ := List.cons.inj heq
        rw [if_neg fun hnil => hne (by rw [hnil])] at hscientific
        exact hscientific
      next heq => cases heq

end Json

namespace Magnitude

theorem digits_ne_zero_of_admits {x : Magnitude} {s : Scientific} (hx : x.significand ≠ 0)
    (h : x.admits s) : s.digits ≠ 0 := by
  intro hs
  have hlow : 0 < x.roundingRange.low := by
    unfold roundingRange
    dsimp only
    split <;> omega
  have hunit : 0 < x.roundingRange.unitNum * Nat.pow 10 (-s.exponent).toNat :=
    Nat.mul_pos (Nat.pow_pos (by omega)) (Nat.pow_pos (by omega))
  have hpos := Nat.mul_pos hlow hunit
  unfold admits at h
  rw [hs] at h
  simp only [Nat.zero_mul] at h
  split at h <;> simp only [Bool.and_eq_true, decide_eq_true_eq] at h <;> omega

theorem shortest_exponent {x : Magnitude} (hx : x.significand ≠ 0)
    (h : x.shortest.digits = 0) : x.shortest.exponent ≤ 0 := by
  unfold shortest at h ⊢
  dsimp only at h ⊢
  cases hf : (List.range 18).findSome? fun (n : Nat) => x.onGrid? (x.decimalPlace - n) with
  | none => simp
  | some s =>
    rw [hf, Option.getD_some] at h
    obtain ⟨n, -, hgrid⟩ := List.exists_of_findSome?_eq_some hf
    exact absurd h (digits_ne_zero_of_admits hx (List.find?_some hgrid))

end Magnitude

namespace Json

/-- A number of the binary format is written as a numeral too. -/
theorem numeralAt_render (f : Binary64) :
    ∃ x, ∀ rest, EndsNumeral rest → NumeralAt x (f.render ++ rest) rest := by
  have hmagnitude : IsUnsigned (if f.magnitude.isZero then ['0', '.', '0']
      else f.magnitude.shortest.render floatLayout) := by
    split
    · change IsUnsigned (['0'] ++ '.' :: ['0'])
      exact isUnsigned_point (by simp) (replicate_isDecimal 1) (by simp) (replicate_isDecimal 1)
        fun _ => rfl
    next hzero =>
      have hsignificand : f.magnitude.significand ≠ 0 := by
        simpa [Magnitude.isZero] using hzero
      exact isUnsigned_render _ _ (Magnitude.shortest_exponent hsignificand)
  obtain ⟨integer, fraction, exponent, hunsigned⟩ := hmagnitude
  refine ⟨⟨f.negative, integer, fraction, exponent⟩, fun rest h => ⟨_, ?_, hunsigned rest h⟩⟩
  unfold Binary64.render
  dsimp only
  cases hn : f.negative
  · exact .none
  · exact .minus

end Json

end Gatehouse
