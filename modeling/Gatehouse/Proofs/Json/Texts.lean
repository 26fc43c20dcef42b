import Gatehouse.Proofs.Cutting
import Gatehouse.Proofs.Json.Numerals
import Gatehouse.Proofs.Json.Strings
import Gatehouse.Proofs.Members

namespace Gatehouse

namespace Json

/-- How a text may be written: what stands between its parts, and what a numeral stands for. -/
structure Style where
  blank : Char → Bool
  numeral : Numeral → Json → Prop

/-- What is spelt at the front of some characters, and what is left behind it. -/
abbrev Spelling (α : Type) := α → List Char → List Char → Prop

namespace Style

def Blanks (style : Style) (cs rest : List Char) : Prop :=
  ∃ between, cs = between ++ rest ∧ ∀ c ∈ between, style.blank c

variable (style : Style)

/-- A value that is no container. -/
inductive ScalarAt : Spelling Json where
  | nullWord {rest : List Char} : ScalarAt .null ("null".toList ++ rest) rest
  | trueWord {rest : List Char} : ScalarAt (.bool true) ("true".toList ++ rest) rest
  | falseWord {rest : List Char} : ScalarAt (.bool false) ("false".toList ++ rest) rest
  | string {text cs rest : List Char} (h : TextAt text cs rest) :
      ScalarAt (.string (String.ofList text)) ('"' :: cs) rest
  | number {x : Numeral} {v : Json} {cs rest : List Char} (h : NumeralAt x cs rest)
      (hv : style.numeral x v) : ScalarAt v cs rest

/-- Items with commas between them up to a closing bracket, at least one. -/
inductive ListAt {α : Type} (item : Spelling α) (close : Char) : Spelling (List α) where
  | last {x : α} {cs mid rest : List Char} (h : item x cs mid)
      (hclose : style.Blanks mid (close :: rest)) : ListAt item close [x] cs rest
  | next {x : α} {xs : List α} {cs mid after rest : List Char} (h : item x cs mid)
      (hcomma : style.Blanks mid (',' :: after)) (hmore : ListAt item close xs after rest) :
      ListAt item close (x :: xs) cs rest

/-- What stands in a container behind its opening bracket. -/
inductive ContentsAt {α : Type} (item : Spelling α) (close : Char) : Spelling (List α) where
  | none {cs rest : List Char} (h : style.Blanks cs (close :: rest)) :
      ContentsAt item close [] cs rest
  | some {xs : List α} {cs rest : List Char} (h : style.ListAt item close xs cs rest) :
      ContentsAt item close xs cs rest

/-- A name in quotes, a colon and a value. -/
def BindingAt (held : Spelling Json) : Spelling (String × Json) := fun x cs rest =>
  ∃ a b c, style.Blanks cs ('"' :: a) ∧ TextAt x.1.toList a b ∧ style.Blanks b (':' :: c) ∧
    held x.2 c rest

inductive ContainerAt (held : Spelling Json) : Spelling Json where
  | array {items : List Json} {cs rest : List Char} (h : style.ContentsAt held ']' items cs rest) :
      ContainerAt held (.array items) ('[' :: cs) rest
  | object {bindings : List (String × Json)} {cs rest : List Char}
      (h : style.ContentsAt (style.BindingAt held) '}' bindings cs rest) :
      ContainerAt held (.object (Members.ofList bindings)) ('{' :: cs) rest

/-- A value with blanks before it, whose containers are nested at most so deep. -/
def ValueAt : Nat → Spelling Json
  | 0, v, cs, rest => ∃ mid, style.Blanks cs mid ∧ style.ScalarAt v mid rest
  | d + 1, v, cs, rest => ∃ mid, style.Blanks cs mid ∧
      (style.ScalarAt v mid rest ∨ style.ContainerAt (ValueAt d) v mid rest)

variable {style} in
theorem valueAt_iff {depth : Nat} {v : Json} {cs rest : List Char} :
    style.ValueAt depth v cs rest ↔ ∃ mid, style.Blanks cs mid ∧ (style.ScalarAt v mid rest ∨
      ∃ d, depth = d + 1 ∧ style.ContainerAt (style.ValueAt d) v mid rest) := by
  cases depth <;> simp [ValueAt]

/-- The characters are the text of an object with these bindings, in the order of the text. -/
def IsObjectText (bindings : List (String × Json)) (cs : List Char) : Prop :=
  ∃ inside after, style.Blanks cs ('{' :: inside) ∧
    style.ContentsAt (style.BindingAt (style.ValueAt (maxDepth - 1))) '}' bindings inside after ∧
    ∀ c ∈ after, style.blank c

/-- Texts as they are read. -/
def reading : Style := ⟨isSpace, fun x v => ofNumeral? x = some v⟩

end Style

variable {cs mid rest : List Char} {c : Char}

theorem blanks_skipSpace (cs : List Char) : Style.reading.Blanks cs (skipSpace cs) :=
  ⟨cs.takeWhile isSpace, List.takeWhile_append_dropWhile.symm,
    List.all_eq_true.mp List.all_takeWhile⟩

theorem skipSpace_of_blanks (h : Style.reading.Blanks cs (c :: rest)) (hc : isSpace c = false) :
    skipSpace cs = c :: rest := by
  obtain ⟨between, rfl, hbetween⟩ := h
  have hdrop : (between ++ c :: rest).dropWhile isSpace = (c :: rest).dropWhile isSpace :=
    List.dropWhile_append_of_pos hbetween
  rw [skipSpace, hdrop, List.dropWhile_cons, hc]
  rfl

theorem expect?_eq_some_iff (hc : isSpace c = false) :
    expect? c cs = some rest ↔ Style.reading.Blanks cs (c :: rest) := by
  constructor
  · intro h
    unfold expect? at h
    split at h
    next d more hs =>
      split at h
      next hd =>
        cases Option.some.inj h
        have hblanks := blanks_skipSpace cs
        rw [hs, ← hd] at hblanks
        exact hblanks
      · cases h
    · cases h
  · intro h
    rw [expect?, skipSpace_of_blanks h hc]
    exact if_pos rfl

theorem Style.Blanks.length_le {style : Style} (h : style.Blanks cs rest) :
    rest.length ≤ cs.length := by
  obtain ⟨between, rfl, -⟩ := h
  simp

theorem skipSpace_isEmpty_iff : (skipSpace cs).isEmpty ↔ ∀ c ∈ cs, Style.reading.blank c := by
  rw [List.isEmpty_iff]
  constructor
  · intro h c hc
    obtain ⟨between, hcs, hbetween⟩ := blanks_skipSpace cs
    rw [h, List.append_nil] at hcs
    exact hbetween c (hcs ▸ hc)
  · exact dropWhile_eq_nil

/-- A reader reads exactly what is spelt, which is never nothing. -/
structure Reads {α : Type} (read : Reader α) (spelling : Spelling α) : Prop where
  iff : ∀ {a cs rest}, read cs = some (a, rest) ↔ spelling a cs rest
  length_lt : ∀ {a cs rest}, spelling a cs rest → rest.length < cs.length

namespace Reads

variable {α : Type} {member : Reader α} {spelling : Spelling α} {close : Char}

theorem sequence_eq_some_iff (hm : Reads member spelling) (hclose : isSpace close = false)
    (hcomma : close ≠ ',') {before xs : List α} {fuel : Nat} :
    sequence member close before fuel cs = some (xs, rest) ↔
      ∃ found, xs = before.reverse ++ found ∧ found.length ≤ fuel ∧
        Style.reading.ListAt spelling close found cs rest := by
  induction fuel generalizing before cs with
  | zero =>
    constructor
    · intro h
      cases h
    · rintro ⟨found, -, hlength, hfound⟩
      cases hfound <;> simp at hlength
  | succ fuel ih =>
    constructor
    · intro h
      unfold sequence at h
      split at h
      · cases h
      next x after hx =>
        have hx := hm.iff.mp hx
        split at h
        next c more hs =>
          have hblanks := blanks_skipSpace after
          rw [hs] at hblanks
          split at h
          next hc =>
            obtain ⟨rfl, rfl⟩ := Prod.mk.inj (Option.some.inj h)
            exact ⟨[x], by simp, by simp, .last hx (hc ▸ hblanks)⟩
          next =>
            split at h
            next hc =>
              obtain ⟨found, rfl, hlength, hfound⟩ := ih.mp h
              exact ⟨x :: found, by simp, by simpa using hlength, .next hx (hc ▸ hblanks) hfound⟩
            · cases h
        · cases h
    · rintro ⟨found, rfl, hlength, hfound⟩
      unfold sequence
      cases hfound with
      | last hx hblanks =>
        rw [hm.iff.mpr hx]
        dsimp only
        rw [skipSpace_of_blanks hblanks hclose]
        simp
      | next hx hblanks hmore =>
        rw [hm.iff.mpr hx]
        dsimp only
        rw [skipSpace_of_blanks hblanks (by decide)]
        simp only [hcomma.symm, if_false, if_true]
        exact ih.mpr ⟨_, by simp, by simpa using hlength, hmore⟩

theorem length_lt_of_listAt (hm : Reads member spelling) {xs : List α}
    (h : Style.reading.ListAt spelling close xs cs rest) :
    rest.length + xs.length < cs.length := by
  induction h with
  | last hx hblanks =>
    have hitem := hm.length_lt hx
    have hmid := hblanks.length_le
    simp only [List.length_cons, List.length_nil] at hmid ⊢
    omega
  | next hx hblanks _ ih =>
    have hitem := hm.length_lt hx
    have hmid := hblanks.length_le
    simp only [List.length_cons] at hmid ⊢
    omega

/-- The closing bracket is told from every item by how it begins. -/
theorem container (hm : Reads member spelling) (hclose : isSpace close = false)
    (hcomma : close ≠ ',')
    (hstart : ∀ {a cs rest more}, spelling a cs rest → ¬Style.reading.Blanks cs (close :: more)) :
    Reads (container member close) (Style.reading.ContentsAt spelling close) where
  iff {xs cs rest} := by
    unfold Json.container
    constructor
    · intro h
      split at h
      next more hexpect =>
        obtain ⟨rfl, rfl⟩ := Prod.mk.inj (Option.some.inj h)
        exact .none ((expect?_eq_some_iff hclose).mp hexpect)
      next =>
        obtain ⟨found, rfl, -, hfound⟩ := (hm.sequence_eq_some_iff hclose hcomma).mp h
        exact .some hfound
    · rintro (h | h)
      · rw [(expect?_eq_some_iff hclose).mpr h]
      · have hnone : expect? close cs = none := by
          rw [Option.eq_none_iff_forall_ne_some]
          intro more hmore
          have hblanks := (expect?_eq_some_iff hclose).mp hmore
          cases h with
          | last hx _ => exact hstart hx hblanks
          | next hx _ _ => exact hstart hx hblanks
        have hlength := hm.length_lt_of_listAt h
        rw [hnone]
        exact (hm.sequence_eq_some_iff hclose hcomma).mpr ⟨xs, by simp, by omega, h⟩
  length_lt h := by
    cases h with
    | none h =>
      have hlength := h.length_le
      simp only [List.length_cons] at hlength
      omega
    | some h =>
      have hlength := hm.length_lt_of_listAt h
      omega

theorem binding {value : Reader Json} {held : Spelling Json} (hv : Reads value held) :
    Reads (binding value) (Style.reading.BindingAt held) where
  iff {x cs rest} := by
    unfold Json.binding
    constructor
    · intro h
      obtain ⟨a, ha, h⟩ := Option.bind_eq_some_iff.mp h
      obtain ⟨⟨name, b⟩, hname, h⟩ := Option.bind_eq_some_iff.mp h
      obtain ⟨c, hc, h⟩ := Option.bind_eq_some_iff.mp h
      obtain ⟨⟨v, after⟩, hvalue, h⟩ := Option.bind_eq_some_iff.mp h
      obtain ⟨rfl, rfl⟩ := Prod.mk.inj (Option.some.inj h)
      refine ⟨a, b, c, (expect?_eq_some_iff (by decide)).mp ha, ?_,
        (expect?_eq_some_iff (by decide)).mp hc, hv.iff.mp hvalue⟩
      rw [String.toList_ofList]
      exact stringBody_eq_some_iff.mp hname
    · rintro ⟨a, b, c, ha, hname, hc, hheld⟩
      have ha := (expect?_eq_some_iff (by decide)).mpr ha
      have hc := (expect?_eq_some_iff (by decide)).mpr hc
      simp [ha, stringBody_eq_some_iff.mpr hname, hc, hv.iff.mpr hheld]
  length_lt := by
    rintro x cs rest ⟨a, b, c, ha, hname, hc, hheld⟩
    have ha := ha.length_le
    have hname := hname.length_lt
    have hc := hc.length_le
    have hheld := hv.length_lt hheld
    simp only [List.length_cons] at ha hc
    omega

end Reads

theorem word?_eq_some_iff {spelling : String} {v w : Json} :
    word? spelling v cs = some (w, rest) ↔ w = v ∧ cs = spelling.toList ++ rest := by
  unfold word?
  dsimp only
  constructor
  · intro h
    split at h
    next hprefix =>
      obtain ⟨rfl, rfl⟩ := Prod.mk.inj (Option.some.inj h)
      obtain ⟨more, rfl⟩ := List.isPrefixOf_iff_prefix.mp hprefix
      exact ⟨rfl, by rw [List.drop_left]⟩
    · cases h
  · rintro ⟨rfl, rfl⟩
    rw [if_pos (List.isPrefixOf_iff_prefix.mpr (List.prefix_append _ _)), List.drop_left]

theorem value_of_numeral {depth : Nat} {more : List Char} (h : skipSpace cs = c :: more)
    (hc : beginsNumeral c) :
    value depth cs =
      (numeral (c :: more)).bind fun (x, rest) => (ofNumeral? x).map (·, rest) := by
  have hquote : c ≠ '"' := ne_of_beginsNumeral hc (by decide)
  have hbracket : c ≠ '[' := ne_of_beginsNumeral hc (by decide)
  have hbrace : c ≠ '{' := ne_of_beginsNumeral hc (by decide)
  have hnull : c ≠ 'n' := ne_of_beginsNumeral hc (by decide)
  have htrue : c ≠ 't' := ne_of_beginsNumeral hc (by decide)
  have hfalse : c ≠ 'f' := ne_of_beginsNumeral hc (by decide)
  unfold value
  rw [h]
  split <;> simp_all

theorem isSpace_of_beginsNumeral (h : beginsNumeral c) : isSpace c = false := by
  have hblank : c ≠ ' ' := ne_of_beginsNumeral h (by decide)
  have hline : c ≠ '\n' := ne_of_beginsNumeral h (by decide)
  have htab : c ≠ '\t' := ne_of_beginsNumeral h (by decide)
  have hreturn : c ≠ '\r' := ne_of_beginsNumeral h (by decide)
  simp [isSpace, hblank, hline, htab, hreturn]

namespace Style

variable {style : Style} {v : Json}

/-- What a value begins with is neither blank nor the end of an array. -/
def Begins (cs : List Char) : Prop := ∃ c more, cs = c :: more ∧ isSpace c = false ∧ c ≠ ']'

theorem ScalarAt.begins (h : style.ScalarAt v cs rest) : Begins cs := by
  cases h with
  | nullWord | trueWord | falseWord | string => exact ⟨_, _, rfl, by decide, by decide⟩
  | number h _ =>
    obtain ⟨c, more, rfl, hc⟩ := h.exists_cons
    exact ⟨c, more, rfl, isSpace_of_beginsNumeral hc, ne_of_beginsNumeral hc (by decide)⟩

theorem ContainerAt.begins {held : Spelling Json} (h : style.ContainerAt held v cs rest) :
    Begins cs := by
  cases h <;> exact ⟨_, _, rfl, by decide, by decide⟩

theorem ValueAt.exists_skipSpace {depth : Nat} (h : reading.ValueAt depth v cs rest) :
    ∃ front, skipSpace cs = front ∧ Begins front ∧ (reading.ScalarAt v front rest ∨
      ∃ d, depth = d + 1 ∧ reading.ContainerAt (reading.ValueAt d) v front rest) := by
  obtain ⟨front, hblanks, h⟩ := valueAt_iff.mp h
  have hbegins : Begins front := by
    rcases h with h | ⟨d, -, h⟩
    · exact h.begins
    · exact h.begins
  refine ⟨front, ?_, hbegins, h⟩
  obtain ⟨c, more, rfl, hc, -⟩ := hbegins
  exact skipSpace_of_blanks hblanks hc

theorem ScalarAt.length_lt (h : style.ScalarAt v cs rest) : rest.length < cs.length := by
  cases h with
  | nullWord | trueWord | falseWord =>
    rw [List.length_append]
    exact Nat.lt_add_of_pos_left (by decide)
  | string h =>
    have htext := h.length_lt
    rw [List.length_cons]
    omega
  | number h _ => exact h.length_lt

end Style

namespace Reads

variable {read : Reader Json} {held : Spelling Json}

theorem items {d : Nat} (h : Reads (value d) (Style.reading.ValueAt d)) :
    Reads (Json.container (value d) ']') (Style.reading.ContentsAt (Style.reading.ValueAt d) ']') :=
  h.container (by decide) (by decide) fun hv hblanks => by
    obtain ⟨_, hskip, ⟨c, more, rfl, -, hc⟩, -⟩ := hv.exists_skipSpace
    rw [skipSpace_of_blanks hblanks (by decide)] at hskip
    exact hc (List.cons.inj hskip).1.symm

theorem bindings (h : Reads read held) :
    Reads (Json.container (Json.binding read) '}')
      (Style.reading.ContentsAt (Style.reading.BindingAt held) '}') :=
  h.binding.container (by decide) (by decide) fun ⟨_, _, _, hquote, _⟩ hblanks => by
    have hskip := skipSpace_of_blanks hquote (by decide)
    rw [skipSpace_of_blanks hblanks (by decide)] at hskip
    cases hskip

end Reads

section Value

variable {depth : Nat} {v : Json}
  (hd : ∀ d, depth = d + 1 → Reads (value d) (Style.reading.ValueAt d))
include hd

theorem valueAt_of_value (h : value depth cs = some (v, rest)) :
    Style.reading.ValueAt depth v cs rest := by
  refine Style.valueAt_iff.mpr ⟨skipSpace cs, blanks_skipSpace cs, ?_⟩
  unfold value at h
  split at h
  next more hs =>
    obtain ⟨⟨text, after⟩, htext, h⟩ := Option.map_eq_some_iff.mp h
    obtain ⟨rfl, rfl⟩ := Prod.mk.inj h
    exact Or.inl (hs ▸ .string (stringBody_eq_some_iff.mp htext))
  next more hs =>
    cases depth with
    | zero => cases h
    | succ d =>
      obtain ⟨⟨items, after⟩, hitems, h⟩ := Option.map_eq_some_iff.mp h
      obtain ⟨rfl, rfl⟩ := Prod.mk.inj h
      exact Or.inr ⟨d, rfl, hs ▸ .array ((hd d rfl).items.iff.mp hitems)⟩
  next more hs =>
    cases depth with
    | zero => cases h
    | succ d =>
      obtain ⟨⟨bindings, after⟩, hbindings, h⟩ := Option.map_eq_some_iff.mp h
      obtain ⟨rfl, rfl⟩ := Prod.mk.inj h
      exact Or.inr ⟨d, rfl, hs ▸ .object ((hd d rfl).bindings.iff.mp hbindings)⟩
  next more hs =>
    obtain ⟨rfl, rfl⟩ := word?_eq_some_iff.mp h
    exact Or.inl (hs ▸ .nullWord)
  next more hs =>
    obtain ⟨rfl, rfl⟩ := word?_eq_some_iff.mp h
    exact Or.inl (hs ▸ .trueWord)
  next more hs =>
    obtain ⟨rfl, rfl⟩ := word?_eq_some_iff.mp h
    exact Or.inl (hs ▸ .falseWord)
  next =>
    obtain ⟨⟨x, after⟩, hx, h⟩ := Option.bind_eq_some_iff.mp h
    obtain ⟨w, hw, h⟩ := Option.map_eq_some_iff.mp h
    obtain ⟨rfl, rfl⟩ := Prod.mk.inj h
    exact Or.inl (.number (numeral_eq_some_iff.mp hx) hw)

theorem value_of_valueAt (h : Style.reading.ValueAt depth v cs rest) :
    value depth cs = some (v, rest) := by
  obtain ⟨front, hs, -, hv⟩ := h.exists_skipSpace
  rcases hv with hv | ⟨d, rfl, hv⟩
  · cases hv with
    | nullWord | trueWord | falseWord =>
      unfold value
      rw [hs]
      exact word?_eq_some_iff.mpr ⟨rfl, rfl⟩
    | string htext =>
      unfold value
      rw [hs]
      change (stringBody _).map _ = _
      rw [stringBody_eq_some_iff.mpr htext]
      rfl
    | number hx hv =>
      obtain ⟨c, more, rfl, hc⟩ := hx.exists_cons
      rw [value_of_numeral hs hc, numeral_eq_some_iff.mpr hx]
      exact congrArg (Option.map _) hv
  · unfold value
    rw [hs]
    cases hv with
    | array hitems =>
      change (container (value d) ']' _).map _ = _
      rw [(hd d rfl).items.iff.mpr hitems]
      rfl
    | object hbindings =>
      change (container (Json.binding (value d)) '}' _).map _ = _
      rw [(hd d rfl).bindings.iff.mpr hbindings]
      rfl

theorem length_lt_of_valueAt (h : Style.reading.ValueAt depth v cs rest) :
    rest.length < cs.length := by
  obtain ⟨mid, hblanks, hv⟩ := Style.valueAt_iff.mp h
  refine Nat.lt_of_lt_of_le ?_ hblanks.length_le
  rcases hv with hv | ⟨d, rfl, hv⟩
  · exact hv.length_lt
  · cases hv with
    | array hitems =>
      have hlength := (hd d rfl).items.length_lt hitems
      rw [List.length_cons]
      omega
    | object hbindings =>
      have hlength := (hd d rfl).bindings.length_lt hbindings
      rw [List.length_cons]
      omega

end Value

/-- A value is read exactly where it is spelt. -/
theorem reads_value (depth : Nat) : Reads (value depth) (Style.reading.ValueAt depth) := by
  have step {depth : Nat} (hd : ∀ d, depth = d + 1 → Reads (value d) (Style.reading.ValueAt d)) :
      Reads (value depth) (Style.reading.ValueAt depth) :=
    ⟨⟨valueAt_of_value hd, value_of_valueAt hd⟩, length_lt_of_valueAt hd⟩
  induction depth with
  | zero => exact step fun d h => by cases h
  | succ d ih => exact step fun e h => by cases h; exact ih

theorem bindings?_eq_some_iff {bindings : List (String × Json)} :
    bindings? cs = some bindings ↔ Style.reading.IsObjectText bindings cs := by
  have hreads := (reads_value (maxDepth - 1)).bindings
  unfold bindings?
  constructor
  · intro h
    split at h
    next inside hs =>
      obtain ⟨⟨found, after⟩, hfound, h⟩ := Option.bind_eq_some_iff.mp h
      dsimp only at h
      split at h
      next hafter =>
        cases Option.some.inj h
        have hblanks := blanks_skipSpace cs
        rw [hs] at hblanks
        exact ⟨inside, after, hblanks, hreads.iff.mp hfound, skipSpace_isEmpty_iff.mp hafter⟩
      · cases h
    · cases h
  · rintro ⟨inside, after, hblanks, hbindings, hafter⟩
    rw [skipSpace_of_blanks hblanks (by decide)]
    change (container _ '}' inside).bind _ = _
    rw [hreads.iff.mpr hbindings, Option.bind_some]
    exact if_pos (skipSpace_isEmpty_iff.mpr hafter)

theorem fromUTF8?_eq_some_iff {bytes : ByteArray} {text : String} :
    String.fromUTF8? bytes = some text ↔ bytes = text.toUTF8 := by
  unfold String.fromUTF8?
  constructor
  · intro h
    split at h
    · cases Option.some.inj h
      rfl
    · cases h
  · rintro rfl
    exact dif_pos text.isValidUTF8

/-- Some octets are the text of an object with these bindings. -/
def IsObject (bindings : List (String × Json)) (bytes : ByteArray) : Prop :=
  ∃ text : String, bytes = text.toUTF8 ∧ Style.reading.IsObjectText bindings text.toList

/-- Some octets are read as an object exactly if they are the text of one. -/
theorem bindingsOfBytes?_eq_some_iff {bytes : ByteArray} {bindings : List (String × Json)} :
    bindingsOfBytes? bytes = some bindings ↔ IsObject bindings bytes := by
  unfold bindingsOfBytes?
  rw [Option.bind_eq_some_iff]
  exact exists_congr fun text => and_congr fromUTF8?_eq_some_iff bindings?_eq_some_iff

end Json

end Gatehouse
