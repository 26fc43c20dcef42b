import Gatehouse.Proofs.Json.Texts

namespace Gatehouse

namespace Json

/-- A float stands somewhere in the value. -/
inductive HasFloat : Json → Prop where
  | float {x : Binary64} : HasFloat (.float x)
  | array {items : List Json} {v : Json} (hmem : v ∈ items) (h : HasFloat v) :
      HasFloat (.array items)
  | object {members : List (String × Json)} {x : String × Json} (hmem : x ∈ members)
      (h : HasFloat x.2) : HasFloat (.object members)

namespace HasFloat

@[simp] theorem string_iff (text : String) : (Json.string text).HasFloat ↔ False := by
  constructor
  · rintro ⟨⟩
  · exact False.elim

@[simp] theorem object_iff (members : List (String × Json)) :
    (Json.object members).HasFloat ↔ ∃ x ∈ members, x.2.HasFloat := by
  constructor
  · intro h
    cases h with
    | object hmem h => exact ⟨_, hmem, h⟩
  · rintro ⟨x, hmem, h⟩
    exact .object hmem h

end HasFloat

/-- Texts without a blank between their parts. A float may be written as any numeral. -/
def Style.compact : Style :=
  ⟨fun _ => false, fun x v => ofNumeral? x = some v ∨ ∃ f, v = .float f⟩

variable {α : Type}

theorem Style.blanks_self (style : Style) (cs : List Char) : style.Blanks cs cs :=
  ⟨[], rfl, by simp⟩

theorem endsNumeral_of_head {c : Char} {rest : List Char} (h : c = ',' ∨ c = ']' ∨ c = '}') :
    EndsNumeral (c :: rest) := by
  intro d hd
  obtain rfl : c = d := Option.some.inj hd
  rcases h with rfl | rfl | rfl <;> decide

/-- What is written for an item spells it wherever no numeral goes on. -/
def Writes (item : Spelling α) (write : α → List Char) (x : α) : Prop :=
  ∀ rest, EndsNumeral rest → item x (write x ++ rest) rest

section Lists

variable {style : Style} {item : Spelling α} {write : α → List Char} {close : Char}

theorem listAt_written (hclose : close = ']' ∨ close = '}') (x : α) (more : List α)
    (h : ∀ y ∈ x :: more, Writes item write y) (rest : List Char) :
    style.ListAt item close (x :: more)
      (joinWith [','] ((x :: more).map write) ++ close :: rest) rest := by
  induction more generalizing x with
  | nil =>
    exact .last (h x (List.mem_cons_self ..) _ (endsNumeral_of_head (Or.inr hclose)))
      (style.blanks_self _)
  | cons y more ih =>
    have hmore := ih y fun z hz => h z (List.mem_cons_of_mem _ hz)
    rw [List.map_cons, joinWith_cons_of_ne_nil _ _ (by simp), List.append_assoc, List.append_assoc]
    exact .next (h x (List.mem_cons_self ..) _ (endsNumeral_of_head (Or.inl rfl)))
      (style.blanks_self _) hmore

theorem contentsAt_written (hclose : close = ']' ∨ close = '}') {xs : List α}
    (h : ∀ x ∈ xs, Writes item write x) (rest : List Char) :
    style.ContentsAt item close xs (joinWith [','] (xs.map write) ++ close :: rest) rest := by
  cases xs with
  | nil => exact .none (style.blanks_self _)
  | cons x more => exact .some (listAt_written hclose x more h rest)

theorem exists_of_mem_listAt {xs : List α} {cs rest : List Char}
    (h : style.ListAt item close xs cs rest) {x : α} (hx : x ∈ xs) :
    ∃ cs rest, item x cs rest := by
  induction h with
  | last hitem _ =>
    obtain rfl := List.mem_singleton.mp hx
    exact ⟨_, _, hitem⟩
  | next hitem _ _ ih =>
    rcases List.mem_cons.mp hx with rfl | hx
    · exact ⟨_, _, hitem⟩
    · exact ih hx

theorem exists_of_mem_contentsAt {xs : List α} {cs rest : List Char}
    (h : style.ContentsAt item close xs cs rest) {x : α} (hx : x ∈ xs) :
    ∃ cs rest, item x cs rest := by
  cases h with
  | none => cases hx
  | some h => exact exists_of_mem_listAt h hx

end Lists

/-- A member of an object as it is written. -/
def renderMember (x : String × Json) : List Char := renderString x.1 ++ ':' :: x.2.render

theorem render_array (items : List Json) :
    render (.array items) = '[' :: (joinWith [','] (items.map render) ++ [']']) := by
  have hmore (x : Json) (more : List Json) :
      render x ++ renderItems more = joinWith [','] ((x :: more).map render) ++ [']'] := by
    induction more generalizing x with
    | nil => simp [renderItems, joinWith]
    | cons y more ih =>
      rw [List.map_cons, joinWith_cons_of_ne_nil _ _ (by simp), List.append_assoc, ← ih y]
      simp [renderItems]
  cases items with
  | nil => simp [render, joinWith]
  | cons x more => rw [render, ← hmore]; rfl

theorem render_object (members : List (String × Json)) :
    render (.object members) =
      '{' :: (joinWith [','] (members.map renderMember) ++ ['}']) := by
  have hmore (x : String × Json) (more : List (String × Json)) :
      renderMember x ++ renderMembers more =
        joinWith [','] ((x :: more).map renderMember) ++ ['}'] := by
    induction more generalizing x with
    | nil => simp [renderMembers, joinWith]
    | cons y more ih =>
      rw [List.map_cons, joinWith_cons_of_ne_nil _ _ (by simp), List.append_assoc, ← ih y]
      simp [renderMembers, renderMember]
  cases members with
  | nil => simp [render, joinWith]
  | cons x more => rw [← hmore]; simp [render, renderMember]

section Values

variable {style : Style} {held : Spelling Json} {depth : Nat}

theorem valueAt_of_scalarAt {v : Json} {cs rest : List Char} (h : style.ScalarAt v cs rest) :
    style.ValueAt depth v cs rest :=
  Style.valueAt_iff.mpr ⟨cs, style.blanks_self cs, Or.inl h⟩

theorem writes_string (text : String) : Writes (style.ValueAt depth) render (.string text) := by
  intro rest _
  have hscalar : style.ScalarAt (.string (String.ofList text.toList)) _ rest :=
    .string (textAt_escape text.toList rest)
  rw [String.ofList_toList] at hscalar
  refine valueAt_of_scalarAt ?_
  simpa [render, renderString] using hscalar

theorem writes_member {x : String × Json} (h : Writes held render x.2) :
    Writes (style.BindingAt held) renderMember x := by
  intro rest hrest
  have hname := textAt_escape x.1.toList (':' :: (x.2.render ++ rest))
  have htext : renderMember x ++ rest =
      '"' :: (x.1.toList.flatMap escape ++ '"' :: ':' :: (x.2.render ++ rest)) := by
    simp [renderMember, renderString]
  rw [htext]
  exact ⟨_, _, _, style.blanks_self _, hname, style.blanks_self _, h rest hrest⟩

theorem writes_array {items : List Json}
    (h : ∀ v ∈ items, Writes (style.ValueAt depth) render v) :
    Writes (style.ValueAt (depth + 1)) render (.array items) := by
  intro rest _
  refine Style.valueAt_iff.mpr ⟨_, style.blanks_self _, Or.inr ⟨depth, rfl, ?_⟩⟩
  rw [render_array, List.cons_append, List.append_assoc]
  exact .array (contentsAt_written (Or.inl rfl) h rest)

theorem writes_object {members : Members} (hs : members.IsSorted)
    (h : ∀ x ∈ members, Writes (style.ValueAt depth) render x.2) :
    Writes (style.ValueAt (depth + 1)) render (.object members) := by
  intro rest _
  refine Style.valueAt_iff.mpr ⟨_, style.blanks_self _, Or.inr ⟨depth, rfl, ?_⟩⟩
  have hobject : style.ContainerAt (style.ValueAt depth) (.object (Members.ofList members))
      ('{' :: (joinWith [','] (members.map renderMember) ++ '}' :: rest)) rest :=
    .object (contentsAt_written (Or.inr rfl) (fun x hx => writes_member (h x hx)) rest)
  rw [Members.ofList_of_isSorted hs] at hobject
  rw [render_object, List.cons_append, List.append_assoc]
  exact hobject

theorem ofNumeral?_cases {x : Numeral} {v : Json} (h : ofNumeral? x = some v) :
    (∃ n, v = .whole n) ∨ ∃ f, v = .float f := by
  unfold ofNumeral? at h
  dsimp only at h
  rcases ite_eq_iff.mp h with ⟨_, h⟩ | ⟨_, h⟩
  · exact Or.inl ⟨_, (Option.some.inj h).symm⟩
  · obtain ⟨f, _, h⟩ := Option.map_eq_some_iff.mp h
    exact Or.inr ⟨f, h.symm⟩

theorem writes_scalar {v : Json} {cs rest : List Char} (h : Style.reading.ScalarAt v cs rest)
    (hwhole : ∀ x n, ofNumeral? x = some (.whole n) → style.numeral x (.whole n))
    (hfloat : v.HasFloat → ∀ x f, style.numeral x (.float f)) :
    Writes (style.ValueAt depth) render v := by
  cases h with
  | nullWord => exact fun rest _ => valueAt_of_scalarAt .nullWord
  | trueWord => exact fun rest _ => valueAt_of_scalarAt .trueWord
  | falseWord => exact fun rest _ => valueAt_of_scalarAt .falseWord
  | string _ => exact writes_string _
  | number _ hv =>
    intro rest hrest
    rcases ofNumeral?_cases hv with ⟨n, rfl⟩ | ⟨f, rfl⟩
    · obtain ⟨hlow, hhigh⟩ := whole_range hv
      exact valueAt_of_scalarAt (.number (numeralAt_renderWhole hrest n)
        (hwhole _ _ (ofNumeral?_wholeNumeral hlow hhigh)))
    · obtain ⟨x, hx⟩ := numeralAt_render f
      exact valueAt_of_scalarAt (.number (hx rest hrest) (hfloat .float x f))

/-- What has been read is written as a text of the same value. -/
theorem writes_of_valueAt
    (hwhole : ∀ x n, ofNumeral? x = some (.whole n) → style.numeral x (.whole n))
    {v : Json} {cs rest : List Char} (h : Style.reading.ValueAt depth v cs rest)
    (hfloat : v.HasFloat → ∀ x f, style.numeral x (.float f)) :
    Writes (style.ValueAt depth) render v := by
  induction depth generalizing v cs rest with
  | zero =>
    obtain ⟨_, _, h⟩ := h
    exact writes_scalar h hwhole hfloat
  | succ depth ih =>
    obtain ⟨_, _, h | h⟩ := h
    · exact writes_scalar h hwhole hfloat
    cases h with
    | array h =>
      refine writes_array fun v hv => ?_
      obtain ⟨_, _, hitem⟩ := exists_of_mem_contentsAt h hv
      exact ih hitem fun hf => hfloat (.array hv hf)
    | object h =>
      refine writes_object (Members.ofList_isSorted _) fun x hx => ?_
      obtain ⟨_, _, _, _, _, _, _, _, hheld⟩ :=
        exists_of_mem_contentsAt h (Members.mem_ofList hx)
      exact ih hheld fun hf => hfloat (.object hx hf)

end Values

section Objects

variable {style : Style} {bindings : List (String × Json)} {members : Members} {cs : List Char}

theorem isObjectText_written
    (h : ∀ x ∈ members, Writes (style.ValueAt (maxDepth - 1)) render x.2) :
    style.IsObjectText members (render (.object members)) := by
  rw [render_object]
  exact ⟨_, [], style.blanks_self _,
    contentsAt_written (Or.inr rfl) (fun x hx => writes_member (h x hx)) [], by simp⟩

/-- Each member of an object that has been read is written as a text of itself. -/
theorem writes_of_isObjectText
    (hwhole : ∀ x n, ofNumeral? x = some (.whole n) → style.numeral x (.whole n))
    (h : Style.reading.IsObjectText bindings cs) {x : String × Json} (hx : x ∈ bindings)
    (hfloat : x.2.HasFloat → ∀ x f, style.numeral x (.float f)) :
    Writes (style.ValueAt (maxDepth - 1)) render x.2 := by
  obtain ⟨_, _, _, hcontents, _⟩ := h
  obtain ⟨_, _, _, _, _, _, _, _, hheld⟩ := exists_of_mem_contentsAt hcontents hx
  exact writes_of_valueAt hwhole hheld hfloat

end Objects

end Json

end Gatehouse
