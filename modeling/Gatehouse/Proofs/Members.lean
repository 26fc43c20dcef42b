import Mathlib.Logic.Basic
import Gatehouse.Json.Parser

namespace Gatehouse

/-- The value that a name is bound to last. -/
def lastBound (name : String) (bindings : List (String × Json)) : Option Json :=
  (bindings.filter (·.1 = name)).getLast?.map Prod.snd

namespace Members

theorem get?_cons_self (name : String) (v : Json) (rest : Members) :
    get? name ((name, v) :: rest) = some v := by simp [get?]

theorem get?_cons_of_ne {name other : String} (hne : name ≠ other) (v : Json) (rest : Members) :
    get? name ((other, v) :: rest) = get? name rest := by
  have hb : (name == other) = false := by simpa using hne
  simp [get?, List.lookup_cons, hb]

theorem get?_insert_self (name : String) (v : Json) (members : Members) :
    (members.insert name v).get? name = some v := by
  induction members with
  | nil => exact get?_cons_self name v []
  | cons x rest ih =>
    obtain ⟨other, held⟩ := x
    unfold insert
    split
    · exact get?_cons_self name v _
    · split
      · exact get?_cons_self name v rest
      next hne => rw [get?_cons_of_ne hne, ih]

theorem get?_insert_of_ne {name other : String} (hne : other ≠ name) (v : Json)
    (members : Members) : (members.insert name v).get? other = members.get? other := by
  induction members with
  | nil => exact get?_cons_of_ne hne v []
  | cons x rest ih =>
    obtain ⟨third, held⟩ := x
    unfold insert
    split
    · exact get?_cons_of_ne hne v _
    · split
      next heq =>
        subst heq
        rw [get?_cons_of_ne hne, get?_cons_of_ne hne]
      next =>
        by_cases h : other = third
        · subst h
          rw [get?_cons_self, get?_cons_self]
        · rw [get?_cons_of_ne h, get?_cons_of_ne h, ih]

theorem get?_ofList (name : String) (bindings : List (String × Json)) :
    (ofList bindings).get? name = lastBound name bindings := by
  have go (members : Members) :
      (bindings.foldl (fun members x => members.insert x.1 x.2) members).get? name =
        (lastBound name bindings).or (members.get? name) := by
    induction bindings generalizing members with
    | nil => rfl
    | cons x rest ih =>
      obtain ⟨other, v⟩ := x
      rw [List.foldl_cons, ih]
      by_cases h : other = name
      · subst h
        rw [get?_insert_self]
        simp only [lastBound, List.filter_cons, decide_true, ↓reduceIte, List.getLast?_cons]
        cases (rest.filter (·.1 = other)).getLast? <;> simp
      · rw [get?_insert_of_ne (Ne.symm h)]
        simp [lastBound, h]
  exact (go []).trans (by simp [get?])

variable {members : Members} {name : String} {v : Json}

/-- Whether the names are in order, so that none is bound twice. -/
def IsSorted (members : Members) : Prop := members.Pairwise fun x y => x.1 < y.1

theorem mem_insert {x : String × Json} (h : x ∈ members.insert name v) :
    x = (name, v) ∨ x ∈ members := by
  induction members with
  | nil => exact Or.inl (List.mem_singleton.mp h)
  | cons y rest ih =>
    unfold insert at h
    split at h
    · exact List.mem_cons.mp h
    · split at h
      · exact (List.mem_cons.mp h).imp_right (List.mem_cons_of_mem y)
      · rcases List.mem_cons.mp h with rfl | h
        · exact Or.inr (List.mem_cons_self ..)
        · exact (ih h).imp_right (List.mem_cons_of_mem y)

theorem IsSorted.insert (h : members.IsSorted) (name : String) (v : Json) :
    (members.insert name v).IsSorted := by
  induction members with
  | nil => exact List.pairwise_singleton _ _
  | cons y rest ih =>
    obtain ⟨other, held⟩ := y
    obtain ⟨hfirst, hrest⟩ := List.pairwise_cons.mp h
    unfold Members.insert
    split
    next hlt =>
      refine List.pairwise_cons.mpr ⟨fun y hy => ?_, h⟩
      rcases List.mem_cons.mp hy with rfl | hy
      · exact hlt
      · exact String.lt_trans hlt (hfirst y hy)
    next hlt =>
      split
      next heq =>
        subst heq
        exact List.pairwise_cons.mpr ⟨hfirst, hrest⟩
      next hne =>
        have hlater : other < name := String.not_le.mp fun hle =>
          hne (String.le_antisymm hle (String.not_lt.mp hlt))
        refine List.pairwise_cons.mpr ⟨fun y hy => ?_, ih hrest⟩
        rcases mem_insert hy with rfl | hy
        · exact hlater
        · exact hfirst y hy

theorem ofList_isSorted (bindings : List (String × Json)) : (ofList bindings).IsSorted := by
  have go (members : Members) (h : members.IsSorted) :
      (bindings.foldl (fun members x => members.insert x.1 x.2) members).IsSorted := by
    induction bindings generalizing members with
    | nil => exact h
    | cons x rest ih => exact ih _ (h.insert x.1 x.2)
  exact go [] List.Pairwise.nil

theorem IsSorted.get?_of_mem (h : members.IsSorted) (hmem : (name, v) ∈ members) :
    members.get? name = some v := by
  induction members with
  | nil => cases hmem
  | cons y rest ih =>
    obtain ⟨hfirst, hrest⟩ := List.pairwise_cons.mp h
    rcases List.mem_cons.mp hmem with rfl | hmem
    · exact get?_cons_self name v rest
    · have hlt : y.1 < name := hfirst _ hmem
      have hne : name ≠ y.1 := fun he => String.lt_irrefl name (he ▸ hlt)
      rw [get?_cons_of_ne hne, ih hrest hmem]

theorem IsSorted.mem_iff (h : members.IsSorted) :
    (name, v) ∈ members ↔ members.get? name = some v := by
  refine ⟨h.get?_of_mem, fun hget => ?_⟩
  induction members with
  | nil => cases hget
  | cons y rest ih =>
    obtain ⟨other, held⟩ := y
    by_cases hname : name = other
    · subst hname
      rw [get?_cons_self] at hget
      cases Option.some.inj hget
      exact List.mem_cons_self ..
    · rw [get?_cons_of_ne hname] at hget
      exact List.mem_cons_of_mem _ (ih (List.pairwise_cons.mp h).2 hget)

theorem IsSorted.nodup (h : members.IsSorted) : members.Nodup := by
  refine List.Pairwise.imp ?_ h
  rintro x y hlt rfl
  exact String.lt_irrefl _ hlt

/-- Members in order are determined by what their names are bound to. -/
theorem IsSorted.ext {other : Members} (h : members.IsSorted) (ho : other.IsSorted)
    (hget : ∀ name, members.get? name = other.get? name) : members = other := by
  have hperm : members.Perm other := by
    refine (List.perm_ext_iff_of_nodup h.nodup ho.nodup).mpr fun x => ?_
    rw [h.mem_iff, ho.mem_iff, hget]
  exact hperm.eq_of_pairwise (fun x y _ _ hlt hgt => absurd hgt (String.lt_asymm hlt)) h ho

theorem mem_ofList {bindings : List (String × Json)} {x : String × Json}
    (h : x ∈ ofList bindings) : x ∈ bindings := by
  have go (found : List (String × Json)) : ∀ members : Members,
      x ∈ found.foldl (fun members x => members.insert x.1 x.2) members →
        x ∈ members ∨ x ∈ found := by
    induction found with
    | nil => exact fun members hx => Or.inl hx
    | cons y rest ih =>
      intro members hx
      rcases ih _ hx with hx | hx
      · rcases mem_insert hx with rfl | hx
        · exact Or.inr (List.mem_cons_self ..)
        · exact Or.inl hx
      · exact Or.inr (List.mem_cons_of_mem _ hx)
  exact (go bindings [] h).resolve_left List.not_mem_nil

theorem insert_of_forall_lt (h : ∀ x ∈ members, x.1 < name) (v : Json) :
    members.insert name v = members ++ [(name, v)] := by
  induction members with
  | nil => rfl
  | cons y rest ih =>
    have hlt := h y (List.mem_cons_self ..)
    have hne : name ≠ y.1 := fun he => String.lt_irrefl _ (he ▸ hlt)
    obtain ⟨other, held⟩ := y
    unfold Members.insert
    rw [if_neg (String.lt_asymm hlt), if_neg hne,
      ih fun x hx => h x (List.mem_cons_of_mem _ hx)]
    rfl

theorem ofList_of_isSorted (h : members.IsSorted) : ofList members = members := by
  have go (front back : Members) (hall : IsSorted (front ++ back)) :
      back.foldl (fun members x => members.insert x.1 x.2) front = front ++ back := by
    induction back generalizing front with
    | nil => simp
    | cons x rest ih =>
      have hbefore : ∀ y ∈ front, y.1 < x.1 := fun y hy =>
        (List.pairwise_append.mp hall).2.2 y hy x (List.mem_cons_self ..)
      rw [List.foldl_cons, insert_of_forall_lt hbefore, ih _ (by simpa using hall)]
      simp
  exact go [] members h

end Members

namespace Json

/-- The bindings of the object that a text is, in the order they are written. -/
def bindings? (cs : List Char) : Option (List (String × Json)) :=
  match skipSpace cs with
  | '{' :: rest =>
    (container (binding (value (maxDepth - 1))) '}' rest).bind fun (found, after) =>
      if (skipSpace after).isEmpty then some found else none
  | _ => none

/-- The bindings of the object that some octets are the text of. -/
def bindingsOfBytes? (bytes : ByteArray) : Option (List (String × Json)) :=
  (String.fromUTF8? bytes).bind fun text => bindings? text.toList

theorem ofNumeral?_ne_object (x : Numeral) (members : Members) :
    ofNumeral? x ≠ some (.object members) := by
  intro h
  unfold ofNumeral? at h
  rcases ite_eq_iff.mp h with ⟨_, h⟩ | ⟨_, h⟩
  · cases h
  · obtain ⟨_, _, h⟩ := Option.map_eq_some_iff.mp h
    cases h

/-- What begins with anything but a brace is no object. -/
theorem value_object_inv {depth : Nat} {cs rest : List Char} {members : Members}
    (h : value depth cs = some (.object members, rest)) :
    ∃ more, skipSpace cs = '{' :: more := by
  unfold value at h
  split at h
  case h_3 more heq => exact ⟨more, heq⟩
  case h_2 =>
    cases depth <;> simp at h
  case h_7 =>
    obtain ⟨⟨x, _⟩, _, h⟩ := Option.bind_eq_some_iff.mp h
    obtain ⟨v, hv, h⟩ := Option.map_eq_some_iff.mp h
    cases h
    exact absurd hv (ofNumeral?_ne_object x members)
  all_goals simp [word?] at h

theorem objectOfBytes?_eq (bytes : ByteArray) :
    objectOfBytes? bytes = (bindingsOfBytes? bytes).map Members.ofList := by
  unfold objectOfBytes? ofBytes? bindingsOfBytes? ofChars?
  cases String.fromUTF8? bytes with
  | none => rfl
  | some text =>
    simp only [Option.bind_some]
    by_cases hb : ∃ more, skipSpace text.toList = '{' :: more
    · obtain ⟨more, hm⟩ := hb
      rw [bindings?, hm, value]
      simp only [hm, maxDepth, Nat.add_one_sub_one]
      cases container (binding (value 126)) '}' more with
      | none => rfl
      | some found =>
        simp only [Option.map_some, Option.bind_some]
        by_cases he : (skipSpace found.2).isEmpty <;> simp [he]
    · have hnone : bindings? text.toList = none := by
        unfold bindings?
        split
        next more hm => exact absurd ⟨more, hm⟩ hb
        next => rfl
      rw [hnone]
      split
      next members h =>
        obtain ⟨⟨v, rest⟩, hv, h⟩ := Option.bind_eq_some_iff.mp h
        split at h
        · cases Option.some.inj h
          exact absurd (value_object_inv hv) hb
        · simp at h
      next => rfl

theorem objectOfBytes?_isSorted {bytes : ByteArray} {members : Members}
    (h : objectOfBytes? bytes = some members) : members.IsSorted := by
  rw [objectOfBytes?_eq] at h
  obtain ⟨bindings, -, rfl⟩ := Option.map_eq_some_iff.mp h
  exact Members.ofList_isSorted bindings

end Json

end Gatehouse
