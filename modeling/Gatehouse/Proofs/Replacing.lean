import Gatehouse.Proofs.Cutting

namespace Gatehouse

variable {α : Type} {word new other xs : List α}

/-- What holds of nothing, of the word in front of what it holds of, and past any other place. -/
theorem word_induction (hw : word ≠ []) {P : List α → Prop} (nil : P [])
    (found : ∀ rest, P rest → P (word ++ rest))
    (passed : ∀ x rest, ¬word <+: x :: rest → P rest → P (x :: rest)) (xs : List α) : P xs := by
  have go (n : Nat) : ∀ xs : List α, xs.length ≤ n → P xs := by
    induction n with
    | zero =>
      intro xs hn
      obtain rfl := List.length_eq_zero_iff.mp (Nat.le_zero.mp hn)
      exact nil
    | succ n ih =>
      intro xs hn
      cases xs with
      | nil => exact nil
      | cons x rest =>
        rw [List.length_cons] at hn
        by_cases h : word <+: x :: rest
        · obtain ⟨after, hafter⟩ := h
          have hpos := List.length_pos_iff.mpr hw
          have hlen := congrArg List.length hafter
          rw [List.length_append, List.length_cons] at hlen
          rw [← hafter]
          exact found after (ih after (by omega))
        · exact passed x rest h (ih rest (by omega))
  exact go xs.length xs (Nat.le_refl _)

/-- A word that begins before what is no part of it ends before it too. -/
theorem prefix_of_prefix_append_cons {c : α} {back : List α} (hc : c ∉ word)
    (h : word <+: xs ++ c :: back) : word <+: xs := by
  rcases List.prefix_or_prefix_of_prefix h (List.prefix_append xs _) with hp | ⟨more, rfl⟩
  · exact hp
  · cases more with
    | nil => simp
    | cons d more =>
      obtain rfl := (List.cons_prefix_cons.mp ((List.prefix_append_right_inj _).mp h)).1
      simp at hc

variable [BEq α]

theorem replaceWord_nil : replaceWord word new [] = [] := rfl

variable [LawfulBEq α]

/-- No more steps are needed than the text has members. -/
theorem replaceWord_go_congr {m n : Nat} (hm : xs.length ≤ m) (hn : xs.length ≤ n) :
    replaceWord.go word new m xs = replaceWord.go word new n xs := by
  induction m generalizing n xs with
  | zero =>
    obtain rfl := List.length_eq_zero_iff.mp (Nat.le_zero.mp hm)
    cases n <;> rfl
  | succ m ih =>
    cases xs with
    | nil => cases n <;> rfl
    | cons x rest =>
      obtain ⟨n, rfl⟩ : ∃ k, n = k + 1 := ⟨n - 1, by simp only [List.length_cons] at hn; omega⟩
      simp only [List.length_cons, Nat.add_le_add_iff_right] at hm hn
      have hrest := ih hm hn
      unfold replaceWord.go
      split
      next after hafter =>
        split
        · rw [hrest]
        next hword =>
          have hlen := congrArg List.length (dropStart?_eq_some hafter)
          have hpos := List.length_pos_iff.mpr (mt List.isEmpty_iff.mpr hword)
          simp only [List.length_cons, List.length_append] at hlen
          have hmore : replaceWord.go word new m after = replaceWord.go word new n after :=
            ih (by omega) (by omega)
          rw [hmore]
      next => rw [hrest]

theorem replaceWord_word_append (hw : word ≠ []) (rest : List α) :
    replaceWord word new (word ++ rest) = new ++ replaceWord word new rest := by
  cases word with
  | nil => exact absurd rfl hw
  | cons w more =>
    have hdrop : dropStart? (w :: more) (w :: (more ++ rest)) = some rest :=
      dropStart?_append (w :: more) rest
    have hgo : replaceWord.go (w :: more) new (more ++ rest).length rest =
        replaceWord (w :: more) new rest := replaceWord_go_congr (by simp) (Nat.le_refl _)
    rw [← hgo, List.cons_append, replaceWord, List.length_cons, replaceWord.go, hdrop]
    rfl

theorem replaceWord_cons {x : α} {rest : List α} (h : ¬word <+: x :: rest) :
    replaceWord word new (x :: rest) = x :: replaceWord word new rest := by
  unfold replaceWord
  rw [List.length_cons, replaceWord.go, dropStart?_eq_none h]

theorem mem_replaceWord (hw : word ≠ []) {c : α} (h : c ∈ replaceWord word new xs) :
    c ∈ new ∨ c ∈ xs := by
  induction xs using word_induction hw with
  | nil => cases h
  | found rest ih =>
    rw [replaceWord_word_append hw] at h
    rcases List.mem_append.mp h with h | h
    · exact .inl h
    · exact (ih h).imp_right (List.mem_append_right _)
  | passed x rest hnot ih =>
    rw [replaceWord_cons hnot] at h
    rcases List.mem_cons.mp h with rfl | h
    · exact .inr (List.mem_cons_self ..)
    · exact (ih h).imp_right (List.mem_cons_of_mem _)

/-- What is no part of the word stays, and what is on either side is replaced by itself. -/
theorem replaceWord_append_cons {c : α} (hw : word ≠ []) (hc : c ∉ word) (front back : List α) :
    replaceWord word new (front ++ c :: back) =
      replaceWord word new front ++ c :: replaceWord word new back := by
  induction front using word_induction hw with
  | nil =>
    have hnot : ¬word <+: c :: back := fun h =>
      hw (List.prefix_nil.mp (prefix_of_prefix_append_cons hc h))
    rw [List.nil_append, replaceWord_cons hnot, replaceWord_nil, List.nil_append]
  | found rest ih =>
    rw [List.append_assoc, replaceWord_word_append hw, replaceWord_word_append hw, ih,
      List.append_assoc]
  | passed x rest hnot ih =>
    have hnot' : ¬word <+: x :: (rest ++ c :: back) := fun h =>
      hnot (prefix_of_prefix_append_cons hc h)
    rw [List.cons_append, replaceWord_cons hnot', replaceWord_cons hnot, ih, List.cons_append]

/-- What parts the text and is neither in the word nor in the new one parts the result alike. -/
theorem pieces_replaceWord {sep : α} (hw : word ≠ []) (hword : sep ∉ word) (hnew : sep ∉ new)
    (xs : List α) :
    pieces sep (replaceWord word new xs) = (pieces sep xs).map (replaceWord word new) := by
  have hpiece {piece : List α} (hp : sep ∉ piece) : sep ∉ replaceWord word new piece := fun h =>
    (mem_replaceWord hw h).elim hnew hp
  induction xs using pieces_induction sep with
  | whole piece hp => rw [pieces_of_not_mem hp, pieces_of_not_mem (hpiece hp), List.map_singleton]
  | cut piece rest hp ih =>
    rw [replaceWord_append_cons hw hword, pieces_append_cons, pieces_append_cons, ih,
      pieces_of_not_mem hp, pieces_of_not_mem (hpiece hp), List.map_append, List.map_singleton]

/-- Such a part of the result has its place in the text, between what its sides were made of. -/
theorem exists_of_replaceWord_eq {c : α} (hw : word ≠ []) (hword : c ∉ word) (hnew : c ∉ new)
    {before after : List α} (h : replaceWord word new xs = before ++ c :: after) :
    ∃ front back, xs = front ++ c :: back ∧ replaceWord word new front = before ∧
      replaceWord word new back = after := by
  induction xs using pieces_induction c generalizing before with
  | whole piece hp =>
    have hmem : c ∈ replaceWord word new piece := by simp [h]
    exact absurd hmem fun hm => (mem_replaceWord hw hm).elim hnew hp
  | cut piece rest hp ih =>
    have hnot : c ∉ replaceWord word new piece := fun hm => (mem_replaceWord hw hm).elim hnew hp
    rw [replaceWord_append_cons hw hword] at h
    rcases List.append_eq_append_iff.mp h with ⟨more, rfl, hmore⟩ | ⟨more, hmore, hback⟩
    · cases more with
      | nil => exact ⟨piece, rest, rfl, (List.append_nil _).symm, (List.cons.inj hmore).2⟩
      | cons d more =>
        obtain ⟨rfl, hrest⟩ := List.cons.inj hmore
        obtain ⟨front, back, rfl, rfl, hafter⟩ := ih hrest
        exact ⟨piece ++ c :: front, back, by simp, replaceWord_append_cons hw hword _ _, hafter⟩
    · cases more with
      | nil =>
        rw [List.append_nil] at hmore
        exact ⟨piece, rest, rfl, hmore, (List.cons.inj hback).2.symm⟩
      | cons d more =>
        obtain ⟨rfl, -⟩ := List.cons.inj hback
        exact absurd (by simp [hmore]) hnot

/-- The text and the result are the same stretches without the word, put together by either. -/
theorem exists_joinWith_replaceWord (hw : word ≠ []) (xs : List α) :
    ∃ parts, parts ≠ [] ∧ (∀ part ∈ parts, ¬word <:+: part) ∧ xs = joinWith word parts ∧
      ∀ new, replaceWord word new xs = joinWith new parts := by
  induction xs using word_induction hw with
  | nil => exact ⟨[[]], by simp, by simpa using hw, rfl, fun _ => rfl⟩
  | found rest ih =>
    obtain ⟨parts, hne, hparts, rfl, hnew⟩ := ih
    refine ⟨[] :: parts, by simp, ?_, ?_, fun new => ?_⟩
    · exact List.forall_mem_cons.mpr ⟨by simpa using hw, hparts⟩
    · rw [joinWith_cons_of_ne_nil _ _ hne, List.nil_append]
    · rw [replaceWord_word_append hw, joinWith_cons_of_ne_nil _ _ hne, List.nil_append, hnew]
  | passed x rest hnot ih =>
    obtain ⟨parts, hne, hparts, rfl, hnew⟩ := ih
    obtain ⟨part, more, rfl⟩ := List.exists_cons_of_ne_nil hne
    have hcons (glue : List α) :
        joinWith glue ((x :: part) :: more) = x :: joinWith glue (part :: more) := by
      cases more <;> rfl
    obtain ⟨hpart, hmore⟩ := List.forall_mem_cons.mp hparts
    have hlonger : ¬word <:+: x :: part := by
      intro h
      rcases List.infix_cons_iff.mp h with h | h
      · have hprefix : x :: part <+: x :: joinWith word (part :: more) := by
          rw [← hcons]
          exact joinWith_prefix word (List.prefix_append [x :: part] more)
        exact hnot (h.trans hprefix)
      · exact hpart h
    refine ⟨(x :: part) :: more, by simp, List.forall_mem_cons.mpr ⟨hlonger, hmore⟩, ?_,
      fun new => ?_⟩
    · rw [hcons]
    · rw [replaceWord_cons hnot, hnew, hcons]

theorem infix_replaceWord (hw : word ≠ []) (h : word <:+: xs) :
    new <:+: replaceWord word new xs := by
  induction xs using word_induction hw with
  | nil => exact absurd (List.infix_nil.mp h) hw
  | found rest _ =>
    rw [replaceWord_word_append hw]
    exact (List.prefix_append new _).isInfix
  | passed x rest hnot ih =>
    rw [replaceWord_cons hnot]
    exact List.infix_cons (ih ((List.infix_cons_iff.mp h).resolve_left hnot))

theorem length_replaceWord_le (hw : word ≠ []) (h : new.length ≤ other.length) (xs : List α) :
    (replaceWord word new xs).length ≤ (replaceWord word other xs).length := by
  induction xs using word_induction hw with
  | nil => exact Nat.le_refl _
  | found rest ih =>
    rw [replaceWord_word_append hw, replaceWord_word_append hw, List.length_append,
      List.length_append]
    omega
  | passed x rest hnot ih =>
    rw [replaceWord_cons hnot, replaceWord_cons hnot, List.length_cons, List.length_cons]
    omega

/-- The new word can be told from what became of a text with the old one in it. -/
theorem eq_of_replaceWord_eq (hw : word ≠ []) (hin : word <:+: xs)
    (h : replaceWord word new xs = replaceWord word other xs) : new = other := by
  induction xs using word_induction hw with
  | nil => exact absurd (List.infix_nil.mp hin) hw
  | found rest _ =>
    rw [replaceWord_word_append hw, replaceWord_word_append hw] at h
    have hlen := congrArg List.length h
    rw [List.length_append, List.length_append] at hlen
    have hsame : new.length = other.length := by
      rcases Nat.le_total new.length other.length with hle | hle
      · have hrest := length_replaceWord_le hw hle rest
        omega
      · have hrest := length_replaceWord_le hw hle rest
        omega
    exact (List.append_inj h hsame).1
  | passed x rest hnot ih =>
    rw [replaceWord_cons hnot, replaceWord_cons hnot] at h
    exact ih ((List.infix_cons_iff.mp hin).resolve_left hnot) (List.cons.inj h).2

end Gatehouse
