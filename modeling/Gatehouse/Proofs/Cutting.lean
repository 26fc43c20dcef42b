import Gatehouse.Text.Pieces

namespace Gatehouse

variable {α : Type}

theorem subset_of_mem_piecesBy {isSep : α → Bool} {xs piece : List α}
    (h : piece ∈ piecesBy isSep xs) : piece ⊆ xs := by
  induction xs generalizing piece with
  | nil => simp [piecesBy] at h; simp [h]
  | cons x rest ih =>
    unfold piecesBy at h
    split at h
    · rcases List.mem_cons.mp h with rfl | h
      · simp
      · exact List.Subset.trans (ih h) (List.subset_cons_self x rest)
    · split at h
      next hn => exact absurd hn (piecesBy_ne_nil isSep _)
      next first more hm =>
        have hsub {p : List α} (hp : p ∈ first :: more) : p ⊆ rest := ih (hm ▸ hp)
        rcases List.mem_cons.mp h with rfl | h
        · exact List.cons_subset_cons x (hsub (List.mem_cons_self ..))
        · exact List.Subset.trans (hsub (List.mem_cons_of_mem _ h)) (List.subset_cons_self x rest)

theorem trimBy_sublist (p : α → Bool) (xs : List α) : (trimBy p xs).Sublist xs := by
  have hfront : (xs.dropWhile p).Sublist xs := List.dropWhile_sublist p
  have hback : (trimBy p xs).Sublist (xs.dropWhile p).reverse.reverse :=
    (List.dropWhile_sublist p).reverse
  rw [List.reverse_reverse] at hback
  exact hback.trans hfront

theorem trimBy_subset (p : α → Bool) (xs : List α) : trimBy p xs ⊆ xs :=
  (trimBy_sublist p xs).subset

theorem dropWhile_map_of {β : Type} {p : α → Bool} {q : β → Bool} {f : α → β} {xs : List α}
    (h : ∀ x ∈ xs, q (f x) = p x) : (xs.map f).dropWhile q = (xs.dropWhile p).map f := by
  induction xs with
  | nil => rfl
  | cons x rest ih =>
    have hx := h x (List.mem_cons_self ..)
    have hrest := ih fun y hy => h y (List.mem_cons_of_mem _ hy)
    rw [List.map_cons, List.dropWhile_cons, List.dropWhile_cons, hx, hrest]
    split <;> rfl

theorem trimBy_map_of {β : Type} {p : α → Bool} {q : β → Bool} {f : α → β} {xs : List α}
    (h : ∀ x ∈ xs, q (f x) = p x) : trimBy q (xs.map f) = (trimBy p xs).map f := by
  have hback : ∀ x ∈ (xs.dropWhile p).reverse, q (f x) = p x := fun x hx =>
    h x ((List.dropWhile_sublist p).mem (List.mem_reverse.mp hx))
  unfold trimBy
  rw [dropWhile_map_of h, ← List.map_reverse, dropWhile_map_of hback, List.map_reverse]

theorem joinWith_cons_of_ne_nil (glue piece : List α) {more : List (List α)} (h : more ≠ []) :
    joinWith glue (piece :: more) = piece ++ glue ++ joinWith glue more := by
  cases more with
  | nil => exact absurd rfl h
  | cons => rfl

theorem joinWith_prefix (glue : List α) {ps qs : List (List α)} (h : ps <+: qs) :
    joinWith glue ps <+: joinWith glue qs := by
  induction ps generalizing qs with
  | nil => exact List.nil_prefix
  | cons p more ih =>
    obtain ⟨rest, rfl⟩ := h
    by_cases hm : more = []
    · subst hm
      by_cases hr : rest = []
      · subst hr
        exact List.prefix_refl _
      · rw [List.cons_append, List.nil_append, joinWith_cons_of_ne_nil _ _ hr, List.append_assoc]
        exact List.prefix_append _ _
    · have happend : more ++ rest ≠ [] := fun he => hm (List.append_eq_nil_iff.mp he).1
      rw [List.cons_append, joinWith_cons_of_ne_nil _ _ hm, joinWith_cons_of_ne_nil _ _ happend]
      exact (List.prefix_append_right_inj _).mpr (ih (List.prefix_append _ _))

theorem mem_joinWith {glue : List α} {ps : List (List α)} {x : α}
    (h : x ∈ joinWith glue ps) : x ∈ glue ∨ ∃ p ∈ ps, x ∈ p := by
  induction ps with
  | nil => cases h
  | cons p more ih =>
    by_cases hm : more = []
    · subst hm
      exact Or.inr ⟨p, List.mem_singleton_self p, h⟩
    · rw [joinWith_cons_of_ne_nil _ _ hm] at h
      rcases List.mem_append.mp h with h | h
      · rcases List.mem_append.mp h with h | h
        · exact Or.inr ⟨p, List.mem_cons_self .., h⟩
        · exact Or.inl h
      · rcases ih h with h | ⟨q, hq, h⟩
        · exact Or.inl h
        · exact Or.inr ⟨q, List.mem_cons_of_mem _ hq, h⟩

theorem intercalate_eq_joinWith (glue : List α) (ps : List (List α)) :
    glue.intercalate ps = joinWith glue ps := by
  induction ps with
  | nil => rfl
  | cons p more ih =>
    cases more with
    | nil => simp [List.intercalate, joinWith]
    | cons q more =>
      rw [joinWith_cons_of_ne_nil _ _ (by simp), ← ih]
      simp [List.intercalate]

theorem dropWhile_eq_nil {p : α → Bool} {xs : List α} (h : ∀ x ∈ xs, p x) :
    xs.dropWhile p = [] := by
  have hdrop : (xs ++ []).dropWhile p = [].dropWhile p := List.dropWhile_append_of_pos h
  rwa [List.append_nil] at hdrop

theorem trimBy_append_of_all {p : α → Bool} (xs : List α) {ys : List α}
    (h : ∀ y ∈ ys, p y) : trimBy p (xs ++ ys) = trimBy p xs := by
  unfold trimBy
  rw [List.dropWhile_append]
  split
  next he => rw [dropWhile_eq_nil h, List.isEmpty_iff.mp he]
  next =>
    rw [List.reverse_append,
      List.dropWhile_append_of_pos fun y hy => h y (List.mem_reverse.mp hy)]

theorem trimBy_append_of_all_left {p : α → Bool} {xs : List α} (h : ∀ x ∈ xs, p x)
    (ys : List α) : trimBy p (xs ++ ys) = trimBy p ys := by
  unfold trimBy
  rw [List.dropWhile_append_of_pos h]

theorem dropWhile_eq_self {p : α → Bool} {xs : List α} (h : ∀ x ∈ xs, p x = false) :
    xs.dropWhile p = xs := by
  cases xs with
  | nil => rfl
  | cons x rest => rw [List.dropWhile_cons, h x (List.mem_cons_self ..), if_neg Bool.false_ne_true]

theorem trimBy_eq_self {p : α → Bool} {xs : List α} (h : ∀ x ∈ xs, p x = false) :
    trimBy p xs = xs := by
  have hback : ∀ x ∈ xs.reverse, p x = false := fun x hx => h x (List.mem_reverse.mp hx)
  rw [trimBy, dropWhile_eq_self h, dropWhile_eq_self hback, List.reverse_reverse]

theorem exists_trimBy (p : α → Bool) (xs : List α) :
    ∃ before after, xs = before ++ (trimBy p xs ++ after) ∧ (∀ x ∈ before, p x) ∧
      ∀ x ∈ after, p x := by
  refine ⟨xs.takeWhile p, ((xs.dropWhile p).reverse.takeWhile p).reverse, ?_,
    List.all_eq_true.mp List.all_takeWhile, fun x hx => ?_⟩
  · unfold trimBy
    rw [← List.reverse_append, List.takeWhile_append_dropWhile, List.reverse_reverse,
      List.takeWhile_append_dropWhile]
  · exact List.all_eq_true.mp List.all_takeWhile x (List.mem_reverse.mp hx)

theorem trimBy_eq_nil_iff {p : α → Bool} {xs : List α} :
    trimBy p xs = [] ↔ ∀ x ∈ xs, p x := by
  constructor
  · intro h x hx
    obtain ⟨before, after, hxs, hbefore, hafter⟩ := exists_trimBy p xs
    rw [h, List.nil_append] at hxs
    rw [hxs] at hx
    rcases List.mem_append.mp hx with hx | hx
    · exact hbefore x hx
    · exact hafter x hx
  · intro h
    unfold trimBy
    rw [dropWhile_eq_nil h]
    rfl

/-- What is cut off at the ends cannot reach beyond a front that ends in neither. -/
theorem exists_trimBy_append {p : α → Bool} {first last : α} {front rest : List α}
    (hfirst : front.head? = some first) (hlast : front.getLast? = some last)
    (hf : p first = false) (hl : p last = false) :
    ∃ kept, trimBy p (front ++ rest) = front ++ kept := by
  obtain ⟨before, after, heq, hbefore, hafter⟩ := exists_trimBy p (front ++ rest)
  have hnone : before = [] := by
    cases before with
    | nil => rfl
    | cons b more =>
      obtain ⟨tail, rfl⟩ := List.head?_eq_some_iff.mp hfirst
      obtain ⟨rfl, -⟩ := List.cons.inj heq
      exact absurd (hbefore first (List.mem_cons_self ..)) (by simp [hf])
  rw [hnone, List.nil_append] at heq
  rcases List.append_eq_append_iff.mp heq with ⟨kept, hkept, -⟩ | ⟨beyond, hbeyond, hrest⟩
  · exact ⟨kept, hkept⟩
  · rcases List.eq_nil_or_concat beyond with rfl | ⟨init, x, rfl⟩
    · rw [List.append_nil] at hbeyond
      exact ⟨[], by rw [List.append_nil, ← hbeyond]⟩
    · have hx : last = x := by
        rw [hbeyond, List.concat_eq_append, ← List.append_assoc, List.getLast?_concat] at hlast
        exact (Option.some.inj hlast).symm
      have hmem : x ∈ after := by
        rw [hrest]
        simp
      exact absurd (hafter x hmem) (by simp [← hx, hl])

variable [BEq α]

theorem cutAt?_subset {sep : α} {xs before after : List α}
    (h : cutAt? sep xs = some (before, after)) : before ⊆ xs ∧ after ⊆ xs := by
  induction xs generalizing before with
  | nil => simp [cutAt?] at h
  | cons x rest ih =>
    unfold cutAt? at h
    split at h
    · cases Option.some.inj h
      exact ⟨List.nil_subset _, List.subset_cons_self x after⟩
    · obtain ⟨⟨b, a⟩, hc, h⟩ := Option.map_eq_some_iff.mp h
      obtain ⟨rfl, rfl⟩ := Prod.mk.inj h
      obtain ⟨hb, ha⟩ := ih hc
      exact ⟨List.cons_subset_cons x hb, List.Subset.trans ha (List.subset_cons_self x rest)⟩

theorem cutAt?_eq_some_iff [LawfulBEq α] {sep : α} {xs before after : List α} :
    cutAt? sep xs = some (before, after) ↔ sep ∉ before ∧ xs = before ++ sep :: after := by
  induction xs generalizing before with
  | nil => simp [cutAt?]
  | cons x rest ih =>
    unfold cutAt?
    by_cases hx : x = sep
    · subst hx
      cases before with
      | nil => simp
      | cons b more => simp; rintro h - rfl; exact absurd rfl h
    · have hb : (x == sep) = false := by simpa using hx
      rw [hb, if_neg (by simp), Option.map_eq_some_iff]
      cases before with
      | nil => simp [hx]
      | cons b more =>
        constructor
        · rintro ⟨⟨found, left⟩, hcut, heq⟩
          obtain ⟨hcons, rfl⟩ := Prod.mk.inj heq
          obtain ⟨rfl, rfl⟩ := List.cons.inj hcons
          obtain ⟨hmem, rfl⟩ := ih.mp hcut
          exact ⟨by simp [Ne.symm hx, hmem], rfl⟩
        · rintro ⟨hmem, heq⟩
          obtain ⟨rfl, rfl⟩ := List.cons.inj heq
          exact ⟨(more, after), ih.mpr ⟨fun hm => hmem (List.mem_cons_of_mem _ hm), rfl⟩, rfl⟩

theorem dropStart?_subset {start xs rest : List α} (h : dropStart? start xs = some rest) :
    rest ⊆ xs := by
  unfold dropStart? at h
  split at h
  · cases Option.some.inj h
    exact List.drop_subset _ _
  · cases h

theorem dropStart?_eq_some [LawfulBEq α] {start xs rest : List α}
    (h : dropStart? start xs = some rest) : xs = start ++ rest := by
  unfold dropStart? at h
  split at h
  next hp =>
    cases Option.some.inj h
    obtain ⟨more, rfl⟩ := List.isPrefixOf_iff_prefix.mp hp
    rw [List.drop_left]
  · cases h

theorem dropStart?_append [LawfulBEq α] (start rest : List α) :
    dropStart? start (start ++ rest) = some rest := by
  have hp : start.isPrefixOf (start ++ rest) = true := by simp
  rw [dropStart?, if_pos hp, List.drop_left]

theorem dropStart?_eq_none [LawfulBEq α] {start xs : List α} (h : ¬start <+: xs) :
    dropStart? start xs = none :=
  if_neg fun hp => h (List.isPrefixOf_iff_prefix.mp hp)

theorem dropFinish?_subset {finish xs rest : List α} (h : dropFinish? finish xs = some rest) :
    rest ⊆ xs := by
  unfold dropFinish? at h
  split at h
  · cases Option.some.inj h
    exact List.take_subset _ _
  · cases h

theorem joinWith_pieces [LawfulBEq α] (sep : α) (xs : List α) :
    joinWith [sep] (pieces sep xs) = xs := by
  unfold pieces
  induction xs with
  | nil => rfl
  | cons x rest ih =>
    have hne := piecesBy_ne_nil (· == sep) rest
    unfold piecesBy
    split
    next hx =>
      rw [joinWith_cons_of_ne_nil _ _ hne, ih, beq_iff_eq.mp hx]
      rfl
    next =>
      split
      next hnil => exact absurd hnil hne
      next first more hm =>
        rw [hm] at ih
        cases more with
        | nil => exact congrArg (x :: ·) ih
        | cons => exact congrArg (x :: ·) ih

theorem count_joinWith [LawfulBEq α] {x : α} {ps : List (List α)}
    (h : ∀ p ∈ ps, x ∉ p) : (joinWith [x] ps).count x = ps.length - 1 := by
  induction ps with
  | nil => rfl
  | cons p more ih =>
    have hp : p.count x = 0 := List.count_eq_zero.mpr (h p (List.mem_cons_self ..))
    have hmore := ih fun q hq => h q (List.mem_cons_of_mem _ hq)
    by_cases hm : more = []
    · subst hm
      exact hp
    · have hlen : 0 < more.length := List.length_pos_iff.mpr hm
      rw [joinWith_cons_of_ne_nil _ _ hm, List.count_append, List.count_append, hp, hmore,
        List.count_singleton_self, List.length_cons]
      omega

theorem pieces_append_cons [LawfulBEq α] (sep : α) (xs ys : List α) :
    pieces sep (xs ++ sep :: ys) = pieces sep xs ++ pieces sep ys := by
  unfold pieces
  induction xs with
  | nil => simp [piecesBy]
  | cons x rest ih =>
    rw [List.cons_append, piecesBy, piecesBy, ih]
    split
    · rfl
    · obtain ⟨piece, more, hm⟩ := List.exists_cons_of_ne_nil (piecesBy_ne_nil (· == sep) rest)
      rw [hm]
      rfl

theorem pieces_append_of_not_mem [LawfulBEq α] {sep : α} {xs ys p : List α}
    {more : List (List α)} (hx : sep ∉ xs) (hy : pieces sep ys = p :: more) :
    pieces sep (xs ++ ys) = (xs ++ p) :: more := by
  induction xs with
  | nil => exact hy
  | cons x rest ih =>
    obtain ⟨hne, hrest⟩ := List.ne_and_not_mem_of_not_mem_cons hx
    have hne : (x == sep) = false := by simpa using hne.symm
    unfold pieces at ih ⊢
    rw [List.cons_append, piecesBy, hne, ih hrest]
    rfl

theorem pieces_of_not_mem [LawfulBEq α] {sep : α} {xs : List α} (h : sep ∉ xs) :
    pieces sep xs = [xs] := by
  unfold pieces
  induction xs with
  | nil => rfl
  | cons x rest ih =>
    obtain ⟨hx, hrest⟩ := List.ne_and_not_mem_of_not_mem_cons h
    have hx : (x == sep) = false := by simpa using hx.symm
    rw [piecesBy, hx, ih hrest]
    rfl

/-- What holds of single pieces, and of a piece before a cut if it does behind it, holds always. -/
theorem pieces_induction [LawfulBEq α] (sep : α) {P : List α → Prop}
    (whole : ∀ piece, sep ∉ piece → P piece)
    (cut : ∀ piece rest, sep ∉ piece → P rest → P (piece ++ sep :: rest)) (xs : List α) : P xs := by
  have go (piece : List α) (hp : sep ∉ piece) : P (piece ++ xs) := by
    induction xs generalizing piece with
    | nil =>
      rw [List.append_nil]
      exact whole piece hp
    | cons x rest ih =>
      by_cases hx : x = sep
      · subst hx
        exact cut piece rest hp (ih [] List.not_mem_nil)
      · have hnext := ih (piece ++ [x]) (by simp [hp, Ne.symm hx])
        rwa [List.append_assoc] at hnext
  exact go [] List.not_mem_nil

theorem not_mem_of_mem_pieces [LawfulBEq α] {sep : α} {xs piece : List α}
    (h : piece ∈ pieces sep xs) : sep ∉ piece := by
  induction xs using pieces_induction sep with
  | whole first hfirst =>
    rw [pieces_of_not_mem hfirst] at h
    rwa [List.mem_singleton.mp h]
  | cut first rest hfirst ih =>
    rw [pieces_append_cons, pieces_of_not_mem hfirst, List.singleton_append] at h
    rcases List.mem_cons.mp h with rfl | h
    · exact hfirst
    · exact ih h

theorem length_pieces [LawfulBEq α] (sep : α) (xs : List α) :
    (pieces sep xs).length = xs.count sep + 1 := by
  induction xs using pieces_induction sep with
  | whole piece hp => simp [pieces_of_not_mem hp, List.count_eq_zero.mpr hp]
  | cut piece rest hp ih =>
    have hpiece : piece.count sep = 0 := List.count_eq_zero.mpr hp
    rw [pieces_append_cons, pieces_of_not_mem hp, List.singleton_append, List.length_cons, ih,
      List.count_append, hpiece, List.count_cons_self]
    omega

theorem pieces_joinWith [LawfulBEq α] {sep : α} {ps : List (List α)} (hne : ps ≠ [])
    (h : ∀ p ∈ ps, sep ∉ p) : pieces sep (joinWith [sep] ps) = ps := by
  induction ps with
  | nil => exact absurd rfl hne
  | cons p more ih =>
    have hp : sep ∉ p := h p (List.mem_cons_self ..)
    by_cases hm : more = []
    · subst hm
      exact pieces_of_not_mem hp
    · have hmore := ih hm fun q hq => h q (List.mem_cons_of_mem _ hq)
      rw [joinWith_cons_of_ne_nil _ _ hm, List.append_assoc, List.singleton_append,
        pieces_append_cons, pieces_of_not_mem hp, hmore, List.singleton_append]

end Gatehouse
