import Gatehouse.Proofs.Cutting

namespace Gatehouse

/-- Whether a piece stands for something else than itself. -/
def isDotPiece (piece : List Char) : Bool := piece = ['.', '.'] || piece = ['.']

/--
Settles dot pieces against the pieces kept so far, which stand in reverse. Where the last piece is
one, the path ends with a slash.
-/
def settleDots (kept : List (List Char)) : List (List Char) → List (List Char)
  | [] => kept.reverse
  | piece :: rest =>
    let closing := if rest.isEmpty then [[]] else []
    if piece = ['.', '.'] then settleDots (closing ++ kept.tail) rest
    else if piece = ['.'] then settleDots (closing ++ kept) rest
    else settleDots (piece :: kept) rest

/-- The path with its dot pieces settled. What has no leading slash is left as it is. -/
def withoutDots (path : String) : String :=
  match pieces '/' path.toList with
  | [] :: rest => String.ofList (joinWith ['/'] ([] :: settleDots [] rest))
  | _ => path

variable {kept rest : List (List Char)} {piece : List Char} {path : String}

theorem settleDots_cons (h : isDotPiece piece = false) :
    settleDots kept (piece :: rest) = settleDots (piece :: kept) rest := by
  simp only [isDotPiece, Bool.or_eq_false_iff, decide_eq_false_iff_not] at h
  rw [settleDots, if_neg h.1, if_neg h.2]

theorem settleDots_append {front : List (List Char)}
    (h : ∀ piece ∈ front, isDotPiece piece = false) :
    settleDots kept (front ++ rest) = settleDots (front.reverse ++ kept) rest := by
  induction front generalizing kept with
  | nil => rfl
  | cons piece front ih =>
    rw [List.cons_append, settleDots_cons (h piece (List.mem_cons_self ..)),
      ih fun p hp => h p (List.mem_cons_of_mem _ hp), List.reverse_cons, List.append_assoc]
    rfl

/-- Without a step back, what is kept stays at the front. -/
theorem prefix_settleDots (h : ['.', '.'] ∉ rest) : kept.reverse <+: settleDots kept rest := by
  induction rest generalizing kept with
  | nil => exact List.prefix_refl _
  | cons piece rest ih =>
    obtain ⟨hpiece, hrest⟩ := List.ne_and_not_mem_of_not_mem_cons h
    have hmore (front : List (List Char)) :
        kept.reverse <+: settleDots (front ++ kept) rest := by
      refine .trans ?_ (ih hrest)
      rw [List.reverse_append]
      exact List.prefix_append _ _
    rw [settleDots, if_neg hpiece.symm]
    split
    · exact hmore _
    · exact hmore [piece]

theorem withoutDots_of_pieces (h : pieces '/' path.toList = [] :: rest) :
    (withoutDots path).toList = joinWith ['/'] ([] :: settleDots [] rest) := by
  rw [withoutDots, h, String.toList_ofList]

theorem withoutDots_of_noDots (h : ∀ piece ∈ pieces '/' path.toList, isDotPiece piece = false) :
    withoutDots path = path := by
  unfold withoutDots
  split
  next rest hp =>
    rw [hp] at h
    have hsettled : settleDots [] (rest ++ []) = settleDots (rest.reverse ++ []) [] :=
      settleDots_append fun piece hpiece => h piece (List.mem_cons_of_mem _ hpiece)
    rw [List.append_nil, List.append_nil, settleDots, List.reverse_reverse] at hsettled
    rw [hsettled, ← hp, joinWith_pieces, String.ofList_toList]
  next => rfl

/-- Without a step back, the pieces at the front of a path stay there, if they are no dots. -/
theorem prefix_withoutDots {front more : List (List Char)}
    (h : pieces '/' path.toList = [] :: (front ++ more))
    (hfront : ∀ piece ∈ front, isDotPiece piece = false) (hback : ['.', '.'] ∉ more) :
    joinWith ['/'] ([] :: front) <+: (withoutDots path).toList := by
  rw [withoutDots_of_pieces h, settleDots_append hfront, List.append_nil]
  refine joinWith_prefix _ ((List.cons_prefix_cons).mpr ⟨rfl, ?_⟩)
  have hprefix : front.reverse.reverse <+: settleDots front.reverse more :=
    prefix_settleDots hback
  rwa [List.reverse_reverse] at hprefix

example : withoutDots "/a/b/c/./../../g" = "/a/g" := by decide

end Gatehouse
