import Gatehouse.Proofs.Cutting
import Gatehouse.Text.Blank

namespace Gatehouse

/-- The entries of a field as they are written, without blanks around them. -/
def entries (sep : Char) (field : List Char) : List (List Char) :=
  ((pieces sep field).map trimBlank).filter (!·.isEmpty)

variable {sep : Char}

theorem entries_append_cons (sep : Char) (xs ys : List Char) :
    entries sep (xs ++ sep :: ys) = entries sep xs ++ entries sep ys := by
  unfold entries
  rw [pieces_append_cons, List.map_append, List.filter_append]

theorem entries_of_not_mem {piece : List Char} (h : sep ∉ piece) :
    entries sep piece = [trimBlank piece].filter (!·.isEmpty) := by
  rw [entries, pieces_of_not_mem h, List.map_singleton]

theorem entries_singleton {entry : List Char} (hsep : sep ∉ entry) (hne : entry ≠ [])
    (hblank : ∀ c ∈ entry, isBlank c = false) : entries sep entry = [entry] := by
  have htrim : trimBlank entry = entry := trimBy_eq_self hblank
  rw [entries_of_not_mem hsep, htrim]
  simp [hne]

section Blanks

variable (hsep : isBlank sep = false)
include hsep

theorem not_mem_of_blank {cs : List Char} (h : ∀ c ∈ cs, isBlank c) : sep ∉ cs :=
  fun hm => absurd (h sep hm) (by simp [hsep])

theorem entries_append_blank (xs : List Char) {ys : List Char} (h : ∀ c ∈ ys, isBlank c) :
    entries sep (xs ++ ys) = entries sep xs := by
  induction xs using pieces_induction sep with
  | whole piece hp =>
    have hpiece : sep ∉ piece ++ ys := by simp [hp, not_mem_of_blank hsep h]
    rw [entries_of_not_mem hp, entries_of_not_mem hpiece, trimBlank, trimBy_append_of_all _ h,
      trimBlank]
  | cut piece rest hp ih =>
    rw [List.append_assoc, List.cons_append, entries_append_cons, entries_append_cons, ih]

theorem entries_blank_append {xs : List Char} (h : ∀ c ∈ xs, isBlank c) (ys : List Char) :
    entries sep (xs ++ ys) = entries sep ys := by
  have hfirst {piece : List Char} (hp : sep ∉ piece) :
      entries sep (xs ++ piece) = entries sep piece := by
    have hpiece : sep ∉ xs ++ piece := by simp [hp, not_mem_of_blank hsep h]
    rw [entries_of_not_mem hp, entries_of_not_mem hpiece, trimBlank,
      trimBy_append_of_all_left h, trimBlank]
  induction ys using pieces_induction sep with
  | whole piece hp => exact hfirst hp
  | cut piece rest hp ih =>
    rw [← List.append_assoc, entries_append_cons, entries_append_cons, hfirst hp]

theorem entries_trimBlank (field : List Char) :
    entries sep (trimBlank field) = entries sep field := by
  obtain ⟨before, after, hfield, hbefore, hafter⟩ := exists_trimBy isBlank field
  calc entries sep (trimBlank field)
      = entries sep (trimBy isBlank field ++ after) := (entries_append_blank hsep _ hafter).symm
    _ = entries sep (before ++ (trimBy isBlank field ++ after)) :=
      (entries_blank_append hsep hbefore _).symm
    _ = entries sep field := by rw [← hfield]

/-- Fields behind one another, with the separator and a space between them. -/
theorem entries_append (xs ys : List Char) :
    entries sep (xs ++ [sep, ' '] ++ ys) = entries sep xs ++ entries sep ys := by
  have hblank : ∀ c ∈ [' '], isBlank c := List.all_eq_true.mp (by decide)
  rw [List.append_assoc, List.cons_append, entries_append_cons, entries_blank_append hsep hblank]

theorem entries_joinWith (fields : List (List Char)) :
    entries sep (joinWith [sep, ' '] fields) = fields.flatMap (entries sep) := by
  induction fields with
  | nil => rfl
  | cons field more ih =>
    by_cases hm : more = []
    · subst hm
      simp [joinWith]
    · rw [joinWith_cons_of_ne_nil _ _ hm, entries_append hsep, ih, List.flatMap_cons]

end Blanks

end Gatehouse
