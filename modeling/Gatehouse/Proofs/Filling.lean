import Mathlib.Data.List.Forall2
import Gatehouse.Proofs.Containment

namespace Gatehouse

/-- Whether a piece of a template is a parameter. -/
def IsParameter (piece : List Char) : Prop :=
  ['{'] <+: piece ∧ ['}'] <:+ piece ∧ 2 < (String.ofList piece).utf8ByteSize

/-- Whether a piece of a path may stand where a piece of a template does. -/
inductive Fills (piece : List Char) : List Char → Prop where
  | parameter {part : List Char} (hp : IsParameter piece) (hne : part ≠ []) (hs : '/' ∉ part) :
      Fills piece part
  | itself (hp : ¬IsParameter piece) : Fills piece piece

variable {piece part : List Char} {ps qs : List (List Char)}

/-- Between two braces there is something as soon as there are three characters, or three octets. -/
theorem isParameter_iff :
    IsParameter piece ↔ piece.head? = some '{' ∧ piece.getLast? = some '}' ∧ 2 < piece.length := by
  have hfirst : ['{'] <+: piece ↔ piece.head? = some '{' := by
    cases piece <;> simp [List.cons_prefix_cons, eq_comm]
  have hlast : ['}'] <:+ piece ↔ piece.getLast? = some '}' := by
    rw [List.getLast?_eq_some_iff]
    exact ⟨fun ⟨front, h⟩ => ⟨front, h.symm⟩, fun ⟨front, h⟩ => ⟨front, h.symm⟩⟩
  unfold IsParameter
  rw [hfirst, hlast, String.utf8ByteSize_ofList]
  refine and_congr_right fun hopened => and_congr_right fun hclosed => ?_
  match piece with
  | [] => cases hopened
  | [c] =>
    obtain rfl := Option.some.inj hopened
    cases hclosed
  | [c, d] =>
    obtain rfl := Option.some.inj hopened
    obtain rfl := Option.some.inj hclosed
    decide
  | c :: d :: e :: rest =>
    have hc := c.utf8Size_pos
    have hd := d.utf8Size_pos
    have he := e.utf8Size_pos
    simp only [String.utf8Len_cons, List.length_cons]
    omega

theorem Segment.accepts_ofPiece_iff (hs : '/' ∉ part) :
    (Segment.ofPiece piece).accepts part ↔ Fills piece part := by
  unfold Segment.ofPiece
  split
  next h =>
    have hp : IsParameter piece := isParameter_iff.mpr h
    constructor
    · intro haccepts
      exact .parameter hp (by simpa [Segment.accepts] using haccepts) hs
    · intro hfills
      cases hfills with
      | parameter _ hne => simpa [Segment.accepts] using hne
      | itself hn => exact absurd hp hn
  next h =>
    have hn : ¬IsParameter piece := fun hp => h (isParameter_iff.mp hp)
    constructor
    · intro haccepts
      have heq : (String.ofList piece).toList = part := of_decide_eq_true haccepts
      rw [String.toList_ofList] at heq
      exact heq ▸ .itself hn
    · intro hfills
      cases hfills with
      | parameter hp => exact absurd hp hn
      | itself => exact decide_eq_true String.toList_ofList

theorem Fills.not_mem (h : Fills piece part) (hs : '/' ∉ piece) : '/' ∉ part := by
  cases h with
  | parameter _ _ hpart => exact hpart
  | itself => exact hs

theorem segmentsAccept_map_iff (hq : ∀ q ∈ qs, '/' ∉ q) :
    segmentsAccept (ps.map Segment.ofPiece) qs ↔ List.Forall₂ Fills ps qs := by
  induction ps generalizing qs with
  | nil => cases qs <;> simp [segmentsAccept]
  | cons p more ih =>
    cases qs with
    | nil => simp [segmentsAccept]
    | cons q rest =>
      obtain ⟨hfirst, hrest⟩ := List.forall_mem_cons.mp hq
      rw [List.map_cons, segmentsAccept_cons_iff, List.forall₂_cons,
        Segment.accepts_ofPiece_iff hfirst, ih hrest]

theorem not_mem_of_fills (h : List.Forall₂ Fills ps qs) (hp : ∀ p ∈ ps, '/' ∉ p) :
    ∀ q ∈ qs, '/' ∉ q := by
  induction h with
  | nil => simp
  | cons hfirst _ ih =>
    obtain ⟨hpiece, hmore⟩ := List.forall_mem_cons.mp hp
    exact List.forall_mem_cons.mpr ⟨hfirst.not_mem hpiece, ih hmore⟩

/--
A template accepts the paths that are its own text with something that is not empty and has no slash
put in for each parameter, and no others.
-/
theorem PathPattern.template_accepts_iff (pattern path : String) :
    (template pattern).accepts path ↔
      ∃ ps qs, ps ≠ [] ∧ (∀ p ∈ ps, '/' ∉ p) ∧ pattern.toList = ['/'].intercalate ps ∧
        List.Forall₂ Fills ps qs ∧ path.toList = ['/'].intercalate qs := by
  constructor
  · intro h
    refine ⟨pieces '/' pattern.toList, pieces '/' path.toList, pieces_ne_nil _ _,
      fun p => not_mem_of_mem_pieces, ?_, ?_, ?_⟩
    · rw [intercalate_eq_joinWith, joinWith_pieces]
    · exact (segmentsAccept_map_iff fun q => not_mem_of_mem_pieces).mp h
    · rw [intercalate_eq_joinWith, joinWith_pieces]
  · rintro ⟨ps, qs, hne, hps, hpattern, hfills, hpath⟩
    have hqs := not_mem_of_fills hfills hps
    have hsome : qs ≠ [] := by
      rintro rfl
      exact hne (List.length_eq_zero_iff.mp hfills.length_eq)
    rw [accepts, templateSegments, hpattern, hpath, intercalate_eq_joinWith,
      intercalate_eq_joinWith, pieces_joinWith hne hps, pieces_joinWith hsome hqs]
    exact (segmentsAccept_map_iff hqs).mpr hfills

end Gatehouse
