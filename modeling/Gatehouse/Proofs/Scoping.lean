import Mathlib.Logic.Basic
import Gatehouse.Proofs.Replacing
import Gatehouse.Proofs.Visible
import Gatehouse.Session.Identity

namespace Gatehouse

/-- The octets of letters, digits, hyphen, dot, underscore and tilde. -/
def isUnreservedOctet (o : UInt8) : Bool :=
  (0x41 ≤ o && o ≤ 0x5A) || (0x61 ≤ o && o ≤ 0x7A) || (0x30 ≤ o && o ≤ 0x39) ||
    o == 0x2D || o == 0x2E || o == 0x5F || o == 0x7E

theorem isUnreserved_lt {c : Char} (h : isUnreserved c) : c.toNat < 128 := by
  simp only [isUnreserved, Bool.or_eq_true, beq_iff_eq] at h
  rcases h with (((h | rfl) | rfl) | rfl) | rfl
  · exact isAlphanum_lt h
  all_goals decide

theorem isVisibleChar_of_isUnreserved {c : Char} (h : isUnreserved c) : isVisibleChar c :=
  forall_ascii (P := fun c => isUnreserved c → isVisibleChar c) (by decide +kernel)
    (isUnreserved_lt h) h

theorem isUnreservedOctet_ofNat {c : Char} (hc : c.toNat < 128) :
    isUnreservedOctet (UInt8.ofNat c.toNat) = isUnreserved c :=
  forall_ascii (P := fun c => isUnreservedOctet (UInt8.ofNat c.toNat) = isUnreserved c)
    (by decide +kernel) hc

theorem isVisibleOctet_of_isUnreservedOctet {o : UInt8} (h : isUnreservedOctet o) :
    isVisibleOctet o := by
  have hall : ∀ n : Fin 256, isUnreservedOctet (UInt8.ofNat n.val) →
      isVisibleOctet (UInt8.ofNat n.val) := by decide +kernel
  simpa using hall ⟨o.toNat, o.toNat_lt⟩ (by simpa using h)

namespace Identity

variable {id other : Identity} {template path : String}

theorem unreserved_iff_octets {text : String} :
    (∀ c ∈ text.toList, isUnreserved c) ↔ ∀ o ∈ octetsOf text, isUnreservedOctet o := by
  constructor
  · intro h
    rw [octetsOf_of_isVisible fun c hc => isVisibleChar_of_isUnreserved (h c hc)]
    refine List.forall_mem_map.mpr fun c hc => ?_
    rw [isUnreservedOctet_ofNat (isUnreserved_lt (h c hc))]
    exact h c hc
  · intro h c hc
    have hvisible : IsVisible text.toList :=
      isVisible_of_octets fun o ho => isVisibleOctet_of_isUnreservedOctet (h o ho)
    rw [octetsOf_of_isVisible hvisible] at h
    rw [← isUnreservedOctet_ofNat (isVisibleChar_lt (hvisible c hc))]
    exact h _ (List.mem_map_of_mem hc)

theorem isPathSafe_iff : id.isPathSafe ↔
    (∀ c ∈ id.text.toList, isUnreserved c) ∧ ∃ c ∈ id.text.toList, c ≠ '.' := by
  simp [isPathSafe]

theorem isPathSafe_iff_octets : id.isPathSafe ↔
    (∀ o ∈ octetsOf id.text, isUnreservedOctet o) ∧ ∃ o ∈ octetsOf id.text, o ≠ 0x2E := by
  rw [isPathSafe_iff, ← unreserved_iff_octets]
  refine and_congr_right fun h => ?_
  have hvisible : IsVisible id.text.toList := fun c hc => isVisibleChar_of_isUnreserved (h c hc)
  have hdot {c : Char} (hc : c ∈ id.text.toList) : UInt8.ofNat c.toNat = 0x2E ↔ c = '.' :=
    forall_ascii (P := fun c => UInt8.ofNat c.toNat = 0x2E ↔ c = '.') (by decide +kernel)
      (isUnreserved_lt (h c hc))
  rw [octetsOf_of_isVisible hvisible]
  constructor
  · rintro ⟨c, hc, hne⟩
    exact ⟨_, List.mem_map_of_mem hc, fun he => hne ((hdot hc).mp he)⟩
  · rintro ⟨o, ho, hne⟩
    obtain ⟨c, hc, rfl⟩ := List.mem_map.mp ho
    exact ⟨c, hc, fun he => hne ((hdot hc).mpr he)⟩

theorem scopedPath?_eq_none_iff : id.scopedPath? template = none ↔
    (∃ o ∈ octetsOf id.text, ¬isUnreservedOctet o) ∨ ∀ o ∈ octetsOf id.text, o = 0x2E := by
  have hnone : id.scopedPath? template = none ↔ ¬id.isPathSafe := by
    unfold scopedPath?
    split <;> simp [*]
  rw [hnone, isPathSafe_iff_octets, not_and_or]
  simp only [not_forall, not_exists, not_and, not_not, exists_prop]

theorem scopedPath?_eq_some_iff : id.scopedPath? template = some path ↔
    id.isPathSafe ∧
      path.toList = replaceWord identityPlaceholder id.text.toList template.toList := by
  unfold scopedPath?
  split
  next hsafe =>
    rw [Option.some_inj, ← String.toList_inj, String.toList_ofList, eq_comm, and_iff_right hsafe]
  next hsafe => simp [hsafe]

/-- What parts the segments of a path, ends it, or marks an escaped octet in it. -/
def isDelimiter (c : Char) : Bool := c == '/' || c == '?' || c == '#' || c == '%'

theorem not_mem_placeholder {c : Char} (h : isDelimiter c) : c ∉ identityPlaceholder := by
  have hall : ∀ d ∈ identityPlaceholder, !isDelimiter d := List.all_eq_true.mp (by decide)
  intro hc
  simpa [h] using hall c hc

theorem not_mem_of_isPathSafe (hsafe : id.isPathSafe) {c : Char} (h : isDelimiter c) :
    c ∉ id.text.toList := by
  intro hc
  have hunreserved := (isPathSafe_iff.mp hsafe).1 c hc
  simp only [isDelimiter, Bool.or_eq_true, beq_iff_eq] at h
  rcases h with ((rfl | rfl) | rfl) | rfl <;> exact absurd hunreserved (by decide)

/-- What a path has of the template that it was made of, and what of the identity. -/
structure Scopes (id : Identity) (template path : String) : Prop where
  /-- The identity stands in every place that was held for it, and in no other. -/
  parts : ∃ parts, parts ≠ [] ∧ (∀ part ∈ parts, ¬identityPlaceholder <:+: part) ∧
    template.toList = joinWith identityPlaceholder parts ∧
    path.toList = joinWith id.text.toList parts
  segments : (pieces '/' path.toList).length = (pieces '/' template.toList).length
  /-- Between what its neighbours were made of, the template has the same delimiter. -/
  delimiters : ∀ c, isDelimiter c → ∀ before after, path.toList = before ++ c :: after →
    ∃ front back, template.toList = front ++ c :: back ∧
      replaceWord identityPlaceholder id.text.toList front = before ∧
      replaceWord identityPlaceholder id.text.toList back = after
  /-- A segment with the identity in it is neither empty nor one that stands for another. -/
  named : ∀ (n : Nat) (piece : List Char), (pieces '/' template.toList)[n]? = some piece →
    identityPlaceholder <:+: piece →
      ∃ segment, (pieces '/' path.toList)[n]? = some segment ∧ ∃ c ∈ segment, c ≠ '.'

theorem scopes_of_scopedPath? (h : id.scopedPath? template = some path) :
    id.Scopes template path := by
  obtain ⟨hsafe, hpath⟩ := scopedPath?_eq_some_iff.mp h
  have hw : identityPlaceholder ≠ [] := by decide
  have hpieces : pieces '/' path.toList =
      (pieces '/' template.toList).map (replaceWord identityPlaceholder id.text.toList) := by
    rw [hpath]
    exact pieces_replaceWord hw (not_mem_placeholder (by decide))
      (not_mem_of_isPathSafe hsafe (by decide)) _
  refine ⟨?_, by rw [hpieces, List.length_map], fun c hc before after heq => ?_,
    fun n piece hn hin => ?_⟩
  · obtain ⟨parts, hne, hparts, htemplate, hnew⟩ := exists_joinWith_replaceWord hw template.toList
    exact ⟨parts, hne, hparts, htemplate, hpath.trans (hnew _)⟩
  · exact exists_of_replaceWord_eq hw (not_mem_placeholder hc) (not_mem_of_isPathSafe hsafe hc)
      (hpath.symm.trans heq)
  · obtain ⟨c, hc, hne⟩ := (isPathSafe_iff.mp hsafe).2
    have hplaced : id.text.toList <:+: replaceWord identityPlaceholder id.text.toList piece :=
      infix_replaceWord hw hin
    refine ⟨replaceWord identityPlaceholder id.text.toList piece, ?_, c, hplaced.subset hc, hne⟩
    rw [hpieces, List.getElem?_map, hn, Option.map_some]

theorem eq_of_scopedPath? (hin : identityPlaceholder <:+: template.toList)
    (h : id.scopedPath? template = some path) (h' : other.scopedPath? template = some path) :
    id = other := by
  obtain ⟨-, hpath⟩ := scopedPath?_eq_some_iff.mp h
  obtain ⟨-, hpath'⟩ := scopedPath?_eq_some_iff.mp h'
  have htext := eq_of_replaceWord_eq (by decide) hin (hpath.symm.trans hpath')
  exact congrArg Identity.mk (String.toList_inj.mp htext)

/--
An identity is refused exactly if it has an octet other than those of letters, digits and four
signs, or no octets but dots. The path of one that is not has as many segments as its template, a
delimiter only where the template has it, and no segment that the identity could have made a step
aside of; and where the template has a place for an identity, no other identity has this path.
-/
theorem scopedPath?_contained (id : Identity) (template : String) :
    (id.scopedPath? template = none ↔
      (∃ o ∈ octetsOf id.text, ¬isUnreservedOctet o) ∨ ∀ o ∈ octetsOf id.text, o = 0x2E) ∧
    ∀ path, id.scopedPath? template = some path → id.Scopes template path ∧
      (identityPlaceholder <:+: template.toList →
        ∀ other : Identity, other.scopedPath? template = some path → other = id) := by
  refine ⟨scopedPath?_eq_none_iff, fun path h => ⟨scopes_of_scopedPath? h, fun hin other h' => ?_⟩⟩
  exact eq_of_scopedPath? hin h' h

/-- A template with an identity between braces, behind dots and in its query. -/
def scatteredTemplate : String :=
  "/u/\x7b\x7bidentity\x7d\x7d/..\x7bidentity\x7d?of=%2F\x7bidentity\x7d"

theorem scopedPath?_contained_scattered :
    (⟨"..a"⟩ : Identity).scopedPath? scatteredTemplate =
        some "/u/\x7b..a\x7d/....a?of=%2F..a" ∧
      (⟨"..a"⟩ : Identity).Scopes scatteredTemplate "/u/\x7b..a\x7d/....a?of=%2F..a" ∧
      ∀ other : Identity, other.scopedPath? scatteredTemplate =
        some "/u/\x7b..a\x7d/....a?of=%2F..a" → other = ⟨"..a"⟩ := by
  have h : (⟨"..a"⟩ : Identity).scopedPath? scatteredTemplate =
      some "/u/\x7b..a\x7d/....a?of=%2F..a" := by decide +kernel
  have hin : identityPlaceholder <:+: scatteredTemplate.toList :=
    ⟨"/u/\x7b".toList, "\x7d/..\x7bidentity\x7d?of=%2F\x7bidentity\x7d".toList,
      by decide +kernel⟩
  obtain ⟨hscopes, hother⟩ := (scopedPath?_contained ⟨"..a"⟩ scatteredTemplate).2 _ h
  exact ⟨h, hscopes, hother hin⟩

end Identity

end Gatehouse
