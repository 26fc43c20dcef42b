import Gatehouse.Proofs.Fields

namespace Gatehouse

theorem HeaderName.ofText?_eq_some_iff {text : String} {name : HeaderName} :
    ofText? text = some name ↔
      text.toList.map Char.toLower = name.text.toList ∧ name.text.length ≤ maxLength := by
  have hlower : String.ofList (text.toList.map Char.toLower) = name.text ↔
      text.toList.map Char.toLower = name.text.toList := by
    rw [← String.toList_inj, String.toList_ofList]
  rw [← hlower]
  unfold ofText?
  dsimp only
  constructor
  · intro h
    split at h
    · split at h
      next hlength =>
        cases h
        exact ⟨rfl, hlength⟩
      next => cases h
    · cases h
  · rintro ⟨h, hlength⟩
    have hlegal : isFieldName (String.ofList (text.toList.map Char.toLower)) := h ▸ name.legal
    rw [dif_pos hlegal, if_pos (h ▸ hlength)]
    exact congrArg some (ext_text h)

namespace Headers

/-- Whether a connection field that can be read lists a name, in any mixture of cases. -/
def ListsAsOwn (h : Headers) (name : HeaderName) : Prop :=
  ∃ v ∈ h.all .connection, ∃ field, v.chars? = some field ∧
    ∃ piece ∈ pieces ',' field, (trimBlank piece).map Char.toLower = name.text.toList

theorem mem_perConnection_iff {h : Headers} {name : HeaderName} :
    name ∈ h.perConnection ↔ h.ListsAsOwn name ∧ name.text.length ≤ HeaderName.maxLength := by
  have hpiece (piece : List Char) : HeaderName.ofText? (String.ofList (trimBlank piece)) =
      some name ↔ (trimBlank piece).map Char.toLower = name.text.toList ∧
        name.text.length ≤ HeaderName.maxLength := by
    rw [HeaderName.ofText?_eq_some_iff, String.toList_ofList]
  unfold perConnection connectionOptions ListsAsOwn
  simp only [List.mem_flatMap, List.mem_filterMap, hpiece]
  constructor
  · rintro ⟨field, ⟨v, hv, hchars⟩, piece, hmem, heq, hlength⟩
    exact ⟨⟨v, hv, field, hchars, piece, hmem, heq⟩, hlength⟩
  · rintro ⟨⟨v, hv, field, hchars, piece, hmem, heq⟩, hlength⟩
    exact ⟨field, ⟨v, hv, hchars⟩, piece, hmem, heq, hlength⟩

theorem ListsAsOwn.congr {h other : Headers} (hc : other.all .connection = h.all .connection)
    (name : HeaderName) : other.ListsAsOwn name ↔ h.ListsAsOwn name := by
  unfold ListsAsOwn
  rw [hc]

/--
Whether the fields of a name concern one connection only. A listed piece that is longer than the
name of a field may be is no name.
-/
def IsOwn (h : Headers) (name : HeaderName) : Prop :=
  name ∈ hopByHop ∨ h.ListsAsOwn name ∧ name.text.length ≤ HeaderName.maxLength

theorem mem_stripped_iff {h : Headers} {name : HeaderName} :
    name ∈ h.perConnection ++ hopByHop ↔ h.IsOwn name := by
  rw [List.mem_append, mem_perConnection_iff, or_comm]
  rfl

variable {h : Headers} {name : HeaderName}

theorem all_stripHopByHop_of_isOwn (ho : h.IsOwn name) :
    h.stripHopByHop.all name = [] := by
  rw [stripHopByHop, all_foldl_remove, if_pos (mem_stripped_iff.mpr ho)]

theorem all_stripHopByHop_of_not_isOwn (ho : ¬h.IsOwn name) :
    h.stripHopByHop.all name = h.all name := by
  rw [stripHopByHop, all_foldl_remove, if_neg (mt mem_stripped_iff.mp ho)]

theorem isAccessControl_iff :
    isAccessControl name = true ↔ "access-control-".toList <+: name.text.toList :=
  List.isPrefixOf_iff_prefix

theorem all_scrub_of_accessControl (h : Headers)
    (hname : "access-control-".toList <+: name.text.toList) : h.scrub.all name = [] := by
  have hn : isAccessControl name = true := isAccessControl_iff.mpr hname
  unfold all scrub
  rw [List.filter_filter, List.map_eq_nil_iff, List.filter_eq_nil_iff]
  intro f _ hf
  rw [Bool.and_eq_true, decide_eq_true_eq, Bool.not_eq_true'] at hf
  rw [hf.1, hn] at hf
  exact absurd hf.2 (by decide)

theorem all_scrub_of_not_accessControl (h : Headers)
    (hname : ¬"access-control-".toList <+: name.text.toList) :
    h.scrub.all name = h.stripHopByHop.all name := by
  have hn : (!isAccessControl name) = true := by
    rw [Bool.not_eq_true', ← Bool.not_eq_true]
    exact mt isAccessControl_iff.mp hname
  exact h.stripHopByHop.all_filter (!isAccessControl ·) hn

theorem foldl_remove_eq_self {names : List HeaderName}
    (hnone : ∀ name ∈ names, h.all name = []) : names.foldl remove h = h := by
  induction names with
  | nil => rfl
  | cons first rest ih =>
    have hfirst : h.remove first = h := by
      have hall : h.all first = [] := hnone first (List.mem_cons_self ..)
      have hfilter := List.filter_eq_nil_iff.mp (List.map_eq_nil_iff.mp hall)
      have hkept : h.fields.filter (·.name ≠ first) = h.fields :=
        List.filter_eq_self.mpr fun f hf => by simpa using hfilter f hf
      rw [remove, hkept]
    rw [List.foldl_cons, hfirst]
    exact ih fun name hmem => hnone name (List.mem_cons_of_mem _ hmem)

/-- Without a field that always concerns one connection nothing is listed, and all fields stay. -/
theorem stripHopByHop_eq_self (hnone : ∀ name ∈ hopByHop, h.all name = []) :
    h.stripHopByHop = h := by
  have hconnection : h.all .connection = [] := hnone .connection (by decide)
  have hlisted : h.perConnection = [] := by
    rw [perConnection, hconnection]
    rfl
  rw [stripHopByHop, hlisted, List.nil_append, foldl_remove_eq_self hnone]

theorem stripHopByHop_idem (h : Headers) : h.stripHopByHop.stripHopByHop = h.stripHopByHop :=
  stripHopByHop_eq_self fun _ hname => all_stripHopByHop_of_isOwn (Or.inl hname)

theorem stripHopByHop_scrub (h : Headers) : h.scrub.stripHopByHop = h.scrub := by
  refine stripHopByHop_eq_self fun name hname => ?_
  by_cases hprefix : "access-control-".toList <+: name.text.toList
  · exact all_scrub_of_accessControl h hprefix
  · rw [all_scrub_of_not_accessControl h hprefix]
    exact all_stripHopByHop_of_isOwn (Or.inl hname)

theorem scrub_of_stripped (hs : h.stripHopByHop = h) :
    h.scrub = ⟨h.fields.filter fun f => !isAccessControl f.name⟩ := by
  rw [scrub, hs]

theorem scrub_idem (h : Headers) : h.scrub.scrub = h.scrub := by
  have hkept : ∀ f ∈ h.scrub.fields, (!isAccessControl f.name) = true :=
    fun f hf => (List.mem_filter.mp hf).2
  rw [scrub_of_stripped (stripHopByHop_scrub h), List.filter_eq_self.mpr hkept]

/--
Stripping takes exactly the fields that concern one connection only, and scrubbing those and the
fields whose names begin like access control fields; the values of every other name stay, in their
order. Either done again changes nothing, and neither does stripping what was scrubbed.
-/
theorem stripped_scrubbed (h : Headers) :
    (∀ name, (h.IsOwn name → h.stripHopByHop.all name = []) ∧
      (¬h.IsOwn name → h.stripHopByHop.all name = h.all name)) ∧
    (∀ name, (h.IsOwn name ∨ "access-control-".toList <+: name.text.toList →
        h.scrub.all name = []) ∧
      (¬h.IsOwn name → ¬"access-control-".toList <+: name.text.toList →
        h.scrub.all name = h.all name)) ∧
    h.stripHopByHop.stripHopByHop = h.stripHopByHop ∧ h.scrub.scrub = h.scrub ∧
    h.scrub.stripHopByHop = h.scrub := by
  refine ⟨fun name => ⟨all_stripHopByHop_of_isOwn, all_stripHopByHop_of_not_isOwn⟩,
    fun name => ⟨fun hgone => ?_, fun howns hprefix => ?_⟩, stripHopByHop_idem h, scrub_idem h,
    stripHopByHop_scrub h⟩
  · by_cases hprefix : "access-control-".toList <+: name.text.toList
    · exact all_scrub_of_accessControl h hprefix
    · rw [all_scrub_of_not_accessControl h hprefix]
      exact all_stripHopByHop_of_isOwn (hgone.resolve_right hprefix)
  · rw [all_scrub_of_not_accessControl h hprefix]
    exact all_stripHopByHop_of_not_isOwn howns

end Headers

end Gatehouse
