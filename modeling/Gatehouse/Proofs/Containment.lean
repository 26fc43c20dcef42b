import Mathlib.Data.String.Basic
import Gatehouse.Proofs.Cutting
import Gatehouse.Proofs.Lookup

namespace Gatehouse

namespace Segment

/-- Whether each piece that a segment accepts is one that another accepts. -/
inductive Within : Segment → Segment → Prop where
  | literal (text : String) : Within (.literal text) (.literal text)
  | filled {text : String} (h : text ≠ "") : Within (.literal text) .param
  | param : Within .param .param

/-- Whether a literal is a single piece of a path. -/
def IsPiece (s : Segment) : Prop := ∀ text, s = .literal text → '/' ∉ text.toList

variable {s t : Segment}

theorem Within.accepts (h : s.Within t) {piece : List Char} (hp : s.accepts piece) :
    t.accepts piece := by
  cases h with
  | literal => exact hp
  | @filled text hne =>
    have hpiece : text.toList = piece := of_decide_eq_true hp
    have hsome : piece ≠ [] := fun hnil => hne (String.toList_eq_nil_iff.mp (hpiece.trans hnil))
    simpa [Segment.accepts] using hsome
  | param => exact hp

theorem Within.antisymm (hst : s.Within t) (hts : t.Within s) : s = t := by
  cases hst with
  | literal => rfl
  | filled => cases hts
  | param => rfl

theorem IsPiece.exists_accepts (hs : s.IsPiece) : ∃ piece, '/' ∉ piece ∧ s.accepts piece := by
  cases s with
  | literal text => exact ⟨text.toList, hs text rfl, decide_eq_true rfl⟩
  | param => exact ⟨['a'], by decide, rfl⟩

theorem within_of_accepts (hs : s.IsPiece)
    (h : ∀ piece, '/' ∉ piece → s.accepts piece → t.accepts piece) : s.Within t := by
  cases s with
  | literal text =>
    have ht := h text.toList (hs text rfl) (decide_eq_true rfl)
    cases t with
    | literal other =>
      have heq : other.toList = text.toList := of_decide_eq_true ht
      rw [String.toList_inj.mp heq]
      exact .literal text
    | param =>
      refine .filled fun hnil => ?_
      rw [hnil] at ht
      cases ht
  | param =>
    cases t with
    | literal other =>
      have ha : other.toList = ['a'] := of_decide_eq_true (h ['a'] (by decide) rfl)
      have hb : other.toList = ['b'] := of_decide_eq_true (h ['b'] (by decide) rfl)
      rw [ha] at hb
      cases hb
    | param => exact .param

theorem isPiece_ofPiece {piece : List Char} (hp : '/' ∉ piece) : (ofPiece piece).IsPiece := by
  intro text ht
  unfold ofPiece at ht
  split at ht
  · cases ht
  · cases ht
    rwa [String.toList_ofList]

end Segment

theorem isPiece_of_mem_templateSegments {pattern : String} :
    ∀ s ∈ templateSegments pattern, s.IsPiece := by
  intro s hs
  obtain ⟨piece, hpiece, rfl⟩ := List.mem_map.mp hs
  exact Segment.isPiece_ofPiece (not_mem_of_mem_pieces hpiece)

variable {as bs : List Segment}

theorem segmentsAccept_cons_iff {s : Segment} {p : List Char} {ps : List (List Char)} :
    segmentsAccept (s :: as) (p :: ps) ↔ s.accepts p ∧ segmentsAccept as ps := by
  rw [segmentsAccept, Bool.and_eq_true]

theorem length_of_segmentsAccept {ps : List (List Char)} (h : segmentsAccept as ps) :
    ps.length = as.length := by
  induction as generalizing ps with
  | nil =>
    cases ps with
    | nil => rfl
    | cons => cases h
  | cons s more ih =>
    cases ps with
    | nil => cases h
    | cons p rest =>
      rw [List.length_cons, List.length_cons, ih (segmentsAccept_cons_iff.mp h).2]

theorem segmentsAccept_of_within (h : List.Forall₂ Segment.Within as bs) {ps : List (List Char)}
    (hp : segmentsAccept as ps) : segmentsAccept bs ps := by
  induction h generalizing ps with
  | nil => exact hp
  | cons hst _ ih =>
    cases ps with
    | nil => cases hp
    | cons p rest =>
      obtain ⟨hfirst, hrest⟩ := segmentsAccept_cons_iff.mp hp
      exact segmentsAccept_cons_iff.mpr ⟨hst.accepts hfirst, ih hrest⟩

theorem exists_segmentsAccept (hs : ∀ s ∈ as, s.IsPiece) :
    ∃ ps, (∀ p ∈ ps, '/' ∉ p) ∧ segmentsAccept as ps := by
  induction as with
  | nil => exact ⟨[], by simp, rfl⟩
  | cons s more ih =>
    obtain ⟨p, hp, haccepts⟩ := (hs s (List.mem_cons_self ..)).exists_accepts
    obtain ⟨rest, hrest, hmore⟩ := ih fun t ht => hs t (List.mem_cons_of_mem _ ht)
    exact ⟨p :: rest, List.forall_mem_cons.mpr ⟨hp, hrest⟩,
      segmentsAccept_cons_iff.mpr ⟨haccepts, hmore⟩⟩

theorem eq_of_within (h : List.Forall₂ Segment.Within as bs)
    (h' : List.Forall₂ Segment.Within bs as) : as = bs := by
  induction h with
  | nil => rfl
  | cons hst _ ih =>
    cases h' with
    | cons hts hrest => rw [hst.antisymm hts, ih hrest]

/-- Segments that accept no other pieces than others stand within these one by one. -/
theorem within_of_segmentsAccept (hs : ∀ s ∈ as, s.IsPiece)
    (h : ∀ ps, (∀ p ∈ ps, '/' ∉ p) → segmentsAccept as ps → segmentsAccept bs ps) :
    List.Forall₂ Segment.Within as bs := by
  induction as generalizing bs with
  | nil =>
    have hnil : segmentsAccept bs [] := h [] (by simp) rfl
    cases bs with
    | nil => exact .nil
    | cons => cases hnil
  | cons s more ih =>
    have hmore : ∀ t ∈ more, t.IsPiece := fun t ht => hs t (List.mem_cons_of_mem _ ht)
    have hpiece : s.IsPiece := hs s (List.mem_cons_self ..)
    obtain ⟨first, hfirst, hsfirst⟩ := hpiece.exists_accepts
    obtain ⟨rest, hrest, hmrest⟩ := exists_segmentsAccept hmore
    have hboth (p : List Char) (qs : List (List Char)) (hp : '/' ∉ p) (hqs : ∀ q ∈ qs, '/' ∉ q)
        (hsp : s.accepts p) (hmq : segmentsAccept more qs) : segmentsAccept bs (p :: qs) :=
      h (p :: qs) (List.forall_mem_cons.mpr ⟨hp, hqs⟩) (segmentsAccept_cons_iff.mpr ⟨hsp, hmq⟩)
    cases bs with
    | nil => cases hboth first rest hfirst hrest hsfirst hmrest
    | cons t others =>
      -- each half is probed with the other one held fast
      have hhead : ∀ p, '/' ∉ p → s.accepts p → t.accepts p := by
        intro p hp hsp
        exact (segmentsAccept_cons_iff.mp (hboth p rest hp hrest hsp hmrest)).1
      have htail : ∀ qs, (∀ q ∈ qs, '/' ∉ q) → segmentsAccept more qs →
          segmentsAccept others qs := by
        intro qs hqs hmq
        exact (segmentsAccept_cons_iff.mp (hboth first qs hfirst hqs hsfirst hmq)).2
      exact .cons (Segment.within_of_accepts hpiece hhead) (ih hmore htail)

/-- A text that goes on behind another is the longer one. -/
theorem utf8ByteSize_lt_of_prefix {short long : String} (h : short.toList <+: long.toList)
    (hne : short ≠ long) : short.utf8ByteSize < long.utf8ByteSize := by
  obtain ⟨rest, hrest⟩ := h
  cases rest with
  | nil =>
    rw [List.append_nil, String.toList_inj] at hrest
    exact absurd hrest hne
  | cons c more =>
    have hsize (text : String) : text.utf8ByteSize = String.utf8Len text.toList := by
      rw [← String.utf8ByteSize_ofList, String.ofList_toList]
    rw [hsize, hsize, ← hrest, String.utf8Len_append, String.utf8Len_cons]
    have hc := c.utf8Size_pos
    omega

theorem RouteTable.ofRoutes_pair {first second : Route} (h : second.path.Outranks first.path) :
    ofRoutes [first, second] = ⟨[second, first]⟩ := by
  have hle : second.path.specificity.le first.path.specificity = false := by
    simpa using PathPattern.outranks_iff.mp h
  simp [ofRoutes, List.mergeSort, hle]

namespace PathPattern

/-- Whether the paths of one pattern are all paths of another, which has more of them. -/
structure Narrower (a b : PathPattern) : Prop where
  sub : ∀ path, a.accepts path → b.accepts path
  more : ∃ path, b.accepts path ∧ ¬a.accepts path

/-- Whether both are templates, the first one with a text that is no longer. -/
def Underwritten (a b : PathPattern) : Prop :=
  ∃ p q, a = .template p ∧ b = .template q ∧ p.utf8ByteSize ≤ q.utf8ByteSize

variable {a b : PathPattern} {p q stem : String}

theorem ne_nil_of_segmentsAccept {ps : List (List Char)}
    (h : segmentsAccept (templateSegments p) ps) : ps ≠ [] := by
  have hlen := length_of_segmentsAccept h
  rw [templateSegments, List.length_map, length_pieces] at hlen
  exact List.ne_nil_of_length_eq_add_one hlen

/-- What a template makes of pieces, asked of the path that they are joined to. -/
theorem template_accepts_joinWith {ps : List (List Char)} (hne : ps ≠ [])
    (hps : ∀ piece ∈ ps, '/' ∉ piece) :
    (template p).accepts (String.ofList (joinWith ['/'] ps)) =
      segmentsAccept (templateSegments p) ps := by
  rw [accepts, String.toList_ofList, pieces_joinWith hne hps]

/-- A template holds the paths of another exactly when it holds its segments, one by one. -/
theorem template_sub_iff :
    (∀ path, (template p).accepts path → (template q).accepts path) ↔
      List.Forall₂ Segment.Within (templateSegments p) (templateSegments q) := by
  constructor
  · intro h
    refine within_of_segmentsAccept isPiece_of_mem_templateSegments fun ps hps hp => ?_
    have hne := ne_nil_of_segmentsAccept hp
    rw [← template_accepts_joinWith hne hps] at hp ⊢
    exact h _ hp
  · intro h path hp
    exact segmentsAccept_of_within h hp

theorem template_narrower_iff :
    (template p).Narrower (.template q) ↔
      List.Forall₂ Segment.Within (templateSegments p) (templateSegments q) ∧
        templateSegments p ≠ templateSegments q := by
  constructor
  · intro h
    refine ⟨template_sub_iff.mp h.sub, fun heq => ?_⟩
    obtain ⟨path, hq, hp⟩ := h.more
    rw [accepts, heq] at hp
    exact hp hq
  · rintro ⟨h, hne⟩
    refine ⟨template_sub_iff.mpr h, ?_⟩
    by_contra hmore
    have hback : ∀ path, (template q).accepts path → (template p).accepts path := by
      intro path hq
      by_contra hp
      exact hmore ⟨path, hq, hp⟩
    exact hne (eq_of_within h (template_sub_iff.mp hback))

theorem leading_accepts_append (stem : String) (more : List Char) :
    (leading stem).accepts (String.ofList (stem.toList ++ more)) := by
  simp [accepts]

theorem exists_accepts (a : PathPattern) : ∃ path, a.accepts path := by
  cases a with
  | exact path => exact ⟨path, decide_eq_true rfl⟩
  | template pattern =>
    have hpieces : ∀ s ∈ templateSegments pattern, s.IsPiece := isPiece_of_mem_templateSegments
    obtain ⟨ps, hps, h⟩ := exists_segmentsAccept hpieces
    refine ⟨String.ofList (joinWith ['/'] ps), ?_⟩
    rwa [template_accepts_joinWith (ne_nil_of_segmentsAccept h) hps]
  | leading stem => exact ⟨_, leading_accepts_append stem []⟩

/-- A single path has no other besides one that it shares. -/
theorem not_narrower_exact {path : String} : ¬a.Narrower (.exact path) := by
  intro h
  obtain ⟨own, hown⟩ := a.exists_accepts
  obtain ⟨more, hmore, hnot⟩ := h.more
  have hownPath : own = path := of_decide_eq_true (h.sub own hown)
  have hmorePath : more = path := of_decide_eq_true hmore
  rw [hmorePath, ← hownPath] at hnot
  exact hnot hown

/-- A stem has paths of more pieces than a template takes. -/
theorem not_leading_narrower_template : ¬(leading stem).Narrower (.template q) := by
  intro h
  let slashes := List.replicate (templateSegments q).length '/'
  have hq := h.sub _ (leading_accepts_append stem slashes)
  have hlen := length_of_segmentsAccept hq
  rw [String.toList_ofList, length_pieces, List.count_append, List.count_replicate_self] at hlen
  omega

theorem lt_of_leading_narrower {other : String} (h : (leading stem).Narrower (.leading other)) :
    other.utf8ByteSize < stem.utf8ByteSize := by
  obtain ⟨path, hother, hnot⟩ := h.more
  have hsub := h.sub _ (leading_accepts_append stem [])
  rw [accepts, List.append_nil, String.ofList_toList, List.isPrefixOf_iff_prefix] at hsub
  refine utf8ByteSize_lt_of_prefix hsub ?_
  rintro rfl
  exact hnot hother

theorem Narrower.outranks_or_template (h : a.Narrower b) :
    a.Outranks b ∨ ∃ p q, a = .template p ∧ b = .template q := by
  cases b with
  | exact path => exact absurd h not_narrower_exact
  | template q =>
    cases a with
    | exact path => exact .inl (.exactTemplate path q)
    | template p => exact .inr ⟨p, q, rfl, rfl⟩
    | leading stem => exact absurd h not_leading_narrower_template
  | leading other =>
    cases a with
    | exact path => exact .inl (.exactLeading path other)
    | template p => exact .inl (.templateLeading p other)
    | leading stem => exact .inl (.leading (lt_of_leading_narrower h))

theorem underwritten_iff (h : a.Narrower b) :
    a.Underwritten b ↔ a.specificity.le b.specificity := by
  constructor
  · rintro ⟨p, q, rfl, rfl, hle⟩
    exact Specificity.le_iff.mpr (.inr ⟨rfl, hle⟩)
  · intro hle
    have hnot : ¬a.Outranks b := fun ho => outranks_iff.mp ho hle
    obtain ⟨p, q, rfl, rfl⟩ := h.outranks_or_template.resolve_left hnot
    exact ⟨p, q, rfl, rfl, Nat.le_of_not_lt fun hlt => hnot (.template hlt)⟩

/-- The tabs of a user's page. -/
def userTabs (pattern : String) : Route where
  name := pattern
  path := .template pattern
  methods := .any
  target := .backend
  requiresAuth := true
  transform := .keep

theorem narrower_of_filled (text : String)
    (hp : templateSegments p = [.literal "", .literal "users", .literal text, .param])
    (hq : templateSegments q = [.literal "", .literal "users", .param, .param])
    (hne : text ≠ "") : (template p).Narrower (.template q) := by
  rw [template_narrower_iff, hp, hq]
  constructor
  · exact .cons (.literal "") (.cons (.literal "users") (.cons (.filled hne) (.cons .param .nil)))
  · simp

theorem narrower_me :
    (template "/users/me/\x7btab\x7d").Narrower (.template "/users/\x7bid\x7d/\x7btab\x7d") :=
  narrower_of_filled "me" (by decide +kernel) (by decide +kernel) (by decide)

theorem resolve_me :
    (RouteTable.ofRoutes [userTabs "/users/me/\x7btab\x7d",
      userTabs "/users/\x7bid\x7d/\x7btab\x7d"]).resolve .get "/users/me/x" =
      .ok (userTabs "/users/\x7bid\x7d/\x7btab\x7d") := by
  rw [RouteTable.ofRoutes_pair (.template (by decide +kernel))]
  decide +kernel

/-- The template of one user's tabs may be shorter than that of all users' tabs, and then loses. -/
theorem narrower_not_outranks_me :
    (template "/users/me/\x7btab\x7d").Narrower (.template "/users/\x7bid\x7d/\x7btab\x7d") ∧
      (template "/users/me/\x7btab\x7d").specificity.le
        (template "/users/\x7bid\x7d/\x7btab\x7d").specificity ∧
      (userTabs "/users/me/\x7btab\x7d").fits .get "/users/me/x" ∧
      (RouteTable.ofRoutes [userTabs "/users/me/\x7btab\x7d",
        userTabs "/users/\x7bid\x7d/\x7btab\x7d"]).resolve .get "/users/me/x" =
        .ok (userTabs "/users/\x7bid\x7d/\x7btab\x7d") := by
  exact ⟨narrower_me, by decide +kernel, by decide +kernel, resolve_me⟩

/--
A pattern whose paths are all paths of another that has more outranks it, unless both are templates
and its text is no longer than the other's. The template within has a literal wherever the other has
one, and may fill the other's parameters in. A lookup answers with the wider one's route where the
narrower one's fits only if both are such templates, and then for its longer text or, among texts of
one length, because it was declared before.
-/
theorem narrower_outranks (h : a.Narrower b) :
    (a.specificity.le b.specificity ↔ a.Underwritten b) ∧
      (∀ p q, a = .template p → b = .template q →
        List.Forall₂ Segment.Within (templateSegments p) (templateSegments q) ∧
          templateSegments p ≠ templateSegments q) ∧
      ∀ (routes : List Route) (mine other : Route) (m : Method) (path : String),
        mine ∈ routes → mine.path = a → other.path = b → mine.fits m path →
        (RouteTable.ofRoutes routes).resolve m path = .ok other →
        a.Underwritten b ∧ (b.Outranks a ∨ [other, mine].Sublist routes) := by
  have hiff := underwritten_iff h
  refine ⟨hiff.symm, ?_, ?_⟩
  · rintro p q rfl rfl
    exact template_narrower_iff.mp h
  · rintro routes mine other m path hmine rfl rfl hfits hok
    have hfound := RouteTable.resolve_ok_iff.mp hok
    refine ⟨hiff.mpr (RouteTable.le_of_find? hfound hmine hfits), ?_⟩
    obtain ⟨before, after, rfl, -, hbefore, -⟩ := RouteTable.chooses_of_find? hfound
    rcases List.mem_append.mp hmine with hin | hin
    · exact .inl (hbefore mine hin hfits)
    rcases List.mem_cons.mp hin with rfl | hin
    · obtain ⟨path, haccepts, hnot⟩ := h.more
      exact absurd haccepts hnot
    · have hafter : [mine].Sublist after := List.singleton_sublist.mpr hin
      exact .inr ((hafter.cons_cons other).trans (List.sublist_append_right before _))

theorem narrower_outranks_admin :
    (template "/users/admin/\x7btab\x7d").Narrower (.template "/users/\x7bid\x7d/\x7btab\x7d") ∧
      ¬(template "/users/admin/\x7btab\x7d").Underwritten
        (.template "/users/\x7bid\x7d/\x7btab\x7d") ∧
      (template "/users/me/\x7btab\x7d").Underwritten
        (.template "/users/\x7bid\x7d/\x7btab\x7d") := by
  have hadmin : (template "/users/admin/\x7btab\x7d").Narrower
      (.template "/users/\x7bid\x7d/\x7btab\x7d") :=
    narrower_of_filled "admin" (by decide +kernel) (by decide +kernel) (by decide)
  have hme := (narrower_outranks narrower_me).2.2 _ (userTabs "/users/me/\x7btab\x7d") _ .get
    "/users/me/x" (by simp) rfl rfl (by decide +kernel) resolve_me
  refine ⟨hadmin, fun h => ?_, hme.1⟩
  have hle := (narrower_outranks hadmin).1.mpr h
  revert hle
  decide +kernel

end PathPattern

end Gatehouse
