import Gatehouse.Http.Target
import Gatehouse.Proofs.Digits
import Gatehouse.Proofs.Hosts
import Gatehouse.Url.Basic

namespace Gatehouse

/-- Characters that a host may hold and an authority may not. -/
def isUnservable (c : Char) : Bool := c == '"' || c == '`' || c == '\x7b' || c == '\x7d'

/-- Characters that make no difference to where an authority may go on or end. -/
def isPlainHostChar (c : Char) : Bool := c.isAlphanum || "!$&'()*+,-.;=_~".toList.contains c

theorem isPlainHostChar_of_isAlphanum {c : Char} (h : c.isAlphanum) : isPlainHostChar c := by
  simp [isPlainHostChar, h]

theorem ne_of_isPlainHostChar {c d : Char} (h : isPlainHostChar c)
    (hd : isPlainHostChar d = false) : c ≠ d := by
  rintro rfl
  simp [hd] at h

theorem isAuthorityChar_of_plain {c : Char} (h : isPlainHostChar c) : isAuthorityChar c := by
  simp only [isPlainHostChar, Bool.or_eq_true, List.contains_eq_mem, decide_eq_true_eq] at h
  rcases h with h | h
  · simp [isAuthorityChar, h]
  · have hall : ∀ d ∈ "!$&'()*+,-.;=_~".toList, isAuthorityChar d :=
      List.all_eq_true.mp (by decide)
    exact hall c h

theorem isHostChar_ofNat : ∀ n : Fin 128, isHostChar (Char.ofNat n) →
    isUnservable (Char.ofNat n) ∨ isPlainHostChar (Char.ofNat n) := by
  decide +kernel

/-- Of the characters of a name, four stand in no authority and the others are plain. -/
theorem isHostChar_cases {c : Char} (h : isHostChar c) : isUnservable c ∨ isPlainHostChar c := by
  have hascii : c.toNat < 128 := by simpa [isAscii] using isAscii_of_isHostChar h
  have hc := isHostChar_ofNat ⟨c.toNat, hascii⟩
  rw [Char.ofNat_toNat] at hc
  exact hc h

namespace AuthorityScan

theorem step_plain {s : AuthorityScan} (hat : s.afterAt = false) {c : Char}
    (h : isPlainHostChar c) : s.step c = .ok s := by
  have hlegal := isAuthorityChar_of_plain h
  have hpercent : c ≠ '%' := ne_of_isPlainHostChar h (by decide)
  have hsign : c ≠ '@' := ne_of_isPlainHostChar h (by decide)
  have hcolon : c ≠ ':' := ne_of_isPlainHostChar h (by decide)
  have hopening : c ≠ '[' := ne_of_isPlainHostChar h (by decide)
  have hclosing : c ≠ ']' := ne_of_isPlainHostChar h (by decide)
  have hsame : (c == '@') = s.afterAt := by simp [hsign, hat]
  simp [step, hlegal, hpercent, hsign, hcolon, hopening, hclosing, hsame]

theorem step_unservable {c : Char} (h : isUnservable c) (s : AuthorityScan) :
    s.step c = .error .badCharacter := by
  simp only [isUnservable, Bool.or_eq_true, beq_iff_eq] at h
  rcases h with ((rfl | rfl) | rfl) | rfl <;> rfl

theorem step_colon {s : AuthorityScan} (hat : s.afterAt = false) (h : s.colons < 8) :
    s.step ':' = .ok { s with colons := s.colons + 1 } := by
  have hroom : ¬8 ≤ s.colons := by omega
  simp [step, hroom, hat]

/-- Among plain characters, nothing but the colons counts. -/
theorem foldlM_plain {cs : List Char} {s : AuthorityScan} (hat : s.afterAt = false)
    (h : ∀ c ∈ cs, c = ':' ∨ isPlainHostChar c) (hroom : s.colons + cs.count ':' ≤ 8) :
    cs.foldlM step s = .ok { s with colons := s.colons + cs.count ':' } := by
  induction cs generalizing s with
  | nil => rfl
  | cons c rest ih =>
    have hrest : ∀ d ∈ rest, d = ':' ∨ isPlainHostChar d :=
      fun d hd => h d (List.mem_cons_of_mem _ hd)
    rw [List.foldlM_cons]
    by_cases hc : c = ':'
    · subst hc
      rw [List.count_cons_self] at hroom ⊢
      rw [step_colon hat (by omega)]
      have hmore := ih (s := { s with colons := s.colons + 1 }) hat hrest
        (show s.colons + 1 + rest.count ':' ≤ 8 by omega)
      have hcount : s.colons + 1 + rest.count ':' = s.colons + (rest.count ':' + 1) := by omega
      rw [← hcount]
      exact hmore
    · have hplain := (h c (List.mem_cons_self ..)).resolve_left hc
      rw [List.count_cons_of_ne hc] at hroom ⊢
      rw [step_plain hat hplain]
      exact ih hat hrest hroom

/-- A name goes no further than to the first of the four characters. -/
theorem foldlM_unservable {cs : List Char} (h : ∀ c ∈ cs, isHostChar c)
    (hbad : ∃ c ∈ cs, isUnservable c) {s : AuthorityScan} (hat : s.afterAt = false)
    (rest : List Char) : (cs ++ rest).foldlM step s = .error .badCharacter := by
  induction cs with
  | nil =>
    obtain ⟨c, hc, _⟩ := hbad
    cases hc
  | cons c more ih =>
    rw [List.cons_append, List.foldlM_cons]
    by_cases hc : isUnservable c = true
    · rw [step_unservable hc]
      rfl
    · have hplain := (isHostChar_cases (h c (List.mem_cons_self ..))).resolve_left hc
      have hmore : ∃ d ∈ more, isUnservable d := by
        obtain ⟨d, hd, hbad⟩ := hbad
        rcases List.mem_cons.mp hd with rfl | hd
        · exact absurd hbad hc
        · exact ⟨d, hd, hbad⟩
      rw [step_plain hat hplain]
      exact ih (fun d hd => h d (List.mem_cons_of_mem _ hd)) hmore

end AuthorityScan

/-- The text of a TCP port behind a host. -/
def tcpPortChars : Option Nat → List Char
  | none => []
  | some n => ':' :: decimal n

theorem tcpPortChars_plain (p : Option Nat) :
    ∀ c ∈ tcpPortChars p, c = ':' ∨ isPlainHostChar c := by
  intro c hc
  cases p with
  | none => cases hc
  | some n =>
    rcases List.mem_cons.mp hc with rfl | hc
    · exact Or.inl rfl
    · exact Or.inr (isPlainHostChar_of_isAlphanum (digitsIn_isAlphanum (by omega) (by omega) n c hc))

theorem count_tcpPortChars (p : Option Nat) : (tcpPortChars p).count ':' ≤ 1 := by
  cases p with
  | none => decide
  | some n =>
    have hnone : ':' ∉ decimal n := fun hc =>
      absurd (digitsIn_isAlphanum (by omega) (by omega) n _ hc) (by decide)
    have hzero : (decimal n).count ':' = 0 := List.count_eq_zero.mpr hnone
    rw [tcpPortChars, List.count_cons_self]
    omega

theorem endsAuthority_eq_false {c : Char} (hslash : c ≠ '/') (hmark : c ≠ '?') (hhash : c ≠ '#') :
    endsAuthority c = false := by
  simp [endsAuthority, hslash, hmark, hhash]

theorem endsAuthority_of_plain {c : Char} (h : c = ':' ∨ isPlainHostChar c) :
    endsAuthority c = false := by
  rcases h with rfl | h
  · decide
  · exact endsAuthority_eq_false (ne_of_isPlainHostChar h (by decide))
      (ne_of_isPlainHostChar h (by decide)) (ne_of_isPlainHostChar h (by decide))

theorem endsAuthority_of_isHostChar {c : Char} (h : isHostChar c) : endsAuthority c = false :=
  endsAuthority_eq_false (ne_of_isHostChar h (by decide)) (ne_of_isHostChar h (by decide))
    (ne_of_isHostChar h (by decide))

namespace IsHost

variable {cs : List Char}

theorem ne_nil (h : IsHost cs) : cs ≠ [] := by
  cases h with
  | name hne => exact hne
  | bracketed => simp

theorem endsAuthority (h : IsHost cs) : ∀ c ∈ cs, endsAuthority c = false := by
  intro c hc
  cases h with
  | name _ hname => exact endsAuthority_of_isHostChar (hname c hc)
  | bracketed hinside _ =>
    rcases List.mem_cons.mp hc with rfl | hc
    · decide
    rcases List.mem_append.mp hc with hc | hc
    · exact endsAuthority_of_plain ((hinside c hc).imp_right isPlainHostChar_of_isAlphanum)
    · obtain rfl := List.mem_singleton.mp hc
      decide

/-- A host without any of the four characters is scanned to its end, with one port behind it. -/
theorem foldlM_step (h : IsHost cs) (hgood : ∀ c ∈ cs, isUnservable c = false) (p : Option Nat) :
    ∃ s : AuthorityScan, (cs ++ tcpPortChars p).foldlM AuthorityScan.step {} = .ok s ∧
      s.isComplete = true := by
  have hport (s : AuthorityScan) (hat : s.afterAt = false) (hcolons : s.colons = 0) :
      (tcpPortChars p).foldlM AuthorityScan.step s =
        .ok { s with colons := s.colons + (tcpPortChars p).count ':' } := by
    have hone := count_tcpPortChars p
    exact AuthorityScan.foldlM_plain hat (tcpPortChars_plain p) (by omega)
  have hone := count_tcpPortChars p
  rw [List.foldlM_append]
  cases h with
  | name _ hname =>
    have hplain : ∀ c ∈ cs, c = ':' ∨ isPlainHostChar c := fun c hc =>
      Or.inr ((isHostChar_cases (hname c hc)).resolve_left (by simp [hgood c hc]))
    have hnone : cs.count ':' = 0 := List.count_eq_zero.mpr fun hc =>
      absurd (hname _ hc) (by decide)
    rw [AuthorityScan.foldlM_plain rfl hplain (by simp [hnone]), hnone]
    refine ⟨_, hport _ rfl rfl, ?_⟩
    simpa [AuthorityScan.isComplete] using hone
  | @bracketed inner hinside hcolons =>
    have hplain : ∀ c ∈ inner, c = ':' ∨ isPlainHostChar c := fun c hc =>
      (hinside c hc).imp_right isPlainHostChar_of_isAlphanum
    have hfold : ('[' :: (inner ++ [']'])).foldlM AuthorityScan.step {} =
        .ok { opened := true, closed := true } := by
      rw [List.foldlM_cons]
      have hopened : AuthorityScan.step {} '[' = .ok { opened := true } := rfl
      rw [hopened]
      simp only [bind, Except.bind]
      rw [List.foldlM_append, AuthorityScan.foldlM_plain rfl hplain (by simpa using hcolons)]
      rfl
    rw [hfold]
    refine ⟨_, hport _ rfl rfl, ?_⟩
    simpa [AuthorityScan.isComplete] using hone

theorem eq_name_of_unservable (h : IsHost cs) {c : Char} (hc : c ∈ cs) (hbad : isUnservable c) :
    ∀ d ∈ cs, isHostChar d := by
  cases h with
  | name _ hname => exact hname
  | bracketed hinside _ =>
    have hplain : ∀ d, isPlainHostChar d = true → isUnservable d = false := by
      intro d hd
      by_cases hu : isUnservable d = true
      · simp only [isUnservable, Bool.or_eq_true, beq_iff_eq] at hu
        rcases hu with ((rfl | rfl) | rfl) | rfl <;> exact absurd hd (by decide)
      · simpa using hu
    rcases List.mem_cons.mp hc with rfl | hc
    · exact absurd hbad (by decide)
    rcases List.mem_append.mp hc with hc | hc
    · rcases hinside c hc with rfl | hc
      · exact absurd hbad (by decide)
      · exact absurd hbad (by simp [hplain c (isPlainHostChar_of_isAlphanum hc)])
    · obtain rfl := List.mem_singleton.mp hc
      exact absurd hbad (by decide)

end IsHost

/-- A text that nothing in it ends is an authority if it is scanned to its end. -/
theorem cutAuthority_whole {cs : List Char} (h : ∀ c ∈ cs, endsAuthority c = false) :
    cutAuthority cs = (cs.foldlM AuthorityScan.step {}).bind fun seen =>
      if seen.isComplete then .ok (cs, []) else .error .badAuthority := by
  have hpos : ∀ c ∈ cs, (!endsAuthority c) = true := by simpa using h
  have htake : (cs ++ []).takeWhile (!endsAuthority ·) = cs ++ [].takeWhile (!endsAuthority ·) :=
    List.takeWhile_append_of_pos hpos
  have hdrop : (cs ++ []).dropWhile (!endsAuthority ·) = [].dropWhile (!endsAuthority ·) :=
    List.dropWhile_append_of_pos hpos
  rw [List.append_nil, List.takeWhile_nil, List.append_nil] at htake
  rw [List.append_nil, List.dropWhile_nil] at hdrop
  unfold cutAuthority
  dsimp only
  rw [htake, hdrop]
  rfl

/-- The four characters are what keeps a host from being an authority. -/
theorem IsHost.readAuthority {cs : List Char} (h : IsHost cs) (p : Option Nat) :
    readAuthority (String.ofList (cs ++ tcpPortChars p)) =
      if cs.any isUnservable then .error .badCharacter
      else .ok (String.ofList (cs ++ tcpPortChars p)) := by
  have hends : ∀ c ∈ cs ++ tcpPortChars p, Gatehouse.endsAuthority c = false := by
    intro c hc
    rcases List.mem_append.mp hc with hc | hc
    · exact h.endsAuthority c hc
    · exact endsAuthority_of_plain (tcpPortChars_plain p c hc)
  have hsome : (String.ofList (cs ++ tcpPortChars p)).isEmpty = false := by
    have hne : String.ofList (cs ++ tcpPortChars p) ≠ "" := fun he => h.ne_nil (by
      have hnil := congrArg String.toList he
      rw [String.toList_ofList] at hnil
      exact (List.append_eq_nil_iff.mp hnil).1)
    simpa using hne
  unfold Gatehouse.readAuthority
  rw [hsome, String.toList_ofList, cutAuthority_whole hends]
  by_cases hbad : cs.any isUnservable = true
  · obtain ⟨c, hc, hu⟩ := List.any_eq_true.mp hbad
    rw [if_pos hbad, AuthorityScan.foldlM_unservable (h.eq_name_of_unservable hc hu) ⟨c, hc, hu⟩ rfl]
    rfl
  · have hgood : ∀ c ∈ cs, isUnservable c = false := by simpa using hbad
    obtain ⟨s, hs, hcomplete⟩ := h.foldlM_step hgood p
    rw [if_neg hbad, hs]
    simp [Except.bind, hcomplete]

theorem cutHost_append {inside : Bool} {cs : List Char}
    (h : ∀ c ∈ cs, (c ≠ ':' ∨ inside = true) ∧ c ≠ '[' ∧ c ≠ ']') (rest : List Char) :
    Url.cutHost inside (cs ++ rest) =
      (cs ++ (Url.cutHost inside rest).1, (Url.cutHost inside rest).2) := by
  induction cs with
  | nil => rfl
  | cons c more ih =>
    obtain ⟨hcolon, hopening, hclosing⟩ := h c (List.mem_cons_self ..)
    have hgo : ¬(c = ':' ∧ (!inside) = true) := by
      rintro ⟨hc, hinside⟩
      rcases hcolon with hcolon | hcolon
      · exact hcolon hc
      · simp [hcolon] at hinside
    rw [List.cons_append, Url.cutHost, if_neg hgo]
    simp only [hopening, hclosing, if_false]
    rw [ih fun d hd => h d (List.mem_cons_of_mem _ hd)]
    rfl

theorem cutHost_tcpPortChars (p : Option Nat) :
    Url.cutHost false (tcpPortChars p) = ([], tcpPortChars p) := by
  cases p <;> rfl

/-- The host and the port are found again in the authority. -/
theorem IsHost.cutHost {cs : List Char} (h : IsHost cs) (p : Option Nat) :
    Url.cutHost false (cs ++ tcpPortChars p) = (cs, tcpPortChars p) := by
  cases h with
  | name _ hname =>
    have hnot : ∀ c ∈ cs, (c ≠ ':' ∨ false = true) ∧ c ≠ '[' ∧ c ≠ ']' := fun c hc =>
      ⟨Or.inl (ne_of_isHostChar (hname c hc) (by decide)),
        ne_of_isHostChar (hname c hc) (by decide), ne_of_isHostChar (hname c hc) (by decide)⟩
    rw [cutHost_append hnot, cutHost_tcpPortChars, List.append_nil]
  | @bracketed inner hinside _ =>
    have hnot : ∀ c ∈ inner, (c ≠ ':' ∨ true = true) ∧ c ≠ '[' ∧ c ≠ ']' := by
      intro c hc
      rcases hinside c hc with rfl | hc
      · decide
      · exact ⟨Or.inr rfl, ne_of_isAlphanum hc (by decide), ne_of_isAlphanum hc (by decide)⟩
    have hopen : Url.cutHost false ('[' :: (inner ++ (']' :: tcpPortChars p))) =
        ('[' :: (Url.cutHost true (inner ++ (']' :: tcpPortChars p))).1,
          (Url.cutHost true (inner ++ (']' :: tcpPortChars p))).2) := rfl
    have hclose : Url.cutHost true (']' :: tcpPortChars p) =
        (']' :: (Url.cutHost false (tcpPortChars p)).1,
          (Url.cutHost false (tcpPortChars p)).2) := rfl
    rw [List.cons_append, List.append_assoc, List.singleton_append, hopen, cutHost_append hnot,
      hclose, cutHost_tcpPortChars]

end Gatehouse
