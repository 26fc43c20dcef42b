import Gatehouse.Proofs.Authorities
import Gatehouse.Proofs.Place
import Gatehouse.Proofs.Startup

namespace Gatehouse

namespace Url

variable {scheme : String} {wellKnown : Bool} {cs : List Char} {url : Url}

theorem readServer_ok_inv (h : readServer scheme wellKnown cs = .ok url) :
    url.scheme = scheme ∧
      (wellKnown = true → ∃ host, url.host = some host ∧ IsHost host.toList) := by
  unfold readServer at h
  dsimp only at h
  split at h
  · cases h
  split at h
  · cases h
  next hname =>
    split at h
    next hknown =>
      obtain ⟨host, hhost, h⟩ := Except.bind_eq_ok_iff.mp h
      obtain ⟨tcpPort, -, h⟩ := Except.bind_eq_ok_iff.mp h
      split at h
      · cases h
      cases Except.ok.inj h
      refine ⟨rfl, fun _ => ⟨host, ?_, domainHost_isHost hhost⟩⟩
      simp only [hknown, true_or, and_true] at hname ⊢
      exact if_neg hname
    next hknown =>
      obtain ⟨host, -, h⟩ := Except.bind_eq_ok_iff.mp h
      obtain ⟨tcpPort, -, h⟩ := Except.bind_eq_ok_iff.mp h
      split at h
      · cases h
      cases Except.ok.inj h
      exact ⟨rfl, fun hk => absurd hk hknown⟩

theorem readFile_scheme (h : readFile cs = .ok url) : url.scheme = "file" := by
  unfold readFile at h
  split at h
  · dsimp only at h
    split at h
    · cases Except.ok.inj h
      rfl
    split at h
    · cases Except.ok.inj h
      rfl
    split at h
    · cases Except.ok.inj h
      rfl
    · obtain ⟨host, -, h⟩ := Except.bind_eq_ok_iff.mp h
      cases Except.ok.inj h
      rfl
  · cases Except.ok.inj h
    rfl

theorem ofText_http_inv {text : String} (h : ofText text = .ok url) (hs : url.scheme = "http") :
    ∃ host, url.host = some host ∧ IsHost host.toList := by
  unfold ofText at h
  split at h
  · cases h
  next scheme rest _ =>
    split at h
    · rw [readFile_scheme h] at hs
      exact absurd hs (by decide)
    split at h
    · exact (readServer_ok_inv h).2 rfl
    next hserver =>
      have hscheme : url.scheme = scheme := by
        split at h
        · exact (readServer_ok_inv h).1
        · cases Except.ok.inj h
          rfl
        · cases Except.ok.inj h
          rfl
      rw [← hscheme, hs] at hserver
      exact absurd (by decide) hserver

theorem authority?_of_host {host : String} (h : url.host = some host) :
    url.authority? = some (String.ofList (host.toList ++ tcpPortChars url.tcpPort)) := by
  unfold authority?
  rw [h, Option.map_some]
  cases url.tcpPort with
  | none => simp [tcpPortChars]
  | some n => simp [tcpPortChars, decimalText, String.append_assoc]

end Url

/-- The server that an authority names: its host, and its TCP port or else the one implied. -/
def serverOf? (implied : Nat) (authority : String) : Option (String × Nat) :=
  match Url.cutHost false authority.toList with
  | (host, []) => some (String.ofList host, implied)
  | (host, _ :: digits) => (numberIn? 10 digits).map (String.ofList host, ·)

theorem serverOf?_authority {host : String} (h : IsHost host.toList) (implied : Nat)
    (p : Option Nat) :
    serverOf? implied (String.ofList (host.toList ++ tcpPortChars p)) =
      some (host, p.getD implied) := by
  unfold serverOf?
  rw [String.toList_ofList, h.cutHost p]
  cases p with
  | none => simp [tcpPortChars]
  | some n =>
    have hread : numberIn? 10 (decimal n) = some n := numberIn?_digitsIn (by omega) (by omega) n
    simp [tcpPortChars, hread]

/-- The host that a base address names, in its normal form. -/
def baseHost? (base : String) : Option String := (Url.ofText base).toOption.bind Url.host

/-- Whether the host of a base address can be named in a request. -/
def isServable (base : String) : Bool :=
  (baseHost? base).all fun host => !host.toList.any isUnservable

/-- Whether a destination is the server that a base address names. -/
structure Destination.IsOf (d : Destination) (base : String) : Prop where
  scheme : d.scheme = "http"
  server : ∃ url host, Url.ofText base = .ok url ∧ url.host = some host ∧
    serverOf? 80 d.authority = some (host, url.tcpPort.getD 80)

theorem checkBase_eq_nil_iff {base : String} : checkBase base = [] ↔
    ∃ url, Url.ofText base = .ok url ∧ url.scheme = "http" ∧ url.host ≠ none ∧ url.isBare := by
  unfold checkBase
  cases Url.ofText base with
  | error fault => simp
  | ok url =>
    simp only [Except.ok.injEq, exists_eq_left']
    split
    next hs => simp [hs]
    next hs =>
      split
      next hh => simp [Option.isNone_iff_eq_none.mp hh]
      next hh => split <;> simp_all

/-- An accepted base address is a destination, or its host holds one of the four characters. -/
theorem Destination.ofBase_of_checkBase {base : String} (h : checkBase base = []) :
    if isServable base then ∃ d, ofBase base = .ok d ∧ d.IsOf base
    else ofBase base = .error (.badAuthority base .badCharacter) := by
  obtain ⟨url, hurl, hscheme, -⟩ := checkBase_eq_nil_iff.mp h
  obtain ⟨host, hhost, hform⟩ := Url.ofText_http_inv hurl hscheme
  have hauthority := Url.authority?_of_host hhost
  have hshort : ¬maxSchemeLength < url.scheme.length := by
    rw [hscheme]
    decide
  have hservable : isServable base = !host.toList.any isUnservable := by
    simp [isServable, baseHost?, hurl, Except.toOption, hhost]
  unfold ofBase
  simp only [hurl, hauthority, if_neg hshort, hform.readAuthority, hservable]
  cases hbad : host.toList.any isUnservable with
  | true => simp
  | false =>
    simp only [Bool.not_false, if_true, Bool.false_eq_true, if_false]
    exact ⟨_, rfl, hscheme, url, host, hurl, hhost, serverOf?_authority hform 80 url.tcpPort⟩

/-- The collaborators, in the order that their base addresses are read in. -/
def collaborators : List Collaborator := [.auth, .backend, .node, .monitoring]

def BasesConfig.get (b : BasesConfig) : Collaborator → String
  | .auth => b.auth
  | .backend => b.backend
  | .node => b.node
  | .monitoring => b.monitoring

theorem Config.checkBase_of_faults {c : Config} (hc : c.faults = []) (who : Collaborator) :
    checkBase (c.bases.get who) = [] := by
  have hnone : ∀ x ∈ c.complaints, x.2 = [] := by
    intro x hx
    have hmap := List.flatMap_eq_nil_iff.mp hc x hx
    exact List.map_eq_nil_iff.mp hmap
  have hbases : ∀ who, ("upstreams." ++ who.name, checkBase (c.bases.get who)) ∈ c.complaints := by
    intro who
    cases who <;> simp [complaints, Collaborator.name, BasesConfig.get]
  exact hnone _ (hbases who)

namespace Destinations

variable {b : BasesConfig}

theorem ofBases_of_isServable (h : ∀ who, checkBase (b.get who) = [])
    (hall : ∀ who, isServable (b.get who)) :
    ∃ ds, ofBases b = .ok ds ∧ ∀ who, (ds.get who).IsOf (b.get who) := by
  have hof (who : Collaborator) :
      ∃ d, Destination.ofBase (b.get who) = .ok d ∧ d.IsOf (b.get who) := by
    have hwho := Destination.ofBase_of_checkBase (h who)
    rwa [if_pos (hall who)] at hwho
  obtain ⟨auth, hauth, hauth'⟩ := hof .auth
  obtain ⟨backend, hbackend, hbackend'⟩ := hof .backend
  obtain ⟨node, hnode, hnode'⟩ := hof .node
  obtain ⟨monitoring, hmonitoring, hmonitoring'⟩ := hof .monitoring
  simp only [BasesConfig.get] at hauth hbackend hnode hmonitoring
  refine ⟨⟨auth, backend, node, monitoring⟩, ?_, fun who => ?_⟩
  · simp only [ofBases, hauth, hbackend, hnode, hmonitoring]
    rfl
  · cases who <;> assumption

theorem ofBases_of_error {who : Collaborator} {fault : BaseFault}
    (hbad : Destination.ofBase (b.get who) = .error fault)
    (hbefore : ∀ w ∈ collaborators.takeWhile (· ≠ who), ∃ d, Destination.ofBase (b.get w) = .ok d) :
    ofBases b = .error fault := by
  unfold ofBases
  cases who with
  | auth =>
    simp only [BasesConfig.get] at hbad
    rw [hbad]
    rfl
  | backend =>
    obtain ⟨auth, hauth⟩ := hbefore .auth (by decide)
    simp only [BasesConfig.get] at hbad hauth
    rw [hauth, hbad]
    rfl
  | node =>
    obtain ⟨auth, hauth⟩ := hbefore .auth (by decide)
    obtain ⟨backend, hbackend⟩ := hbefore .backend (by decide)
    simp only [BasesConfig.get] at hbad hauth hbackend
    rw [hauth, hbackend, hbad]
    rfl
  | monitoring =>
    obtain ⟨auth, hauth⟩ := hbefore .auth (by decide)
    obtain ⟨backend, hbackend⟩ := hbefore .backend (by decide)
    obtain ⟨node, hnode⟩ := hbefore .node (by decide)
    simp only [BasesConfig.get] at hbad hauth hbackend hnode
    rw [hauth, hbackend, hnode, hbad]
    rfl

/-- Of several base addresses that cannot be used, the first is reported. -/
theorem ofBases_of_find? (h : ∀ who, checkBase (b.get who) = []) {who : Collaborator}
    (hfirst : collaborators.find? (fun who => !isServable (b.get who)) = some who) :
    ofBases b = .error (.badAuthority (b.get who) .badCharacter) := by
  obtain ⟨hwho, before, after, hsplit, hbefore⟩ := List.find?_eq_some_iff_append.mp hfirst
  have hservable : ∀ w ∈ before, isServable (b.get w) = true := by simpa using hbefore
  have hne : ∀ w ∈ before, decide (w ≠ who) = true := by
    intro w hw
    have hdiffers : w ≠ who := by
      rintro rfl
      simp [hservable w hw] at hwho
    exact decide_eq_true hdiffers
  have htake : collaborators.takeWhile (· ≠ who) = before := by
    rw [hsplit, List.takeWhile_append_of_pos hne]
    simp
  have hbad : Destination.ofBase (b.get who) = .error (.badAuthority (b.get who) .badCharacter) := by
    have hread := Destination.ofBase_of_checkBase (h who)
    have hnot : isServable (b.get who) = false := by simpa using hwho
    rwa [hnot] at hread
  refine ofBases_of_error hbad fun w hw => ?_
  have hread := Destination.ofBase_of_checkBase (h w)
  rw [if_pos (hservable w (htake ▸ hw))] at hread
  obtain ⟨d, hd, -⟩ := hread
  exact ⟨d, hd⟩

end Destinations

namespace Gateway

/--
Settings that are accepted and settings that can be worked by. They are the same but for one thing:
a host that a base address names may hold one of four characters that no authority may. Without
them every collaborator is at the host and the port that its base address names, over plain HTTP;
with them the start fails, with the first base address that names such a host.
-/
theorem ofConfig_of_faults {c : Config} (hc : c.faults = []) :
    ((∀ who, isServable (c.bases.get who)) →
      ∃ ds, Destinations.ofBases c.bases = .ok ds ∧ ofConfig c = .ok (setUp c ds) ∧
        ∀ who, (ds.get who).IsOf (c.bases.get who)) ∧
    ∀ who, collaborators.find? (fun who => !isServable (c.bases.get who)) = some who →
      ofConfig c = .error (.validation [⟨"upstreams", .unusable
        (BaseFault.badAuthority (c.bases.get who) .badCharacter).message⟩]) := by
  have hchecked := Config.checkBase_of_faults hc
  refine ⟨fun hall => ?_, fun who hfirst => ?_⟩
  · obtain ⟨ds, hds, hof⟩ := Destinations.ofBases_of_isServable hchecked hall
    exact ⟨ds, hds, ofConfig_of_ok hc hds, hof⟩
  · exact ofConfig_of_error hc (Destinations.ofBases_of_find? hchecked hfirst)

/-- Settings with a base address in another spelling than that of its host. -/
def spelledConfig : Config :=
  { bases := { backend := "http://user@Backend.Example:80/", node := "http://[0:0::1]:7000" } }

theorem ofConfig_of_faults_spelled : spelledConfig.faults = [] ∧
    ∃ ds, ofConfig spelledConfig = .ok (setUp spelledConfig ds) ∧
      serverOf? 80 ds.backend.authority = some ("backend.example", 80) ∧
      serverOf? 80 ds.node.authority = some ("[::1]", 7000) := by
  have hc : spelledConfig.faults = [] := by decide +kernel
  refine ⟨hc, ?_⟩
  obtain ⟨ds, -, hstart, hof⟩ := (ofConfig_of_faults hc).1 fun who => by
    cases who <;> decide +kernel
  have hbackend : Url.ofText "http://user@Backend.Example:80/" =
      .ok ⟨"http", some "backend.example", none, [[]], none, none⟩ := by decide +kernel
  have hnode : Url.ofText "http://[0:0::1]:7000" =
      .ok ⟨"http", some "[::1]", some 7000, [[]], none, none⟩ := by decide +kernel
  refine ⟨ds, hstart, ?_, ?_⟩
  · obtain ⟨url, host, hurl, hhost, hserver⟩ := (hof .backend).server
    obtain rfl := Except.ok.inj (hbackend.symm.trans hurl)
    obtain rfl := Option.some.inj hhost
    exact hserver
  · obtain ⟨url, host, hurl, hhost, hserver⟩ := (hof .node).server
    obtain rfl := Except.ok.inj (hnode.symm.trans hurl)
    obtain rfl := Option.some.inj hhost
    exact hserver

/-- Settings that the check accepts and that cannot be worked by. -/
def quotedConfig : Config := { bases := { backend := "http://a\"b" } }

theorem start_quoted : ¬∀ c : Config, c.faults = [] → ∃ g, ofConfig c = .ok g := by
  intro h
  have hc : quotedConfig.faults = [] := by decide +kernel
  have hbad : Destinations.ofBases quotedConfig.bases =
      .error (.badAuthority "http://a\"b" .badCharacter) := by decide +kernel
  obtain ⟨g, hg⟩ := h quotedConfig hc
  rw [ofConfig_of_error hc hbad] at hg
  cases hg

end Gateway

end Gatehouse
