import Gatehouse.Proofs.Grant
import Gatehouse.Proofs.Startup
import Gatehouse.Proofs.Visible

namespace Gatehouse

namespace OriginPolicy

/-- Whatever else comes with it, this value of the origin field is granted with these octets. -/
def Grants (policy : OriginPolicy) (v : HeaderValue) (octets : List UInt8) : Prop :=
  ∀ h : Headers, h.first? .origin = some v →
    ∃ granted, policy.decide h = .allow granted ∧ granted.octets = octets

/-- There is a value of the origin field that is granted with the octets of this origin. -/
def Honours (policy : OriginPolicy) (origin : String) : Prop :=
  ∃ v, policy.Grants v (octetsOf origin)

/-- Such a value that stays as it is when it is sent over a connection. -/
def HonoursSent (policy : OriginPolicy) (origin : String) : Prop :=
  ∃ v : HeaderValue, v.received = v ∧ policy.Grants v (octetsOf origin)

variable {policy : OriginPolicy} {origin : String} {v : HeaderValue} {octets : List UInt8}

theorem first?_origin (v : HeaderValue) : (Headers.empty.add .origin v).first? .origin = some v := by
  rw [Headers.first?, Headers.all_add_self]
  rfl

theorem grants_iff : policy.Grants v octets ↔
    v.octets = octets ∧ ∃ text, v.text? = some text ∧ text ∈ policy.allowed := by
  constructor
  · intro h
    obtain ⟨granted, hdecide, hoctets⟩ := h _ (first?_origin v)
    obtain ⟨hfirst, htext⟩ := decide_eq_allow_iff.mp hdecide
    rw [first?_origin] at hfirst
    cases hfirst
    exact ⟨hoctets, htext⟩
  · rintro ⟨hoctets, htext⟩ h hfirst
    exact ⟨v, decide_eq_allow_iff.mpr ⟨hfirst, htext⟩, hoctets⟩

theorem honours_iff (ho : origin ∈ policy.allowed) :
    policy.Honours origin ↔ IsVisible origin.toList := by
  constructor
  · rintro ⟨v, hv⟩
    obtain ⟨hoctets, text, ht, -⟩ := grants_iff.mp hv
    exact HeaderValue.isVisible_of_text? ht hoctets
  · intro hvisible
    obtain ⟨v, hv⟩ := HeaderValue.ofText?_of_isVisible hvisible
    have hoctets := HeaderValue.octets_of_ofText? hv
    refine ⟨v, grants_iff.mpr ⟨hoctets, origin, ?_, ho⟩⟩
    rw [HeaderValue.text?, HeaderValue.chars?_of_octets hoctets hvisible, Option.map_some,
      String.ofList_toList]

theorem honoursSent_iff (ho : origin ∈ policy.allowed) : policy.HonoursSent origin ↔
    IsVisible origin.toList ∧ trimBlank origin.toList = origin.toList := by
  constructor
  · rintro ⟨v, hsent, hv⟩
    have hvisible := (honours_iff ho).mp ⟨v, hv⟩
    exact ⟨hvisible, (HeaderValue.received_eq_iff (grants_iff.mp hv).1 hvisible).mp hsent⟩
  · rintro ⟨hvisible, htrim⟩
    obtain ⟨v, hv⟩ := (honours_iff ho).mpr hvisible
    exact ⟨v, (HeaderValue.received_eq_iff (grants_iff.mp hv).1 hvisible).mpr htrim, hv⟩

end OriginPolicy

theorem OriginDecision.eq_allow_of_mem_grant {decision : OriginDecision} {granted : HeaderValue}
    (h : ⟨.allowOrigin, granted⟩ ∈ decision.grant) : decision = .allow granted := by
  cases decision with
  | deny => cases h
  | allow origin =>
    have hvalue : granted = origin := by simpa [grant, HeaderName.allowOrigin,
      HeaderName.allowCredentials, HeaderName.allowMethods, HeaderName.allowHeaders] using h
    rw [hvalue]

namespace Config

/-- The policy that a gateway with these settings decides by. -/
def policy (c : Config) : OriginPolicy := ⟨c.cors.allowedOrigins⟩

/--
An origin listed in settings without a fault is granted as it is listed exactly if it is visible
text, and by a value that can be sent exactly if there are no blanks around it either. With any
other character in it, it is listed in vain: no request is ever granted it. The answers of the
gateway grant what the policy allows and nothing else.
-/
theorem validate_honours {σ : Type} {c d : Config} {origin : String} (hc : c.validate = .ok d)
    (ho : origin ∈ c.cors.allowedOrigins) :
    (d.policy.Honours origin ↔ IsVisible origin.toList) ∧
    (d.policy.HonoursSent origin ↔
      IsVisible origin.toList ∧ trimBlank origin.toList = origin.toList) ∧
    (¬IsVisible origin.toList → ∀ h granted, d.policy.decide h = .allow granted →
      granted.octets ≠ octetsOf origin) ∧
    ∀ g, Gateway.ofConfig c = .ok g → g.policy = d.policy ∧
      ∀ (a : Arrival) (answer : σ → Call → Outcome × σ) (s : σ) (granted : HeaderValue),
        ⟨.allowOrigin, granted⟩ ∈ ((g.serve a).run answer s).result.headers.accessControl →
          d.policy.decide a.request.headers = .allow granted := by
  obtain ⟨-, rfl⟩ := validate_eq_ok_iff.mp hc
  refine ⟨OriginPolicy.honours_iff ho, OriginPolicy.honoursSent_iff ho, ?_, fun g hg => ?_⟩
  · intro hvisible h granted hdecide hoctets
    obtain ⟨-, text, htext, -⟩ := OriginPolicy.decide_eq_allow_iff.mp hdecide
    exact hvisible (HeaderValue.isVisible_of_text? htext hoctets)
  · obtain ⟨-, ds, -, rfl⟩ := Gateway.ofConfig_ok_inv hg
    refine ⟨rfl, fun a answer s granted hmem => ?_⟩
    obtain ⟨hgrant, -⟩ := Gateway.serve_decided _ a answer s
    rw [hgrant] at hmem
    exact OriginDecision.eq_allow_of_mem_grant hmem

theorem validate_honours_usual :
    ({} : Config).validate = .ok {} ∧
      "http://localhost:5173" ∈ ({} : Config).cors.allowedOrigins ∧
      ({} : Config).policy.HonoursSent "http://localhost:5173" := by
  have hc : ({} : Config).validate = .ok {} := validate_eq_ok_iff.mpr ⟨by decide +kernel, rfl⟩
  have ho : "http://localhost:5173" ∈ ({} : Config).cors.allowedOrigins := by decide
  exact ⟨hc, ho, (@validate_honours Unit _ _ _ hc ho).2.1.mpr ⟨by decide +kernel, by decide +kernel⟩⟩

/-- Settings that list an origin by the name it is shown with and not by the one it is sent with. -/
def shownOrigin : Config := { cors := ⟨["http://münchen.example"]⟩ }

/-- No fault is found in them, but the origin cannot be granted. -/
theorem shownOrigin_in_vain :
    shownOrigin.validate = .ok shownOrigin ∧
      "http://münchen.example" ∈ shownOrigin.cors.allowedOrigins ∧
      ¬shownOrigin.policy.Honours "http://münchen.example" := by
  have ho : "http://münchen.example" ∈ shownOrigin.cors.allowedOrigins := List.mem_singleton_self _
  refine ⟨validate_eq_ok_iff.mpr ⟨by decide +kernel, rfl⟩, ho, fun h => ?_⟩
  exact absurd ((OriginPolicy.honours_iff ho).mp h) (by decide +kernel)

end Config

end Gatehouse
