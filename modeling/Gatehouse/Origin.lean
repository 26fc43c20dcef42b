import Gatehouse.Http.Header

namespace Gatehouse

inductive OriginDecision where
  /-- The origin is echoed back. -/
  | allow (origin : HeaderValue)
  | deny
deriving DecidableEq

structure OriginPolicy where
  allowed : List String

def allowedMethods : HeaderValue :=
  ⟨octetsOf "GET, POST, PUT, DELETE, OPTIONS", by decide⟩

def allowedHeaders : HeaderValue := ⟨octetsOf "Content-Type, Authorization", by decide⟩

def credentialsAllowed : HeaderValue := ⟨octetsOf "true", by decide⟩

def variesByOrigin : HeaderValue := ⟨octetsOf "origin", by decide⟩

/-- Only the first origin field counts, and only if it can be read and is listed exactly. -/
def OriginPolicy.decide (policy : OriginPolicy) (h : Headers) : OriginDecision :=
  match h.first? .origin with
  | none => .deny
  | some origin =>
    match origin.text? with
    | some text => if policy.allowed.contains text then .allow origin else .deny
    | none => .deny

/-- The header fields of a response once the decision is written onto them. -/
def OriginDecision.apply : OriginDecision → Headers → Headers
  | deny, h => h
  | allow origin, h =>
    ((((h.set .allowOrigin origin).set .allowCredentials credentialsAllowed).set .allowMethods
      allowedMethods).set .allowHeaders allowedHeaders).add .vary variesByOrigin

end Gatehouse
