import Gatehouse.Config.Basic
import Gatehouse.Net.Address
import Gatehouse.Text.Blank
import Gatehouse.Url.Basic

namespace Gatehouse

/-- Why a setting cannot be honoured. -/
inductive Complaint where
  | notSocketAddress (value : String)
  | notUrl (value : String) (fault : UrlFault)
  | badScheme (scheme : String)
  | noHost (value : String)
  | hasPlace (value : String)
  | noOrigin
  | wildcardOrigin
  | notOrigin (value : String)
  | notPositive
  /-- A base address is a URL that requests cannot be sent to. -/
  | unusable (reason : String)
deriving DecidableEq, Repr

def Complaint.message : Complaint → String
  | notSocketAddress v => "'" ++ v ++ "' is not a socket address"
  | notUrl v fault => "'" ++ v ++ "' is not a URL: " ++ fault.message
  | badScheme scheme => "scheme '" ++ scheme ++ "' is not supported, use http"
  | noHost v => "'" ++ v ++ "' has no host"
  | hasPlace v => "'" ++ v ++ "' must not carry a path or query"
  | noOrigin => "at least one origin is required"
  | wildcardOrigin => "wildcard origin cannot be combined with credentials"
  | notOrigin v => "'" ++ v ++ "' is not an origin"
  | notPositive => "must be greater than zero"
  | unusable reason => reason

structure ConfigFault where
  /-- The section and the name of the setting. -/
  field : String
  complaint : Complaint
deriving DecidableEq, Repr

def ConfigFault.text (f : ConfigFault) : String := f.field ++ ": " ++ f.complaint.message

def checkAddress (value : String) : List Complaint :=
  if (SocketAddress.ofText? value).isSome then [] else [.notSocketAddress value]

/-- A base address is a plain HTTP URL of a server and nothing more. -/
def checkBase (value : String) : List Complaint :=
  match Url.ofText value with
  | .error fault => [.notUrl value fault]
  | .ok url =>
    if url.scheme ≠ "http" then [.badScheme url.scheme]
    else if url.host.isNone then [.noHost value]
    else if !url.isBare then [.hasPlace value]
    else []

def checkOrigin (value : String) : List Complaint :=
  if value = "*" then [.wildcardOrigin]
  else if (trimBlank value.toList).isEmpty || value.toList.getLast? = some '/' then
    [.notOrigin value]
  else []

def checkOrigins (values : List String) : List Complaint :=
  (if values.isEmpty then [.noOrigin] else []) ++ values.flatMap checkOrigin

def checkPositive (n : Nat) : List Complaint := if n = 0 then [.notPositive] else []

namespace Config

/-- The address for metrics matters only when they are offered. -/
def checkMetrics (o : ObservabilityConfig) : List Complaint :=
  if o.metricsEnabled then checkAddress o.metricsAddress else []

/-- The settings that can be at fault, each with what is wrong with it. -/
def complaints (c : Config) : List (String × List Complaint) :=
  [("listener.bind_address", checkAddress c.listener.bindAddress),
   ("upstreams.auth", checkBase c.bases.auth),
   ("upstreams.backend", checkBase c.bases.backend),
   ("upstreams.node", checkBase c.bases.node),
   ("upstreams.monitoring", checkBase c.bases.monitoring),
   ("cors.allowed_origins", checkOrigins c.cors.allowedOrigins),
   ("timeouts.connect_secs", checkPositive c.timeouts.connectSecs),
   ("timeouts.forward_secs", checkPositive c.timeouts.forwardSecs),
   ("timeouts.request_secs", checkPositive c.timeouts.requestSecs),
   ("limits.max_body_bytes", checkPositive c.limits.maxBodyBytes),
   ("observability.metrics_address", checkMetrics c.observability)]

/-- Everything that is wrong with the settings. -/
def faults (c : Config) : List ConfigFault :=
  c.complaints.flatMap fun (field, found) => found.map (⟨field, ·⟩)

end Config

end Gatehouse
