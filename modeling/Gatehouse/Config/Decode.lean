import Gatehouse.Config.Basic
import Gatehouse.Config.Datum

namespace Gatehouse

/-- How one name of a section changes what has been decoded so far. -/
structure Setting (σ : Type) where
  name : String
  decode? : Datum → σ → Option σ

namespace Datum

def bool? : Datum → Option Bool
  | bool b => some b
  | _ => none

def text? : Datum → Option String
  | text s => some s
  | _ => none

def word? : Datum → Option Nat
  | whole n => if 0 ≤ n ∧ n < UInt64.size then some n.toNat else none
  | _ => none

def texts? : Datum → Option (List String)
  | list items => items.mapM text?
  | _ => none

end Datum

/-- Decodes the settings of a list one by one; those it does not reach keep their defaults. -/
def decodeList {σ : Type} (surplus : Bool) : List (Setting σ) → List Datum → σ → Option σ
  | [], items, s => if surplus || items.isEmpty then some s else none
  | _, [], s => some s
  | setting :: more, item :: rest, s =>
    (setting.decode? item s).bind (decodeList surplus more rest)

def decodeTable {σ : Type} (settings : List (Setting σ)) (entries : List (String × Datum)) (s : σ) :
    Option σ :=
  settings.foldlM (fun s setting =>
    match entries.lookup setting.name with
    | some d => setting.decode? d s
    | none => some s) s

/-- Decodes a section; `surplus` says whether a list may be longer than the section. -/
def decodeSection {σ : Type} (surplus : Bool) (settings : List (Setting σ)) (start : σ) :
    Datum → Option σ
  | .list items => decodeList surplus settings items start
  | .table entries => decodeTable settings entries start
  | _ => none

/-- A setting that one reader decodes and one update puts in place. -/
def Setting.of {σ α : Type} (name : String) (read? : Datum → Option α) (put : α → σ → σ) :
    Setting σ :=
  ⟨name, fun d s => (read? d).map (put · s)⟩

def listenerSettings : List (Setting ListenerConfig) :=
  [.of "bind_address" Datum.text? fun v s => { s with bindAddress := v }]

def basesSettings : List (Setting BasesConfig) :=
  [.of "auth" Datum.text? fun v s => { s with auth := v },
   .of "backend" Datum.text? fun v s => { s with backend := v },
   .of "node" Datum.text? fun v s => { s with node := v },
   .of "monitoring" Datum.text? fun v s => { s with monitoring := v }]

def corsSettings : List (Setting CorsConfig) :=
  [.of "allowed_origins" Datum.texts? fun v s => { s with allowedOrigins := v }]

def timeoutSettings : List (Setting TimeoutConfig) :=
  [.of "connect_secs" Datum.word? fun v s => { s with connectSecs := v },
   .of "forward_secs" Datum.word? fun v s => { s with forwardSecs := v },
   .of "request_secs" Datum.word? fun v s => { s with requestSecs := v }]

def limitSettings : List (Setting LimitConfig) :=
  [.of "max_body_bytes" Datum.word? fun v s => { s with maxBodyBytes := v }]

def observabilitySettings : List (Setting ObservabilityConfig) :=
  [.of "log_filter" Datum.text? fun v s => { s with logFilter := v },
   .of "metrics_enabled" Datum.bool? fun v s => { s with metricsEnabled := v },
   .of "metrics_address" Datum.text? fun v s => { s with metricsAddress := v }]

def configSettings (surplus : Bool) : List (Setting Config) :=
  [.of "listener" (decodeSection surplus listenerSettings {}) fun v s => { s with listener := v },
   .of "upstreams" (decodeSection surplus basesSettings {}) fun v s => { s with bases := v },
   .of "cors" (decodeSection surplus corsSettings {}) fun v s => { s with cors := v },
   .of "timeouts" (decodeSection surplus timeoutSettings {}) fun v s => { s with timeouts := v },
   .of "limits" (decodeSection surplus limitSettings {}) fun v s => { s with limits := v },
   .of "observability" (decodeSection surplus observabilitySettings {}) fun v s =>
     { s with observability := v }]

/-- The settings that a datum holds, if each has a value of its kind. -/
def Config.ofDatum? (surplus : Bool) (d : Datum) : Option Config :=
  decodeSection surplus (configSettings surplus) {} d

/-- Settings from a JSON value, whose lists may not be longer than a section. -/
def Config.ofJson? (v : Json) : Option Config := Config.ofDatum? false (.ofJson v)

end Gatehouse
