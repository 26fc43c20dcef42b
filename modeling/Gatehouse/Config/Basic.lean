namespace Gatehouse

structure ListenerConfig where
  /-- Where the gateway listens. -/
  bindAddress : String := "0.0.0.0:8080"
deriving DecidableEq, Repr

/-- The base address of each collaborator. -/
structure BasesConfig where
  auth : String := "http://localhost:8000"
  backend : String := "http://localhost:5500"
  node : String := "http://localhost:7000"
  monitoring : String := "http://localhost:8001"
deriving DecidableEq, Repr

structure CorsConfig where
  /-- The origins that may read answers, each exactly as browsers declare it. -/
  allowedOrigins : List String := ["http://localhost:5173"]
deriving DecidableEq, Repr

/-- Deadlines in seconds. -/
structure TimeoutConfig where
  /-- To connect to a collaborator. -/
  connectSecs : Nat := 5
  /-- For a collaborator to start its answer. -/
  forwardSecs : Nat := 30
  /-- For a whole request. -/
  requestSecs : Nat := 60
deriving DecidableEq, Repr

structure LimitConfig where
  maxBodyBytes : Nat := 2 * 1024 * 1024
deriving DecidableEq, Repr

structure ObservabilityConfig where
  logFilter : String := "api_gateway=info,tower_http=info"
  metricsEnabled : Bool := false
  metricsAddress : String := "0.0.0.0:9090"
deriving DecidableEq, Repr

structure Config where
  listener : ListenerConfig := {}
  bases : BasesConfig := {}
  cors : CorsConfig := {}
  timeouts : TimeoutConfig := {}
  limits : LimitConfig := {}
  observability : ObservabilityConfig := {}
deriving DecidableEq, Repr

end Gatehouse
