import Gatehouse.Config.Basic
import Gatehouse.Http.Target
import Gatehouse.Route.Table
import Gatehouse.Url.Basic

namespace Gatehouse

structure Destination where
  scheme : String
  authority : String
deriving DecidableEq, Repr

/-- Why a base address names no server that requests can be sent to. -/
inductive BaseFault where
  | notUrl (base : String) (fault : UrlFault)
  | noHost (base : String)
  | badScheme (base : String) (fault : TargetFault)
  | badAuthority (base : String) (fault : TargetFault)
deriving DecidableEq, Repr

def BaseFault.message : BaseFault → String
  | .notUrl base fault => "invalid upstream '" ++ base ++ "': " ++ fault.message
  | .noHost base => "upstream '" ++ base ++ "' has no host"
  | .badScheme base fault => "invalid scheme in '" ++ base ++ "': " ++ fault.message
  | .badAuthority base fault => "invalid authority in '" ++ base ++ "': " ++ fault.message

namespace Destination

def ofBase (base : String) : Except BaseFault Destination :=
  match Url.ofText base with
  | .error fault => .error (.notUrl base fault)
  | .ok url =>
    match url.authority? with
    | none => .error (.noHost base)
    | some authority =>
      if maxSchemeLength < url.scheme.length then .error (.badScheme base .schemeTooLong)
      else match readAuthority authority with
        | .ok authority => .ok ⟨url.scheme, authority⟩
        | .error fault => .error (.badAuthority base fault)

def target (d : Destination) (place : PathAndQuery) : RequestTarget :=
  .absolute d.scheme d.authority place

/-- The target of a request for a path and query given as text. -/
def targetOfText (d : Destination) (text : String) : Except TargetFault RequestTarget :=
  (PathAndQuery.ofText text).map d.target

end Destination

structure Destinations where
  auth : Destination
  backend : Destination
  node : Destination
  monitoring : Destination
deriving DecidableEq, Repr

namespace Destinations

/-- Reads the base addresses; the first one that cannot be used is reported. -/
def ofBases (b : BasesConfig) : Except BaseFault Destinations := do
  let auth ← Destination.ofBase b.auth
  let backend ← Destination.ofBase b.backend
  let node ← Destination.ofBase b.node
  let monitoring ← Destination.ofBase b.monitoring
  return { auth, backend, node, monitoring }

def get (d : Destinations) : Collaborator → Destination
  | .auth => d.auth
  | .backend => d.backend
  | .node => d.node
  | .monitoring => d.monitoring

end Destinations

end Gatehouse
