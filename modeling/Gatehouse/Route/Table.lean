import Gatehouse.Route.Pattern

namespace Gatehouse

/-- The services that stand behind the gateway. -/
inductive Collaborator where
  | auth
  | backend
  | node
  | monitoring
deriving DecidableEq, Repr

def Collaborator.name : Collaborator → String
  | auth => "auth"
  | backend => "backend"
  | node => "node"
  | monitoring => "monitoring"

/-- What happens to a request before it is sent on. -/
inductive Transform where
  | keep
  /-- A path that begins with `old` begins with `new` instead. -/
  | replaceStart (old new : String)
  /-- The caller's identity becomes `field` of a JSON body; a GET asks for `scopedPath` instead. -/
  | assertIdentity (field : String) (scopedPath : Option String)
deriving DecidableEq, Repr

namespace Transform

/-- Whether the caller has to be identified before the transform can be done. -/
def needsIdentity : Transform → Method → Bool
  | assertIdentity _ scopedPath, m => if m = Method.get then scopedPath.isSome else m.carriesBody
  | _, _ => false

/-- Whether the transform reads the body of a request of this method. -/
def readsBody : Transform → Method → Bool
  | assertIdentity _ _, m => m ≠ .get && m.carriesBody
  | _, _ => false

def display : Transform → String
  | keep => "-"
  | replaceStart old new => "rewrite " ++ old ++ " -> " ++ new
  | assertIdentity field none => "inject " ++ field
  | assertIdentity field (some path) => "inject " ++ field ++ " (GET -> " ++ path ++ ")"

end Transform

structure Route where
  name : String
  path : PathPattern
  methods : MethodSet
  target : Collaborator
  requiresAuth : Bool
  transform : Transform
deriving DecidableEq, Repr

/-- Why a request has no route. -/
inductive NoRoute where
  /-- No route covers the path. -/
  | path
  /-- Some route covers the path, and none of those takes the method. -/
  | method
deriving DecidableEq, Repr

structure RouteTable where
  routes : List Route
deriving Repr

namespace RouteTable

/-- Orders routes by falling specificity; equals keep the order they were declared in. -/
def ofRoutes (routes : List Route) : RouteTable :=
  ⟨routes.mergeSort fun a b => b.path.specificity.le a.path.specificity⟩

/-- The first route that covers the path and takes the method. -/
def resolve (t : RouteTable) (m : Method) (path : String) : Except NoRoute Route :=
  let covering := t.routes.filter (·.path.accepts path)
  match covering.find? (·.methods.allows m) with
  | some route => .ok route
  | none => .error (if covering.isEmpty then .path else .method)

end RouteTable

end Gatehouse
