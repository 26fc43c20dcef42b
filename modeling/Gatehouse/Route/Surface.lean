import Gatehouse.Route.Table

namespace Gatehouse

/-- The routes of the gateway, as they are declared. -/
def surfaceRoutes : List Route :=
  [{ name := "auth", path := .leading "/auth", methods := .any, target := .auth,
     requiresAuth := false, transform := .keep },
   { name := "tenants", path := .exact "/api/tenants",
     methods := .only [.get, .post, .options], target := .backend, requiresAuth := true,
     transform := .assertIdentity "firebase_uid" (some "/api/user/\x7bidentity\x7d/tenants") },
   { name := "tenant", path := .template "/api/tenants/\x7bid\x7d",
     methods := .only [.get, .put, .delete, .options], target := .backend, requiresAuth := true,
     transform := .keep },
   { name := "apikeys", path := .leading "/api/apikeys",
     methods := .only [.get, .post, .delete, .options], target := .backend, requiresAuth := true,
     transform := .keep },
   { name := "nodes", path := .leading "/api/nodes",
     methods := .only [.get, .post, .delete, .options], target := .node, requiresAuth := true,
     transform := .replaceStart "/api/nodes" "/node" },
   { name := "monitoring_nodes", path := .exact "/api/monitoring/nodes",
     methods := .only [.get, .options], target := .monitoring, requiresAuth := false,
     transform := .replaceStart "/api/monitoring" "/monitoring" },
   { name := "monitoring_redis", path := .template "/api/monitoring/redis/\x7bid\x7d",
     methods := .only [.get, .options], target := .monitoring, requiresAuth := false,
     transform := .replaceStart "/api/monitoring" "/monitoring" }]

def surface : RouteTable := .ofRoutes surfaceRoutes

end Gatehouse
