import TrafficDirector.Model.Base

/-!
# TrafficDirector — `TrafficDirectorAppNetManager` and `TrafficDirectorSecureManager`

The two subclasses add their own slots on top of the base class's: the mesh and the two
routes, and the server/client TLS, authorization and endpoint policies. Every create of theirs
has the create-then-fetch shape `createThenGet`; the one patch of an existing resource is
`backend_service_apply_client_mtls_policy`. Each overrides `cleanup`: the mesh layer deletes
its resources before the base cleanup, the security layer after it.
-/

namespace TrafficDirector

open TrafficDirectorManager

/-! ## `TrafficDirectorAppNetManager` -/

namespace TrafficDirectorAppNetManager

/-- `create_mesh`: an empty body, then the mesh is read back. -/
def createMesh : Exec GcpResource := do
  let name := (← getManager).makeResourceName meshName
  createThenGet .mesh .meshes name (.obj [])

def deleteMesh (force : Bool := false) : Exec Unit :=
  deleteResource .mesh .meshes meshName force

/-- `create_grpc_route`: a route of the mesh forwarding `host:port` to the fully qualified
default backend service. -/
def createGrpcRoute (srcHost : String) (srcPort : Int) : Exec GcpResource := do
  let host := s!"{srcHost}:{srcPort}"
  let m ← getManager
  let backendService ← attr (m.slots .backendService) "name"
  let serviceName := resourceFullName m.project backendService.name "backendServices"
  let mesh ← attr (m.slots .mesh) "url"
  let body : Json := .obj [("meshes", .arr [.str mesh.url]), ("hostnames", .str host),
    ("rules", .arr [.obj [("action", .obj [("destinations",
      .arr [.obj [("serviceName", .str serviceName)]])])]])]
  let name := m.makeResourceName grpcRouteName
  createThenGet .grpcRoute .grpcRoutes name body

def createGrpcRouteWithContent (body : Json) : Exec GcpResource := do
  let name := (← getManager).makeResourceName grpcRouteName
  createThenGet .grpcRoute .grpcRoutes name body

def createHttpRouteWithContent (body : Json) : Exec GcpResource := do
  let name := (← getManager).makeResourceName httpRouteName
  createThenGet .httpRoute .httpRoutes name body

def deleteGrpcRoute (force : Bool := false) : Exec Unit :=
  deleteResource .grpcRoute .grpcRoutes grpcRouteName force
def deleteHttpRoute (force : Bool := false) : Exec Unit :=
  deleteResource .httpRoute .httpRoutes httpRouteName force

/-- `cleanup`: routes, then the mesh, then the base cleanup. -/
def cleanup (force : Bool := false) : Exec Unit := do
  deleteHttpRoute force
  deleteGrpcRoute force
  deleteMesh force
  TrafficDirectorManager.cleanup force

end TrafficDirectorAppNetManager

/-! ## `TrafficDirectorSecureManager` -/

namespace TrafficDirectorSecureManager

def certificateProviderInstance : String := "google_cloud_private_spiffe"

/-- `_get_certificate_provider`. -/
def _getCertificateProvider : Json :=
  .obj [("certificateProviderInstance",
    .obj [("pluginInstance", .str certificateProviderInstance)])]

/-- `create_server_tls_policy`: nothing is created when neither TLS nor mTLS is asked for;
`tls` adds the server certificate and `mtls` the client validation CA. -/
def createServerTlsPolicy (tls mtls : Bool) : Exec Unit := do
  let name := (← getManager).makeResourceName serverTlsPolicyName
  if !tls && !mtls then return
  let certificateProvider := _getCertificateProvider
  let policy := (if tls then [("serverCertificate", certificateProvider)] else []) ++
    (if mtls then [("mtlsPolicy", Json.obj [("clientValidationCa", .arr [certificateProvider])])]
      else [])
  let _ ← createThenGet .serverTlsPolicy .serverTlsPolicies name (.obj policy)

def deleteServerTlsPolicy (force : Bool := false) : Exec Unit :=
  deleteResource .serverTlsPolicy .serverTlsPolicies serverTlsPolicyName force

def createAuthzPolicy (action : String) (rules : List Json) : Exec Unit := do
  let name := (← getManager).makeResourceName authzPolicyName
  let policy : Json := .obj [("action", .str action), ("rules", .arr rules)]
  let _ ← createThenGet .authzPolicy .authorizationPolicies name policy

def deleteAuthzPolicy (force : Bool := false) : Exec Unit :=
  deleteResource .authzPolicy .authorizationPolicies authzPolicyName force

/-- `create_endpoint_policy`: a GRPC-server policy matching all of the label
`app = "{namespace}-{name}"` and the port; the server TLS and authorization policies are
referenced when present. -/
def createEndpointPolicy (serverNamespace serverName : String) (serverPort : Int) :
    Exec Unit := do
  let m ← getManager
  let name := m.makeResourceName endpointPolicy
  let endpointMatcherLabels : Json := .arr [.obj [("labelName", .str "app"),
    ("labelValue", .str s!"{serverNamespace}-{serverName}")]]
  let portSelector : Json := .obj [("ports", .arr [.str (toString serverPort)])]
  let labelMatcherAll : Json := .obj [("metadataLabelMatchCriteria", .str "MATCH_ALL"),
    ("metadataLabels", endpointMatcherLabels)]
  let config := [("type", Json.str "GRPC_SERVER"), ("trafficPortSelector", portSelector),
    ("endpointMatcher", .obj [("metadataLabelMatcher", labelMatcherAll)])]
  let config := match m.slots .serverTlsPolicy with
    | some serverTlsPolicy => config ++ [("serverTlsPolicy", .str serverTlsPolicy.name)]
    | none => config
  let config := match m.slots .authzPolicy with
    | some authzPolicy => config ++ [("authorizationPolicy", .str authzPolicy.name)]
    | none => config
  let _ ← createThenGet .endpointPolicy .endpointPolicies name (.obj config)

def deleteEndpointPolicy (force : Bool := false) : Exec Unit :=
  deleteResource .endpointPolicy .endpointPolicies endpointPolicy force

/-- `create_client_tls_policy`: `tls` adds the server validation CA and `mtls` the client
certificate. -/
def createClientTlsPolicy (tls mtls : Bool) : Exec Unit := do
  let name := (← getManager).makeResourceName clientTlsPolicyName
  if !tls && !mtls then return
  let certificateProvider := _getCertificateProvider
  let policy := (if tls then [("serverValidationCa", Json.arr [certificateProvider])] else []) ++
    (if mtls then [("clientCertificate", certificateProvider)] else [])
  let _ ← createThenGet .clientTlsPolicy .clientTlsPolicies name (.obj policy)

def deleteClientTlsPolicy (force : Bool := false) : Exec Unit :=
  deleteResource .clientTlsPolicy .clientTlsPolicies clientTlsPolicyName force

/-- `backend_service_apply_client_mtls_policy`: patches the backend service's security settings
with the client TLS policy and the server's SPIFFE identity; without a client TLS policy it
only warns, and that warning reads `backend_service.name`. -/
def backendServiceApplyClientMtlsPolicy (serverNamespace serverName : String) : Exec Unit := do
  let m ← getManager
  match m.slots .clientTlsPolicy with
  | none => discard (attr (m.slots .backendService) "name")
  | some clientTlsPolicy =>
    let project := m.project
    let serverSpiffe := s!"spiffe://{project}.svc.id.goog/ns/{serverNamespace}/sa/{serverName}"
    let backendService ← attr (m.slots .backendService) "name"
    issue (.patchBackendService backendService (.obj [("securitySettings",
      .obj [("clientTlsPolicy", .str clientTlsPolicy.url),
        ("subjectAltNames", .arr [.str serverSpiffe])])]))

def setupServerSecurity (serverNamespace serverName : String) (serverPort : Int)
    (tls mtls : Bool := true) : Exec Unit := do
  createServerTlsPolicy tls mtls
  createEndpointPolicy serverNamespace serverName serverPort

def setupClientSecurity (serverNamespace serverName : String) (tls mtls : Bool := true) :
    Exec Unit := do
  createClientTlsPolicy tls mtls
  backendServiceApplyClientMtlsPolicy serverNamespace serverName

/-- `cleanup`: the base cleanup, then the endpoint, server TLS, client TLS and authorization
policies. -/
def cleanup (force : Bool := false) : Exec Unit := do
  TrafficDirectorManager.cleanup force
  deleteEndpointPolicy force
  deleteServerTlsPolicy force
  deleteClientTlsPolicy force
  deleteAuthzPolicy force

end TrafficDirectorSecureManager

end TrafficDirector
