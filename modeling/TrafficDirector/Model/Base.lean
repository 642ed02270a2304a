import TrafficDirector.Model.Gateway

/-!
# TrafficDirector — `TrafficDirectorManager`

The methods of the base class, one `Exec` program each, under the source's names. Logging
lines matter only where they read `.name` or `.url` of a slot that may be `None`: that read
raises `AttributeError` before anything after it runs, and is kept as an `attr` step.

Near-identical methods share one definition with parameters, and each method is that
definition applied to its own slot, collection and base name:

* `deleteResource` — the `delete_*` methods of the form
  `if force: name = make_resource_name(…) elif self.X: name = self.X.name else: return`.
  `delete_alternative_url_map`, the two target-proxy deletes and the firewall deletes differ and
  keep their own bodies.
* `createBackendServiceOf`, `loadBackendServiceOf`, `addNegBackendsOf`, `patchBackendsOf`,
  `removeAllBackendsOf`, `waitForBackendsHealthyStatusOf` — the default, alternative and
  affinity backend-service methods.
* `createForwardingRuleOf` — the three forwarding-rule creates.
* `createThenGet` — the create-then-fetch shape of every subclass create.
-/

namespace TrafficDirector

namespace TrafficDirectorManager

/-- Python's `TEST_AFFINITY_METADATA_KEY`. -/
def testAffinityMetadataKey : String := "xds_md"

/-! ## Deletes -/

/-- The name a `delete_*` method deletes: recomputed from the naming tuple under `force`, read
from the slot otherwise, and `none` where the method returns on an `Absent` slot. -/
def deletionName (m : TrafficDirectorManager) (slot : Slot) (baseName : String) (force : Bool) :
    Option String :=
  if force then some (m.makeResourceName baseName) else (m.slots slot).map GcpResource.name

/-- The shared body of the `delete_*` methods: delete the resource by name, then clear the
slot. -/
def deleteResource (slot : Slot) (collection : Collection) (baseName : String) (force : Bool) :
    Exec Unit := do
  let m ← getManager
  match deletionName m slot baseName force with
  | none => pure ()
  | some name =>
    remoteDelete collection name
    storeSlot slot none

/-! ## Health check -/

/-- `create_health_check(protocol=GRPC, port=None)`: refuses a second health check. -/
def createHealthCheck (protocol : Option HealthCheckProtocol := some .GRPC)
    (port : Option Int := none) : Exec Unit := do
  let m ← getManager
  if let some healthCheck := m.slots .healthCheck then
    let existing := healthCheck.name
    throw (.valueError s!"Health check {existing} already created, delete it first")
  let protocol := protocol.getD .GRPC
  let name := m.makeResourceName healthCheckName
  let resource ← remoteCreate .healthChecks name (.healthCheck protocol port)
  storeSlot .healthCheck resource

def deleteHealthCheck (force : Bool := false) : Exec Unit :=
  deleteResource .healthCheck .healthChecks healthCheckName force

/-! ## Backend services -/

/-- The shared body of `create_backend_service`, `create_alternative_backend_service` and
`create_affinity_backend_service`: the current health check is passed as it is, `None`
included, and the variant's protocol is recorded after the create. -/
def createBackendServiceOf (variant : BackendServiceVariant) (baseName : String)
    (protocol : Option BackendServiceProtocol) (options : BackendServiceOptions) : Exec Unit := do
  let protocol := protocol.getD .GRPC
  let m ← getManager
  let name := m.makeResourceName baseName
  let resource ← remoteCreate .backendServices name
    (.backendService (m.slots .healthCheck) protocol options m.enableDualstack)
  storeSlot variant.slot resource
  modifyManager (·.setProtocol variant protocol)

def createBackendService (protocol : Option BackendServiceProtocol := some .GRPC)
    (subsetSize : Option Int := none) (affinityHeader : Option String := none)
    (localityLbPolicies : Option (List Json) := none) (outlierDetection : Option Json := none) :
    Exec Unit :=
  createBackendServiceOf .default backendServiceName protocol
    ⟨subsetSize, affinityHeader, localityLbPolicies, outlierDetection⟩

def createAlternativeBackendService (protocol : Option BackendServiceProtocol := some .GRPC) :
    Exec Unit :=
  createBackendServiceOf .alternative alternativeBackendServiceName protocol {}

def createAffinityBackendService (protocol : Option BackendServiceProtocol := some .GRPC) :
    Exec Unit :=
  createBackendServiceOf .affinity affinityBackendServiceName protocol
    { affinityHeader := some testAffinityMetadataKey }

/-- The shared body of the `load_*backend_service` methods: fetch by the recomputed name. -/
def loadBackendServiceOf (variant : BackendServiceVariant) (baseName : String) : Exec Unit := do
  let name := (← getManager).makeResourceName baseName
  let resource ← remoteGet .backendServices name
  storeSlot variant.slot resource

def loadBackendService : Exec Unit := loadBackendServiceOf .default backendServiceName
def loadAlternativeBackendService : Exec Unit :=
  loadBackendServiceOf .alternative alternativeBackendServiceName
def loadAffinityBackendService : Exec Unit :=
  loadBackendServiceOf .affinity affinityBackendServiceName

def deleteBackendService (force : Bool := false) : Exec Unit :=
  deleteResource .backendService .backendServices backendServiceName force
def deleteAlternativeBackendService (force : Bool := false) : Exec Unit :=
  deleteResource .alternativeBackendService .backendServices alternativeBackendServiceName force
def deleteAffinityBackendService (force : Bool := false) : Exec Unit :=
  deleteResource .affinityBackendService .backendServices affinityBackendServiceName force

/-! ## Backends -/

/-- `_get_gcp_negs_in_zones`: one blocking lookup per zone, collected into a set. -/
def _getGcpNegsInZones (name : String) (zones : List String) : Exec (Finset NegGcpResource) :=
  zones.foldlM (fun backends zone => do
    let neg ← waitForNetworkEndpointGroup name zone
    return insert neg backends) ∅

/-- The shared body of the `*_patch_backends` methods: the whole current backend set is sent. -/
def patchBackendsOf (variant : BackendServiceVariant) (maxRatePerEndpoint : Option Int)
    (circuitBreakers : Option Json) : Exec Unit := do
  let m ← getManager
  let backendService ← attr (m.slots variant.slot) "name"
  issue (.backendServicePatchBackends backendService (m.backends variant) maxRatePerEndpoint
    circuitBreakers)

def backendServicePatchBackends (maxRatePerEndpoint : Option Int := none)
    (circuitBreakers : Option Json := none) : Exec Unit :=
  patchBackendsOf .default maxRatePerEndpoint circuitBreakers
def alternativeBackendServicePatchBackends (circuitBreakers : Option Json := none) : Exec Unit :=
  patchBackendsOf .alternative none circuitBreakers
def affinityBackendServicePatchBackends : Exec Unit :=
  patchBackendsOf .affinity none none

/-- The shared body of the `*_add_neg_backends` methods: union the groups found, refuse an
empty set, then patch. -/
def addNegBackendsOf (variant : BackendServiceVariant) (message : String) (name : String)
    (zones : List String) (patch : Exec Unit) : Exec Unit := do
  let negs ← _getGcpNegsInZones name zones
  modifyManager fun m => m.setBackends variant (m.backends variant ∪ negs)
  if (← getManager).backends variant = ∅ then throw (.valueError message)
  patch

def backendServiceAddNegBackends (name : String) (zones : List String)
    (maxRatePerEndpoint : Option Int := none) : Exec Unit :=
  addNegBackendsOf .default "Unexpected: no backends were loaded." name zones
    (backendServicePatchBackends maxRatePerEndpoint)
def alternativeBackendServiceAddNegBackends (name : String) (zones : List String) : Exec Unit :=
  addNegBackendsOf .alternative "Unexpected: no alternative backends were loaded." name zones
    alternativeBackendServicePatchBackends
def affinityBackendServiceAddNegBackends (name : String) (zones : List String) : Exec Unit :=
  addNegBackendsOf .affinity "Unexpected: no affinity backends were loaded." name zones
    affinityBackendServicePatchBackends

/-- `backend_service_remove_neg_backends`: the set difference, then a patch with what is left. -/
def backendServiceRemoveNegBackends (name : String) (zones : List String) : Exec Unit := do
  let negs ← _getGcpNegsInZones name zones
  modifyManager fun m => m.setBackends .default (m.backends .default \ negs)
  backendServicePatchBackends

/-- The shared body of the `*_remove_all_backends` methods. -/
def removeAllBackendsOf (variant : BackendServiceVariant) : Exec Unit := do
  let backendService ← attr ((← getManager).slots variant.slot) "name"
  issue (.backendServiceRemoveAllBackends backendService)

def backendServiceRemoveAllBackends : Exec Unit := removeAllBackendsOf .default
def alternativeBackendServiceRemoveAllBackends : Exec Unit := removeAllBackendsOf .alternative
def affinityBackendServiceRemoveAllBackends : Exec Unit := removeAllBackendsOf .affinity

/-- The shared body of the `wait_for_*backends_healthy_status` methods: the slot is passed as it
is. -/
def waitForBackendsHealthyStatusOf (variant : BackendServiceVariant) (replicaCount : Int) :
    Exec Unit := do
  let m ← getManager
  issue (.waitForBackendsHealthyStatus (m.slots variant.slot) (m.backends variant) replicaCount)

/-- `wait_for_backends_healthy_status`: unlike the two other variants, its log line reads
`backend_service.name`. -/
def waitForBackendsHealthyStatus (replicaCount : Int := 1) : Exec Unit := do
  let _ ← attr ((← getManager).slots .backendService) "name"
  waitForBackendsHealthyStatusOf .default replicaCount
def waitForAlternativeBackendsHealthyStatus (replicaCount : Int := 1) : Exec Unit :=
  waitForBackendsHealthyStatusOf .alternative replicaCount
def waitForAffinityBackendsHealthyStatus (replicaCount : Int := 1) : Exec Unit :=
  waitForBackendsHealthyStatusOf .affinity replicaCount

/-! ## URL maps -/

/-- `_generate_url_map_body`: one host rule and one path matcher, both routing to the default
backend service unless a host-rule backend is given. -/
def _generateUrlMapBody (name matcherName : String) (srcHosts : List String)
    (dstDefaultBackendService : GcpResource)
    (dstHostRuleMatchBackendService : Option GcpResource := none) : Json :=
  let dstHostRuleMatchBackendService :=
    dstHostRuleMatchBackendService.getD dstDefaultBackendService
  .obj [("name", .str name), ("defaultService", .str dstDefaultBackendService.url),
    ("hostRules", .arr [.obj [("hosts", .arr (srcHosts.map Json.str)),
      ("pathMatcher", .str matcherName)]]),
    ("pathMatchers", .arr [.obj [("name", .str matcherName),
      ("defaultService", .str dstHostRuleMatchBackendService.url)]])]

def createUrlMap (srcHost : String) (srcPort : Int) : Exec GcpResource := do
  let srcAddress := s!"{srcHost}:{srcPort}"
  let m ← getManager
  let name := m.makeResourceName urlMapName
  let matcherName := m.makeResourceName urlMapPathMatcherName
  let backendService ← attr (m.slots .backendService) "name"
  let resource ← remoteCreateUrlMap
    (_generateUrlMapBody name matcherName [srcAddress] backendService)
  storeSlot .urlMap resource
  return resource

/-- `patch_url_map`: the current `url_map` is passed as it is, `None` included. -/
def patchUrlMap (srcHost : String) (srcPort : Int) (backendService : GcpResource) :
    Exec Unit := do
  let srcAddress := s!"{srcHost}:{srcPort}"
  let m ← getManager
  let name := m.makeResourceName urlMapName
  let matcherName := m.makeResourceName urlMapPathMatcherName
  issue (.patchUrlMap (m.slots .urlMap)
    (_generateUrlMapBody name matcherName [srcAddress] backendService))

def createUrlMapWithContent (urlMapBody : Json) : Exec GcpResource := do
  let resource ← remoteCreateUrlMap urlMapBody
  storeSlot .urlMap resource
  return resource

def deleteUrlMap (force : Bool := false) : Exec Unit :=
  deleteResource .urlMap .urlMaps urlMapName force

/-- `create_alternative_url_map`: routes to `alternative_backend_service` unless a backend
service is given. -/
def createAlternativeUrlMap (srcHost : String) (srcPort : Int)
    (backendService : Option GcpResource := none) : Exec GcpResource := do
  let m ← getManager
  let name := m.makeResourceName alternativeUrlMapName
  let srcAddress := s!"{srcHost}:{srcPort}"
  let matcherName := m.makeResourceName urlMapPathMatcherName
  let backendService ← attr (backendService.orElse fun _ => m.slots .alternativeBackendService)
    "name"
  let resource ← remoteCreateUrlMap
    (_generateUrlMapBody name matcherName [srcAddress] backendService)
  storeSlot .alternativeUrlMap resource
  return resource

/-- `delete_alternative_url_map`: the header of the other deletes, but the slot it clears is
`url_map`. -/
def deleteAlternativeUrlMap (force : Bool := false) : Exec Unit := do
  let m ← getManager
  match deletionName m .alternativeUrlMap alternativeUrlMapName force with
  | none => pure ()
  | some name =>
    remoteDelete .urlMaps name
    storeSlot .urlMap none

/-! ## Target proxies -/

/-- `create_target_proxy`: the proxy kind follows `backend_service_protocol`, and the kind flag
is set before `url_map` is read and before the create. -/
def createTargetProxy : Exec Unit := do
  let m ← getManager
  let name := m.makeResourceName targetProxyName
  let isHttp ← match m.protocol .default with
    | .GRPC => pure false
    | .HTTP2 => pure true
    | .UNSET => throw (.typeError "Unexpected backend service protocol")
  modifyManager fun m => { m with targetProxyIsHttp := isHttp }
  let urlMap ← attr (m.slots .urlMap) "name"
  let resource ← if isHttp then remoteCreate .targetHttpProxies name (.targetHttpProxy urlMap)
    else remoteCreate .targetGrpcProxies name (.targetGrpcProxy urlMap none)
  storeSlot .targetProxy resource

/-- `create_target_proxy_ipv6`: an HTTP proxy only. -/
def createTargetProxyIpv6 : Exec Unit := do
  let m ← getManager
  let name := m.makeResourceName targetProxyNameIpv6
  let urlMap ← attr (m.slots .urlMap) "name"
  let resource ← remoteCreate .targetHttpProxies name (.targetHttpProxy urlMap)
  storeSlot .targetProxyIpv6 resource

/-- `delete_target_grpc_proxy`: deletes from the GRPC collection whatever kind `target_proxy`
holds, then clears the slot and the kind flag. -/
def deleteTargetGrpcProxy (force : Bool := false) : Exec Unit := do
  let m ← getManager
  match deletionName m .targetProxy targetProxyName force with
  | none => pure ()
  | some name =>
    remoteDelete .targetGrpcProxies name
    storeSlot .targetProxy none
    modifyManager fun m => { m with targetProxyIsHttp := false }

/-- `delete_target_http_proxy`: without `force` it acts only on an HTTP `target_proxy`. -/
def deleteTargetHttpProxy (force : Bool := false) : Exec Unit := do
  let m ← getManager
  let name? := if force then some (m.makeResourceName targetProxyName)
    else if m.targetProxyIsHttp then (m.slots .targetProxy).map GcpResource.name else none
  match name? with
  | none => pure ()
  | some name =>
    remoteDelete .targetHttpProxies name
    storeSlot .targetProxy none
    modifyManager fun m => { m with targetProxyIsHttp := false }

def deleteTargetProxyIpv6 (force : Bool := false) : Exec Unit :=
  deleteResource .targetProxyIpv6 .targetHttpProxies targetProxyNameIpv6 force

/-- `create_alternative_target_proxy`: a GRPC proxy, allowed only when
`backend_service_protocol` is GRPC. -/
def createAlternativeTargetProxy : Exec Unit := do
  let m ← getManager
  let name := m.makeResourceName alternativeTargetProxyName
  if m.protocol .default = .GRPC then
    let alternativeUrlMap ← attr (m.slots .alternativeUrlMap) "name"
    let resource ← remoteCreate .targetGrpcProxies name
      (.targetGrpcProxy alternativeUrlMap (some false))
    storeSlot .alternativeTargetProxy resource
  else
    throw (.typeError "Unexpected backend service protocol")

def deleteAlternativeTargetGrpcProxy (force : Bool := false) : Exec Unit :=
  deleteResource .alternativeTargetProxy .targetGrpcProxies alternativeTargetProxyName force

/-! ## Forwarding rules -/

/-- The shared body of the three forwarding-rule creates: the log line reads the target
proxy's `.url`. -/
def createForwardingRuleOf (slot : Slot) (baseName : String) (proxySlot : Slot) (srcPort : Int)
    (ipAddress : Option String) : Exec GcpResource := do
  let m ← getManager
  let name := m.makeResourceName baseName
  let targetProxy ← attr (m.slots proxySlot) "url"
  let resource ← remoteCreate .forwardingRules name
    (.forwardingRule srcPort targetProxy m.networkUrl ipAddress)
  storeSlot slot resource
  return resource

def createForwardingRule (srcPort : Int) : Exec GcpResource :=
  createForwardingRuleOf .forwardingRule forwardingRuleName .targetProxy srcPort none
def createForwardingRuleIpv6 (srcPort : Int) : Exec GcpResource :=
  createForwardingRuleOf .forwardingRuleIpv6 forwardingRuleNameIpv6 .targetProxyIpv6 srcPort
    (some "::")
def createAlternativeForwardingRule (srcPort : Int) (ipAddress : String := "0.0.0.0") :
    Exec GcpResource :=
  createForwardingRuleOf .alternativeForwardingRule alternativeForwardingRuleName
    .alternativeTargetProxy srcPort (some ipAddress)

def deleteForwardingRule (force : Bool := false) : Exec Unit :=
  deleteResource .forwardingRule .forwardingRules forwardingRuleName force
def deleteForwardingRuleIpv6 (force : Bool := false) : Exec Unit :=
  deleteResource .forwardingRuleIpv6 .forwardingRules forwardingRuleNameIpv6 force
def deleteAlternativeForwardingRule (force : Bool := false) : Exec Unit :=
  deleteResource .alternativeForwardingRule .forwardingRules alternativeForwardingRuleName force

/-! ## Firewall rules -/

def _createFirewallRule (name sourceRange : String) (allowedPorts : List String) :
    Exec GcpResource := do
  remoteCreate .firewalls name (.firewallRule (← getManager).networkUrl sourceRange allowedPorts)

/-- `create_firewall_rules`: one rule per non-empty source range, each setting
`_ensure_firewall`. -/
def createFirewallRules (allowedPorts : List String) (sourceRange sourceRangeIpv6 : String) :
    Exec Unit := do
  if sourceRange ≠ "" then
    let resource ← _createFirewallRule ((← getManager).makeResourceName firewallRuleName)
      sourceRange allowedPorts
    storeSlot .firewallRule resource
    modifyManager fun m => { m with ensureFirewall := true }
  if sourceRangeIpv6 ≠ "" then
    let resource ← _createFirewallRule ((← getManager).makeResourceName firewallRuleNameIpv6)
      sourceRangeIpv6 allowedPorts
    storeSlot .firewallRuleIpv6 resource
    modifyManager fun m => { m with ensureFirewall := true }

/-- `_delete_firewall_rule`: a gateway error is caught ("Only warn on an unsuccessful fw rule
deletion") and reported as `False`. -/
def _deleteFirewallRule (name : String) : Exec Bool :=
  tryCatch (do remoteDelete .firewalls name; pure true) fun
    | .gcpError => pure false
    | e => throw e

/-- The shared body of `delete_firewall_rule` and `delete_firewall_rule_ipv6`: the slot is read
before `force`, and the slot is kept when the deletion failed. -/
def deleteFirewallRuleOf (slot : Slot) (baseName : String) (force : Bool) : Exec Unit := do
  let m ← getManager
  let name? := match m.slots slot with
    | some resource => some resource.name
    | none => if force then some (m.makeResourceName baseName) else none
  match name? with
  | none => pure ()
  | some name =>
    if ← _deleteFirewallRule name then storeSlot slot none

def deleteFirewallRule (force : Bool := false) : Exec Unit :=
  deleteFirewallRuleOf .firewallRule firewallRuleName force
def deleteFirewallRuleIpv6 (force : Bool := false) : Exec Unit :=
  deleteFirewallRuleOf .firewallRuleIpv6 firewallRuleNameIpv6 force

/-- `delete_firewall_rules`: only when `_ensure_firewall` is set, and it resets the flag
whatever the two deletions did. -/
def deleteFirewallRules (force : Bool := false) : Exec Unit := do
  if !(← getManager).ensureFirewall then return
  deleteFirewallRule force
  deleteFirewallRuleIpv6 force
  modifyManager fun m => { m with ensureFirewall := false }

/-! ## Composite setups and cleanup -/

def setupBackendForGrpc (protocol : Option BackendServiceProtocol := some .GRPC)
    (healthCheckPort : Option Int := none) : Exec Unit := do
  createHealthCheck (some .GRPC) healthCheckPort
  createBackendService protocol

/-- `setup_routing_rule_map_for_grpc`: the IPv6 proxy and forwarding rule only with
`enable_dualstack`. -/
def setupRoutingRuleMapForGrpc (serviceHost : String) (servicePort : Int) : Exec Unit := do
  let _ ← createUrlMap serviceHost servicePort
  createTargetProxy
  let _ ← createForwardingRule servicePort
  if (← getManager).enableDualstack then
    createTargetProxyIpv6
    let _ ← createForwardingRuleIpv6 servicePort

def setupForGrpc (serviceHost : String) (servicePort : Int)
    (backendProtocol : Option BackendServiceProtocol := some .GRPC)
    (healthCheckPort : Option Int := none) : Exec Unit := do
  setupBackendForGrpc backendProtocol healthCheckPort
  setupRoutingRuleMapForGrpc serviceHost servicePort

/-- `cleanup`: "Cleanup in the reverse order of creation". -/
def cleanup (force : Bool := false) : Exec Unit := do
  deleteFirewallRules force
  deleteForwardingRule force
  deleteAlternativeForwardingRule force
  deleteTargetHttpProxy force
  deleteTargetGrpcProxy force
  (do
    if (← getManager).enableDualstack then
      deleteForwardingRuleIpv6 force
      deleteTargetProxyIpv6 force)
  deleteAlternativeTargetGrpcProxy force
  deleteUrlMap force
  deleteAlternativeUrlMap force
  deleteBackendService force
  deleteAlternativeBackendService force
  deleteAffinityBackendService force
  deleteHealthCheck force

/-! ## The subclasses' create shape -/

/-- Create a resource, fetch it back, and store only the fetched handle: `create_mesh`, the
route creates and the policy creates of the subclasses. -/
def createThenGet (slot : Slot) (collection : Collection) (name : String) (body : Json) :
    Exec GcpResource := do
  let _ ← remoteCreate collection name (.body body)
  let resource ← remoteGet collection name
  storeSlot slot resource
  return resource

end TrafficDirectorManager

end TrafficDirector
