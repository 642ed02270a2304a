import TrafficDirector.Model.Subclasses

/-!
# TrafficDirector — runs of public method calls

A run is any sequence of public method calls on one manager, each started from the world the
previous one left, whether it returned or raised (a caller may catch and carry on). A manager
has the methods of its class: calling a subclass method on a manager of another class raises
`AttributeError` and changes nothing, and `cleanup` is the override of the manager's class.

`Reachable allowed w₀` is the set of worlds a run from `w₀` reaches when every call it makes
satisfies `allowed`; the theorems restrict runs through `allowed` (no create into a `Present`
slot, the IPv6 resources only under `enable_dualstack`, …).
-/

namespace TrafficDirector

open TrafficDirectorManager TrafficDirectorAppNetManager TrafficDirectorSecureManager

/-- A public method call of one of the three classes, with its arguments.
`find_unused_forwarding_rule_port` touches no slot and is modelled in `PortSearch`. -/
inductive Op
  -- TrafficDirectorManager
  | setupForGrpc (serviceHost : String) (servicePort : Int)
      (backendProtocol : Option BackendServiceProtocol) (healthCheckPort : Option Int)
  | setupBackendForGrpc (protocol : Option BackendServiceProtocol) (healthCheckPort : Option Int)
  | setupRoutingRuleMapForGrpc (serviceHost : String) (servicePort : Int)
  | cleanup (force : Bool)
  | createHealthCheck (protocol : Option HealthCheckProtocol) (port : Option Int)
  | deleteHealthCheck (force : Bool)
  | createBackendService (protocol : Option BackendServiceProtocol) (subsetSize : Option Int)
      (affinityHeader : Option String) (localityLbPolicies : Option (List Json))
      (outlierDetection : Option Json)
  | loadBackendService
  | deleteBackendService (force : Bool)
  | backendServiceAddNegBackends (name : String) (zones : List String)
      (maxRatePerEndpoint : Option Int)
  | backendServiceRemoveNegBackends (name : String) (zones : List String)
  | backendServicePatchBackends (maxRatePerEndpoint : Option Int) (circuitBreakers : Option Json)
  | backendServiceRemoveAllBackends
  | waitForBackendsHealthyStatus (replicaCount : Int)
  | createAlternativeBackendService (protocol : Option BackendServiceProtocol)
  | loadAlternativeBackendService
  | deleteAlternativeBackendService (force : Bool)
  | alternativeBackendServiceAddNegBackends (name : String) (zones : List String)
  | alternativeBackendServicePatchBackends (circuitBreakers : Option Json)
  | alternativeBackendServiceRemoveAllBackends
  | waitForAlternativeBackendsHealthyStatus (replicaCount : Int)
  | createAffinityBackendService (protocol : Option BackendServiceProtocol)
  | loadAffinityBackendService
  | deleteAffinityBackendService (force : Bool)
  | affinityBackendServiceAddNegBackends (name : String) (zones : List String)
  | affinityBackendServicePatchBackends
  | affinityBackendServiceRemoveAllBackends
  | waitForAffinityBackendsHealthyStatus (replicaCount : Int)
  | createUrlMap (srcHost : String) (srcPort : Int)
  | patchUrlMap (srcHost : String) (srcPort : Int) (backendService : GcpResource)
  | createUrlMapWithContent (urlMapBody : Json)
  | deleteUrlMap (force : Bool)
  | createAlternativeUrlMap (srcHost : String) (srcPort : Int)
      (backendService : Option GcpResource)
  | deleteAlternativeUrlMap (force : Bool)
  | createTargetProxy
  | createTargetProxyIpv6
  | deleteTargetGrpcProxy (force : Bool)
  | deleteTargetHttpProxy (force : Bool)
  | deleteTargetProxyIpv6 (force : Bool)
  | createAlternativeTargetProxy
  | deleteAlternativeTargetGrpcProxy (force : Bool)
  | createForwardingRule (srcPort : Int)
  | createForwardingRuleIpv6 (srcPort : Int)
  | deleteForwardingRule (force : Bool)
  | deleteForwardingRuleIpv6 (force : Bool)
  | createAlternativeForwardingRule (srcPort : Int) (ipAddress : String)
  | deleteAlternativeForwardingRule (force : Bool)
  | createFirewallRules (allowedPorts : List String) (sourceRange sourceRangeIpv6 : String)
  | deleteFirewallRules (force : Bool)
  | deleteFirewallRule (force : Bool)
  | deleteFirewallRuleIpv6 (force : Bool)
  -- TrafficDirectorAppNetManager
  | createMesh
  | deleteMesh (force : Bool)
  | createGrpcRoute (srcHost : String) (srcPort : Int)
  | createGrpcRouteWithContent (body : Json)
  | createHttpRouteWithContent (body : Json)
  | deleteGrpcRoute (force : Bool)
  | deleteHttpRoute (force : Bool)
  -- TrafficDirectorSecureManager
  | setupServerSecurity (serverNamespace serverName : String) (serverPort : Int) (tls mtls : Bool)
  | setupClientSecurity (serverNamespace serverName : String) (tls mtls : Bool)
  | createServerTlsPolicy (tls mtls : Bool)
  | deleteServerTlsPolicy (force : Bool)
  | createAuthzPolicy (action : String) (rules : List Json)
  | deleteAuthzPolicy (force : Bool)
  | createEndpointPolicy (serverNamespace serverName : String) (serverPort : Int)
  | deleteEndpointPolicy (force : Bool)
  | createClientTlsPolicy (tls mtls : Bool)
  | deleteClientTlsPolicy (force : Bool)
  | backendServiceApplyClientMtlsPolicy (serverNamespace serverName : String)

/-- A subclass method: on a manager of another class the attribute does not exist. -/
def onlyOn {α : Type} (cls : ManagerClass) (method : String) (x : Exec α) : Exec Unit := do
  if (← getManager).kind = cls then discard x else throw (.attributeError method)

/-- The `cleanup` override of a class. -/
def cleanupOf (cls : ManagerClass) (force : Bool) : Exec Unit :=
  match cls with
  | .base => TrafficDirectorManager.cleanup force
  | .appNet => TrafficDirectorAppNetManager.cleanup force
  | .secure => TrafficDirectorSecureManager.cleanup force

/-- Run one public method call. -/
def Op.run : Op → Exec Unit
  | .setupForGrpc host port protocol hcPort => TrafficDirectorManager.setupForGrpc host port protocol hcPort
  | .setupBackendForGrpc protocol hcPort => TrafficDirectorManager.setupBackendForGrpc protocol hcPort
  | .setupRoutingRuleMapForGrpc host port => TrafficDirectorManager.setupRoutingRuleMapForGrpc host port
  | .cleanup force => do cleanupOf (← getManager).kind force
  | .createHealthCheck protocol port => TrafficDirectorManager.createHealthCheck protocol port
  | .deleteHealthCheck force => TrafficDirectorManager.deleteHealthCheck force
  | .createBackendService protocol subsetSize affinityHeader policies outlier =>
    TrafficDirectorManager.createBackendService protocol subsetSize affinityHeader policies outlier
  | .loadBackendService => TrafficDirectorManager.loadBackendService
  | .deleteBackendService force => TrafficDirectorManager.deleteBackendService force
  | .backendServiceAddNegBackends name zones rate =>
    TrafficDirectorManager.backendServiceAddNegBackends name zones rate
  | .backendServiceRemoveNegBackends name zones =>
    TrafficDirectorManager.backendServiceRemoveNegBackends name zones
  | .backendServicePatchBackends rate breakers =>
    TrafficDirectorManager.backendServicePatchBackends rate breakers
  | .backendServiceRemoveAllBackends => TrafficDirectorManager.backendServiceRemoveAllBackends
  | .waitForBackendsHealthyStatus count => TrafficDirectorManager.waitForBackendsHealthyStatus count
  | .createAlternativeBackendService protocol =>
    TrafficDirectorManager.createAlternativeBackendService protocol
  | .loadAlternativeBackendService => TrafficDirectorManager.loadAlternativeBackendService
  | .deleteAlternativeBackendService force =>
    TrafficDirectorManager.deleteAlternativeBackendService force
  | .alternativeBackendServiceAddNegBackends name zones =>
    TrafficDirectorManager.alternativeBackendServiceAddNegBackends name zones
  | .alternativeBackendServicePatchBackends breakers =>
    TrafficDirectorManager.alternativeBackendServicePatchBackends breakers
  | .alternativeBackendServiceRemoveAllBackends =>
    TrafficDirectorManager.alternativeBackendServiceRemoveAllBackends
  | .waitForAlternativeBackendsHealthyStatus count =>
    TrafficDirectorManager.waitForAlternativeBackendsHealthyStatus count
  | .createAffinityBackendService protocol =>
    TrafficDirectorManager.createAffinityBackendService protocol
  | .loadAffinityBackendService => TrafficDirectorManager.loadAffinityBackendService
  | .deleteAffinityBackendService force => TrafficDirectorManager.deleteAffinityBackendService force
  | .affinityBackendServiceAddNegBackends name zones =>
    TrafficDirectorManager.affinityBackendServiceAddNegBackends name zones
  | .affinityBackendServicePatchBackends =>
    TrafficDirectorManager.affinityBackendServicePatchBackends
  | .affinityBackendServiceRemoveAllBackends =>
    TrafficDirectorManager.affinityBackendServiceRemoveAllBackends
  | .waitForAffinityBackendsHealthyStatus count =>
    TrafficDirectorManager.waitForAffinityBackendsHealthyStatus count
  | .createUrlMap host port => discard (TrafficDirectorManager.createUrlMap host port)
  | .patchUrlMap host port backendService =>
    TrafficDirectorManager.patchUrlMap host port backendService
  | .createUrlMapWithContent body => discard (TrafficDirectorManager.createUrlMapWithContent body)
  | .deleteUrlMap force => TrafficDirectorManager.deleteUrlMap force
  | .createAlternativeUrlMap host port backendService =>
    discard (TrafficDirectorManager.createAlternativeUrlMap host port backendService)
  | .deleteAlternativeUrlMap force => TrafficDirectorManager.deleteAlternativeUrlMap force
  | .createTargetProxy => TrafficDirectorManager.createTargetProxy
  | .createTargetProxyIpv6 => TrafficDirectorManager.createTargetProxyIpv6
  | .deleteTargetGrpcProxy force => TrafficDirectorManager.deleteTargetGrpcProxy force
  | .deleteTargetHttpProxy force => TrafficDirectorManager.deleteTargetHttpProxy force
  | .deleteTargetProxyIpv6 force => TrafficDirectorManager.deleteTargetProxyIpv6 force
  | .createAlternativeTargetProxy => TrafficDirectorManager.createAlternativeTargetProxy
  | .deleteAlternativeTargetGrpcProxy force =>
    TrafficDirectorManager.deleteAlternativeTargetGrpcProxy force
  | .createForwardingRule port => discard (TrafficDirectorManager.createForwardingRule port)
  | .createForwardingRuleIpv6 port =>
    discard (TrafficDirectorManager.createForwardingRuleIpv6 port)
  | .deleteForwardingRule force => TrafficDirectorManager.deleteForwardingRule force
  | .deleteForwardingRuleIpv6 force => TrafficDirectorManager.deleteForwardingRuleIpv6 force
  | .createAlternativeForwardingRule port ip =>
    discard (TrafficDirectorManager.createAlternativeForwardingRule port ip)
  | .deleteAlternativeForwardingRule force =>
    TrafficDirectorManager.deleteAlternativeForwardingRule force
  | .createFirewallRules ports range rangeIpv6 =>
    TrafficDirectorManager.createFirewallRules ports range rangeIpv6
  | .deleteFirewallRules force => TrafficDirectorManager.deleteFirewallRules force
  | .deleteFirewallRule force => TrafficDirectorManager.deleteFirewallRule force
  | .deleteFirewallRuleIpv6 force => TrafficDirectorManager.deleteFirewallRuleIpv6 force
  | .createMesh => onlyOn .appNet "create_mesh" TrafficDirectorAppNetManager.createMesh
  | .deleteMesh force => onlyOn .appNet "delete_mesh" (TrafficDirectorAppNetManager.deleteMesh force)
  | .createGrpcRoute host port => onlyOn .appNet "create_grpc_route" (TrafficDirectorAppNetManager.createGrpcRoute host port)
  | .createGrpcRouteWithContent body =>
    onlyOn .appNet "create_grpc_route_with_content" (TrafficDirectorAppNetManager.createGrpcRouteWithContent body)
  | .createHttpRouteWithContent body =>
    onlyOn .appNet "create_http_route_with_content" (TrafficDirectorAppNetManager.createHttpRouteWithContent body)
  | .deleteGrpcRoute force => onlyOn .appNet "delete_grpc_route" (TrafficDirectorAppNetManager.deleteGrpcRoute force)
  | .deleteHttpRoute force => onlyOn .appNet "delete_http_route" (TrafficDirectorAppNetManager.deleteHttpRoute force)
  | .setupServerSecurity ns name port tls mtls =>
    onlyOn .secure "setup_server_security" (TrafficDirectorSecureManager.setupServerSecurity ns name port tls mtls)
  | .setupClientSecurity ns name tls mtls =>
    onlyOn .secure "setup_client_security" (TrafficDirectorSecureManager.setupClientSecurity ns name tls mtls)
  | .createServerTlsPolicy tls mtls =>
    onlyOn .secure "create_server_tls_policy" (TrafficDirectorSecureManager.createServerTlsPolicy tls mtls)
  | .deleteServerTlsPolicy force =>
    onlyOn .secure "delete_server_tls_policy" (TrafficDirectorSecureManager.deleteServerTlsPolicy force)
  | .createAuthzPolicy action rules =>
    onlyOn .secure "create_authz_policy" (TrafficDirectorSecureManager.createAuthzPolicy action rules)
  | .deleteAuthzPolicy force => onlyOn .secure "delete_authz_policy" (TrafficDirectorSecureManager.deleteAuthzPolicy force)
  | .createEndpointPolicy ns name port =>
    onlyOn .secure "create_endpoint_policy" (TrafficDirectorSecureManager.createEndpointPolicy ns name port)
  | .deleteEndpointPolicy force =>
    onlyOn .secure "delete_endpoint_policy" (TrafficDirectorSecureManager.deleteEndpointPolicy force)
  | .createClientTlsPolicy tls mtls =>
    onlyOn .secure "create_client_tls_policy" (TrafficDirectorSecureManager.createClientTlsPolicy tls mtls)
  | .deleteClientTlsPolicy force =>
    onlyOn .secure "delete_client_tls_policy" (TrafficDirectorSecureManager.deleteClientTlsPolicy force)
  | .backendServiceApplyClientMtlsPolicy ns name =>
    onlyOn .secure "backend_service_apply_client_mtls_policy"
      (TrafficDirectorSecureManager.backendServiceApplyClientMtlsPolicy ns name)

/-- The slots whose `create_*` method a call runs (directly or inside a setup), as its
arguments and the manager's `enable_dualstack` decide. -/
def Op.createsInto (m : TrafficDirectorManager) : Op → List Slot
  | .setupForGrpc .. =>
    [.healthCheck, .backendService, .urlMap, .targetProxy, .forwardingRule] ++
      (if m.enableDualstack then [.targetProxyIpv6, .forwardingRuleIpv6] else [])
  | .setupBackendForGrpc .. => [.healthCheck, .backendService]
  | .setupRoutingRuleMapForGrpc .. =>
    [.urlMap, .targetProxy, .forwardingRule] ++
      (if m.enableDualstack then [.targetProxyIpv6, .forwardingRuleIpv6] else [])
  | .createHealthCheck .. => [.healthCheck]
  | .createBackendService .. => [.backendService]
  | .createAlternativeBackendService .. => [.alternativeBackendService]
  | .createAffinityBackendService .. => [.affinityBackendService]
  | .createUrlMap .. | .createUrlMapWithContent .. => [.urlMap]
  | .createAlternativeUrlMap .. => [.alternativeUrlMap]
  | .createTargetProxy => [.targetProxy]
  | .createTargetProxyIpv6 => [.targetProxyIpv6]
  | .createAlternativeTargetProxy => [.alternativeTargetProxy]
  | .createForwardingRule .. => [.forwardingRule]
  | .createForwardingRuleIpv6 .. => [.forwardingRuleIpv6]
  | .createAlternativeForwardingRule .. => [.alternativeForwardingRule]
  | .createFirewallRules _ range rangeIpv6 =>
    (if range ≠ "" then [.firewallRule] else []) ++
      (if rangeIpv6 ≠ "" then [.firewallRuleIpv6] else [])
  | .createMesh => [.mesh]
  | .createGrpcRoute .. | .createGrpcRouteWithContent .. => [.grpcRoute]
  | .createHttpRouteWithContent .. => [.httpRoute]
  | .setupServerSecurity _ _ _ tls mtls =>
    (if tls || mtls then [.serverTlsPolicy] else []) ++ [.endpointPolicy]
  | .setupClientSecurity _ _ tls mtls => if tls || mtls then [.clientTlsPolicy] else []
  | .createServerTlsPolicy tls mtls => if tls || mtls then [.serverTlsPolicy] else []
  | .createAuthzPolicy .. => [.authzPolicy]
  | .createEndpointPolicy .. => [.endpointPolicy]
  | .createClientTlsPolicy tls mtls => if tls || mtls then [.clientTlsPolicy] else []
  | _ => []

/-- No `create_*` the call runs targets a slot that is already `Present`. -/
def NoCreateIntoPresent (w : World) (op : Op) : Prop :=
  ∀ slot ∈ op.createsInto w.manager, w.manager.slots slot = none

/-- The IPv6 proxy and forwarding rule are created only under `enable_dualstack`, as
`setup_routing_rule_map_for_grpc` does. -/
def DualstackGated (w : World) (op : Op) : Prop :=
  (op = .createTargetProxyIpv6 ∨ ∃ port, op = .createForwardingRuleIpv6 port) →
    w.manager.enableDualstack = true

/-- The world right after construction, over a remote `remote` and failures `fault`. -/
def World.init (manager : TrafficDirectorManager) (remote : Finset (Collection × String))
    (fault : Nat → Bool) : World :=
  ⟨manager, remote, [], fault⟩

/-- The worlds a run from `w₀` reaches when every call satisfies `allowed`. -/
inductive Reachable (allowed : World → Op → Prop) (w₀ : World) : World → Prop
  | init : Reachable allowed w₀ w₀
  | step {w : World} (op : Op) : Reachable allowed w₀ w → allowed w op →
      Reachable allowed w₀ (finalWorld op.run w)

/-- A run: the calls in order, each from the world the previous one left. -/
def runOps (ops : List Op) (w : World) : World :=
  ops.foldl (fun w op => finalWorld op.run w) w

end TrafficDirector
