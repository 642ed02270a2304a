import TrafficDirector.Naming
import Mathlib.Data.Finset.Basic

/-!
# TrafficDirector — the manager's data model

The state a `TrafficDirectorManager` (and its two subclasses) keeps in `traffic_director.py`:
its settings, one optional resource handle per managed-resource attribute (`health_check`,
`url_map`, …, `endpoint_policy`), the target-proxy kind flag, the recorded backend-service
protocols, the `_ensure_firewall` flag and the three backend sets.

* **Slots.** Each `Optional[GcpResource]` attribute is a `Slot`; the manager holds
  `slots : Slot → Option GcpResource`, `none` being `Absent`. A slot's canonical name is
  `make_resource_name` of its base-name constant (`Slot.baseName`), and its remote collection
  is `collectionOf`, which for `target_proxy` reads `target_proxy_is_http`.
* **Variants.** The default, alternative and affinity backend services share their methods up
  to the attribute they touch; `BackendServiceVariant` indexes the slot, the recorded protocol
  and the backend set of each.
* **Payloads.** The dict bodies the manager builds or passes to the gateways are `Json` values,
  with the keys the source writes.
-/

namespace TrafficDirector

open TrafficDirectorManager TrafficDirectorAppNetManager TrafficDirectorSecureManager

/-! ## Payloads and handles -/

/-- A JSON value: the dicts and lists the manager builds (URL-map bodies, policies, endpoint
configs, route bodies) or passes through from its caller (load-balancing policies, outlier
detection, circuit breakers, authorization rules, route contents). -/
inductive Json
  | null
  | bool (b : Bool)
  | num (n : Int)
  | str (s : String)
  | arr (elems : List Json)
  | obj (fields : List (String × Json))
  deriving Repr

/-- The string under `key` of a JSON object, if there is one. -/
def Json.getStr? (key : String) : Json → Option String
  | .obj fields =>
    match fields.lookup key with
    | some (.str s) => some s
    | _ => none
  | _ => none

/-- `BackendServiceProtocol` of the compute gateway. `UNSET` is the class default of the
recorded protocols. -/
inductive BackendServiceProtocol
  | UNSET
  | GRPC
  | HTTP2
  deriving DecidableEq, Repr

/-- Modelled from the spec: the compute gateway's `HealthCheckProtocol` is not under `src/`;
`GRPC` is the one the manager names and `TCP` stands for any other a caller may pass. -/
inductive HealthCheckProtocol
  | TCP
  | GRPC
  deriving DecidableEq, Repr

/-- A resource handle returned by a gateway: the name and the URL of the resource. -/
structure GcpResource where
  name : String
  url : String
  deriving DecidableEq, Repr

/-- A network endpoint group found in one zone; the backend sets are unique by zone and name. -/
structure NegGcpResource where
  name : String
  zone : String
  deriving DecidableEq, Repr

/-- The remote collections the three gateways manage. -/
inductive Collection
  | healthChecks
  | backendServices
  | urlMaps
  | targetGrpcProxies
  | targetHttpProxies
  | forwardingRules
  | firewalls
  | meshes
  | grpcRoutes
  | httpRoutes
  | serverTlsPolicies
  | clientTlsPolicies
  | authorizationPolicies
  | endpointPolicies
  deriving DecidableEq, Repr

/-- The path of a collection in its API. -/
def Collection.path : Collection → String
  | .healthChecks => "global/healthChecks"
  | .backendServices => "global/backendServices"
  | .urlMaps => "global/urlMaps"
  | .targetGrpcProxies => "global/targetGrpcProxies"
  | .targetHttpProxies => "global/targetHttpProxies"
  | .forwardingRules => "global/forwardingRules"
  | .firewalls => "global/firewalls"
  | .meshes => "meshes"
  | .grpcRoutes => "grpcRoutes"
  | .httpRoutes => "httpRoutes"
  | .serverTlsPolicies => "serverTlsPolicies"
  | .clientTlsPolicies => "clientTlsPolicies"
  | .authorizationPolicies => "authorizationPolicies"
  | .endpointPolicies => "endpointPolicies"

/-- Modelled from the spec: a gateway "returns a resource handle carrying at least name and
URL"; the URL format is the gateway's, taken here as the collection path and the name. -/
def Collection.handle (collection : Collection) (name : String) : GcpResource :=
  ⟨name, collection.path ++ "/" ++ name⟩

@[simp] theorem Collection.handle_name (collection : Collection) (name : String) :
    (collection.handle name).name = name := rfl

/-! ## Errors -/

/-- The exceptions a manager method can raise. `attributeError` is a `.name`/`.url` read on an
`Absent` slot (`None`), or a method the manager's class does not define; `gcpError` is a
`googleapiclient.errors.Error` raised by a gateway call. -/
inductive Error
  | valueError (message : String)
  | typeError (message : String)
  | runtimeError (message : String)
  | attributeError (name : String)
  | gcpError
  deriving DecidableEq, Repr

/-! ## Slots -/

/-- The three manager classes: `TrafficDirectorManager` and its two subclasses. -/
inductive ManagerClass
  | base
  | appNet
  | secure
  deriving DecidableEq, Repr

/-- The managed-resource attributes, one per resource kind. -/
inductive Slot
  | healthCheck
  | backendService
  | alternativeBackendService
  | affinityBackendService
  | urlMap
  | alternativeUrlMap
  | targetProxy
  | targetProxyIpv6
  | alternativeTargetProxy
  | forwardingRule
  | forwardingRuleIpv6
  | alternativeForwardingRule
  | firewallRule
  | firewallRuleIpv6
  | grpcRoute
  | httpRoute
  | mesh
  | serverTlsPolicy
  | clientTlsPolicy
  | authzPolicy
  | endpointPolicy
  deriving DecidableEq, Repr

/-- The base-name constant a slot's resource is named after. -/
def Slot.baseName : Slot → String
  | .healthCheck => healthCheckName
  | .backendService => backendServiceName
  | .alternativeBackendService => alternativeBackendServiceName
  | .affinityBackendService => affinityBackendServiceName
  | .urlMap => urlMapName
  | .alternativeUrlMap => alternativeUrlMapName
  | .targetProxy => targetProxyName
  | .targetProxyIpv6 => targetProxyNameIpv6
  | .alternativeTargetProxy => alternativeTargetProxyName
  | .forwardingRule => forwardingRuleName
  | .forwardingRuleIpv6 => forwardingRuleNameIpv6
  | .alternativeForwardingRule => alternativeForwardingRuleName
  | .firewallRule => firewallRuleName
  | .firewallRuleIpv6 => firewallRuleNameIpv6
  | .grpcRoute => grpcRouteName
  | .httpRoute => httpRouteName
  | .mesh => meshName
  | .serverTlsPolicy => serverTlsPolicyName
  | .clientTlsPolicy => clientTlsPolicyName
  | .authzPolicy => authzPolicyName
  | .endpointPolicy => TrafficDirectorSecureManager.endpointPolicy

/-- The class that declares a slot: the subclass slots do not exist on the other classes. -/
def Slot.declaredBy : Slot → ManagerClass
  | .grpcRoute | .httpRoute | .mesh => .appNet
  | .serverTlsPolicy | .clientTlsPolicy | .authzPolicy | .endpointPolicy => .secure
  | _ => .base

/-- The collection of a slot's resource, given `target_proxy_is_http`. -/
def Slot.collection (targetProxyIsHttp : Bool) : Slot → Collection
  | .healthCheck => .healthChecks
  | .backendService | .alternativeBackendService | .affinityBackendService => .backendServices
  | .urlMap | .alternativeUrlMap => .urlMaps
  | .targetProxy => if targetProxyIsHttp then .targetHttpProxies else .targetGrpcProxies
  | .targetProxyIpv6 => .targetHttpProxies
  | .alternativeTargetProxy => .targetGrpcProxies
  | .forwardingRule | .forwardingRuleIpv6 | .alternativeForwardingRule => .forwardingRules
  | .firewallRule | .firewallRuleIpv6 => .firewalls
  | .grpcRoute => .grpcRoutes
  | .httpRoute => .httpRoutes
  | .mesh => .meshes
  | .serverTlsPolicy => .serverTlsPolicies
  | .clientTlsPolicy => .clientTlsPolicies
  | .authzPolicy => .authorizationPolicies
  | .endpointPolicy => .endpointPolicies

/-- Distinct slots have distinct base names. -/
theorem Slot.baseName_injective : Function.Injective Slot.baseName := by
  intro a b h
  cases a <;> cases b <;> first | rfl | exact absurd h (by decide)

/-- Every slot is named after one of the base-name constants. -/
theorem Slot.baseName_mem (s : Slot) : s.baseName ∈ baseNames := by
  cases s <;> simp [Slot.baseName, baseNames]

/-- The three backend services of the base class. -/
inductive BackendServiceVariant
  | default
  | alternative
  | affinity
  deriving DecidableEq, Repr

/-- The slot of a backend-service variant. -/
def BackendServiceVariant.slot : BackendServiceVariant → Slot
  | .default => .backendService
  | .alternative => .alternativeBackendService
  | .affinity => .affinityBackendService

/-! ## The manager -/

/-- The state of one manager instance. `protocol v` is `backend_service_protocol`,
`alternative_backend_service_protocol` or `affinity_backend_service_protocol`, and
`backends v` is `backends`, `alternative_backends` or `affinity_backends`. The naming tuple, the
class, the project, the network and `enable_dualstack` are fixed at construction. -/
structure TrafficDirectorManager extends ResourceNaming where
  kind : ManagerClass
  project : String
  network : String
  enableDualstack : Bool
  slots : Slot → Option GcpResource
  targetProxyIsHttp : Bool
  protocol : BackendServiceVariant → BackendServiceProtocol
  ensureFirewall : Bool
  backends : BackendServiceVariant → Finset NegGcpResource

namespace TrafficDirectorManager

/-- `__init__` of the three classes: every slot `Absent`, the class defaults (`UNSET`
protocols, `_ensure_firewall = False`, `target_proxy_is_http = False`) and empty backend sets. -/
def init (kind : ManagerClass) (project resourcePrefix : String) (resourceSuffix : Option String)
    (network : String := "default") (enableDualstack : Bool := false) : TrafficDirectorManager where
  resourcePrefix := resourcePrefix
  resourceSuffix := resourceSuffix
  kind := kind
  project := project
  network := network
  enableDualstack := enableDualstack
  slots := fun _ => none
  targetProxyIsHttp := false
  protocol := fun _ => .UNSET
  ensureFirewall := false
  backends := fun _ => ∅

/-- The `network_url` property. -/
def networkUrl (m : TrafficDirectorManager) : String :=
  "global/networks/" ++ m.network

/-- The collection of a slot's resource under the manager's `target_proxy_is_http`. -/
def collectionOf (m : TrafficDirectorManager) (slot : Slot) : Collection :=
  slot.collection m.targetProxyIsHttp

/-- The canonical name of a slot's resource: `make_resource_name` of its base name. -/
def canonicalName (m : TrafficDirectorManager) (slot : Slot) : String :=
  m.makeResourceName slot.baseName

/-- Assign a slot attribute. -/
def setSlot (m : TrafficDirectorManager) (slot : Slot) (value : Option GcpResource) :
    TrafficDirectorManager :=
  { m with slots := Function.update m.slots slot value }

section SetSlot

variable (m : TrafficDirectorManager) (slot : Slot) (value : Option GcpResource)

@[simp] theorem setSlot_slots : (m.setSlot slot value).slots = Function.update m.slots slot value :=
  rfl
theorem setSlot_slots_self : (m.setSlot slot value).slots slot = value :=
  Function.update_same _ _ _
@[simp] theorem setSlot_toResourceNaming :
    (m.setSlot slot value).toResourceNaming = m.toResourceNaming := rfl
@[simp] theorem setSlot_kind : (m.setSlot slot value).kind = m.kind := rfl
@[simp] theorem setSlot_project : (m.setSlot slot value).project = m.project := rfl
@[simp] theorem setSlot_network : (m.setSlot slot value).network = m.network := rfl
@[simp] theorem setSlot_enableDualstack :
    (m.setSlot slot value).enableDualstack = m.enableDualstack := rfl
@[simp] theorem setSlot_targetProxyIsHttp :
    (m.setSlot slot value).targetProxyIsHttp = m.targetProxyIsHttp := rfl
@[simp] theorem setSlot_protocol : (m.setSlot slot value).protocol = m.protocol := rfl
@[simp] theorem setSlot_ensureFirewall :
    (m.setSlot slot value).ensureFirewall = m.ensureFirewall := rfl
@[simp] theorem setSlot_backends : (m.setSlot slot value).backends = m.backends := rfl
@[simp] theorem collectionOf_setSlot : (m.setSlot slot value).collectionOf = m.collectionOf := rfl
@[simp] theorem canonicalName_setSlot :
    (m.setSlot slot value).canonicalName = m.canonicalName := rfl

end SetSlot

/-- Record a variant's backend-service protocol. -/
@[simp]
def setProtocol (m : TrafficDirectorManager) (variant : BackendServiceVariant)
    (protocol : BackendServiceProtocol) : TrafficDirectorManager :=
  { m with protocol := Function.update m.protocol variant protocol }

/-- Replace a variant's backend set. -/
@[simp]
def setBackends (m : TrafficDirectorManager) (variant : BackendServiceVariant)
    (backends : Finset NegGcpResource) : TrafficDirectorManager :=
  { m with backends := Function.update m.backends variant backends }

theorem canonicalName_injective (m : TrafficDirectorManager) {a b : Slot}
    (h : m.canonicalName a = m.canonicalName b) : a = b :=
  Slot.baseName_injective (m.makeResourceName_inj h)

end TrafficDirectorManager

end TrafficDirector
