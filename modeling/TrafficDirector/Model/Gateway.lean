import TrafficDirector.Model.State

/-!
# TrafficDirector — the remote control plane and the gateway calls

The manager is a client of three gateways (compute, network security, network services). This
module models what the manager can observe of them:

* **The remote** is a set of `(collection, name)` resources. A successful create adds its pair,
  a successful delete removes it (a no-op when absent), and a get returns the resource's handle
  when it exists and raises otherwise.
* **The call log.** Every gateway call is recorded in `World.calls`, with the arguments the
  manager passed, `None` references included.
* **Failures.** The environment decides which calls raise: `World.fault n` fails the `n`-th
  call of the whole run. A failed call has no remote effect and raises `gcpError`.

Methods run in `Exec = EStateM Error World`: as in Python, an exception leaves every mutation
made before it in place.
-/

namespace TrafficDirector

/-! ## Calls -/

/-- The options `create_backend_service` forwards to the gateway beyond name, health check,
protocol and dual stack; the other two variants leave the gateway's defaults. -/
structure BackendServiceOptions where
  subsetSize : Option Int := none
  affinityHeader : Option String := none
  localityLbPolicies : Option (List Json) := none
  outlierDetection : Option Json := none

/-- The arguments of a gateway create call besides the name. -/
inductive CreateArgs
  | healthCheck (protocol : HealthCheckProtocol) (port : Option Int)
  | backendService (healthCheck : Option GcpResource) (protocol : BackendServiceProtocol)
      (options : BackendServiceOptions) (enableDualstack : Bool)
  | urlMap (body : Json)
  | targetGrpcProxy (urlMap : GcpResource) (validateForProxyless : Option Bool)
  | targetHttpProxy (urlMap : GcpResource)
  | forwardingRule (srcPort : Int) (targetProxy : GcpResource) (networkUrl : String)
      (ipAddress : Option String)
  | firewallRule (networkUrl sourceRange : String) (allowedPorts : List String)
  | body (body : Json)

/-- One gateway call with the arguments the manager passes. -/
inductive Call
  | create (collection : Collection) (name : String) (args : CreateArgs)
  | get (collection : Collection) (name : String)
  | delete (collection : Collection) (name : String)
  | patchUrlMap (urlMap : Option GcpResource) (body : Json)
  | patchBackendService (backendService : GcpResource) (body : Json)
  | backendServicePatchBackends (backendService : GcpResource)
      (backends : Finset NegGcpResource) (maxRatePerEndpoint : Option Int)
      (circuitBreakers : Option Json)
  | backendServiceRemoveAllBackends (backendService : GcpResource)
  | waitForBackendsHealthyStatus (backendService : Option GcpResource)
      (backends : Finset NegGcpResource) (replicaCount : Int)
  | waitForNetworkEndpointGroup (name zone : String)

/-- The resource a create, get or delete call names. -/
def Call.target : Call → Option (Collection × String)
  | .create collection name _ | .get collection name | .delete collection name =>
    some (collection, name)
  | _ => none

/-! ## The world -/

/-- The manager, the remote resources, the gateway calls issued so far (oldest first) and the
environment's choice of failing calls. -/
structure World where
  manager : TrafficDirectorManager
  remote : Finset (Collection × String)
  calls : List Call
  fault : Nat → Bool

/-- A manager method: it returns or raises, and the world it leaves is kept either way. -/
abbrev Exec := EStateM Error World

/-- The world a method leaves, whether it returned or raised. -/
def finalWorld {α : Type} (x : Exec α) (w : World) : World :=
  match x w with
  | .ok _ w' => w'
  | .error _ w' => w'

namespace World

/-- Whether the next gateway call fails. -/
def nextFails (w : World) : Bool := w.fault w.calls.length

/-- Append a call to the log. -/
def record (w : World) (call : Call) : World := { w with calls := w.calls ++ [call] }

@[simp] theorem record_manager (w : World) (call : Call) : (w.record call).manager = w.manager := rfl
@[simp] theorem record_remote (w : World) (call : Call) : (w.record call).remote = w.remote := rfl
@[simp] theorem record_calls (w : World) (call : Call) :
    (w.record call).calls = w.calls ++ [call] := rfl
@[simp] theorem record_fault (w : World) (call : Call) : (w.record call).fault = w.fault := rfl

end World

/-! ## Gateway primitives -/

/-- Issue one gateway call: it is logged, and raises `gcpError` when the environment fails it. -/
def issue (call : Call) : Exec Unit := fun w =>
  if w.nextFails then .error .gcpError (w.record call) else .ok () (w.record call)

/-- A gateway create: the resource exists afterwards and its handle is returned. -/
def remoteCreate (collection : Collection) (name : String) (args : CreateArgs) :
    Exec GcpResource := do
  issue (.create collection name args)
  modify fun w => { w with remote := insert (collection, name) w.remote }
  return collection.handle name

/-- A gateway get: the handle of an existing resource; a missing one raises. -/
def remoteGet (collection : Collection) (name : String) : Exec GcpResource := do
  issue (.get collection name)
  if (collection, name) ∈ (← get).remote then return collection.handle name
  else throw .gcpError

/-- A gateway delete: the resource is gone afterwards, whether or not it existed. -/
def remoteDelete (collection : Collection) (name : String) : Exec Unit := do
  issue (.delete collection name)
  modify fun w => { w with remote := w.remote.erase (collection, name) }

/-- Modelled from the spec: `compute.create_url_map_with_content` creates the URL map its body
names (the API rejects a body without a name). -/
def remoteCreateUrlMap (body : Json) : Exec GcpResource :=
  match body.getStr? "name" with
  | some name => remoteCreate .urlMaps name (.urlMap body)
  | none => do
    issue (.create .urlMaps "" (.urlMap body))
    throw .gcpError

/-- Modelled from the spec: `compute.wait_for_network_endpoint_group` blocks until the group of
that name exists in the zone and returns it. -/
def waitForNetworkEndpointGroup (name zone : String) : Exec NegGcpResource := do
  issue (.waitForNetworkEndpointGroup name zone)
  return ⟨name, zone⟩

/-- Modelled from the spec: `netsvc.resource_full_name` resolves the fully qualified name a
network-services resource uses to refer to another resource. -/
def resourceFullName (project name collection : String) : String :=
  "projects/" ++ project ++ "/locations/global/" ++ collection ++ "/" ++ name

/-! ## Manager access -/

def getManager : Exec TrafficDirectorManager := do return (← get).manager

def modifyManager (f : TrafficDirectorManager → TrafficDirectorManager) : Exec Unit :=
  modify fun w => { w with manager := f w.manager }

/-- Assign a slot attribute. -/
def storeSlot (slot : Slot) (value : Option GcpResource) : Exec Unit :=
  modifyManager (·.setSlot slot value)

/-- Read `.name` or `.url` of an optional attribute: `None` raises `AttributeError`. -/
def attr {α : Type} (value : Option α) (field : String) : Exec α :=
  match value with
  | some a => pure a
  | none => throw (.attributeError field)

end TrafficDirector
