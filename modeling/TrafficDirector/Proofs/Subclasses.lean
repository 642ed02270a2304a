import TrafficDirector.Proofs.Registry

/-!
# TrafficDirector — what the subclasses' creates refer to

`TrafficDirectorAppNetManager` and `TrafficDirectorSecureManager` create their resources with a
create followed by a fetch (`createThenGet`), and then name what they hold in later calls: the
gRPC route names the mesh and the backend service, the endpoint policy names the server TLS
policy, and the backend service is patched with the client TLS policy.

* **`createGrpcRoute_refers_to_live_resources`** — on every allowed run from construction where
  no call fails, `create_grpc_route` with the backend service and the mesh `Present` returns the
  route it stored, adds only that route to the remote, and the route's body names a mesh and a
  backend service that both exist remotely (the registry invariant's `held_exists`);
* **`setupServerSecurity_attaches_server_tls_policy`** — on a run where no call fails, with TLS
  or mTLS asked for, the server setup returns with both policies `Present` under their canonical
  names, and the endpoint policy it created names the new server TLS policy;
* **`setupClientSecurity_attaches_client_tls_policy`** — on a run where no call fails, with TLS
  or mTLS asked for and the backend service `Present`, the client setup returns with the client
  TLS policy `Present`, its last call patching the backend service with that policy's URL;
* **`backendServiceApplyClientMtlsPolicy_without_policy`** — without a client TLS policy the
  patch is skipped, but its warning reads `backend_service.name`: with no backend service it
  raises `AttributeError`.
-/

namespace TrafficDirector

open TrafficDirectorManager TrafficDirectorAppNetManager TrafficDirectorSecureManager

/-- A create and fetch that both succeed store the fetched handle and add the resource. -/
theorem wp_createThenGet {w : World} (hH : Succeeds w.fault) (slot : Slot)
    (collection : Collection) (name : String) (body : Json) {Q : GcpResource → World → Prop}
    {E : World → Prop}
    (h : Q (collection.handle name) { w with
      manager := w.manager.setSlot slot (some (collection.handle name))
      remote := insert (collection, name) w.remote
      calls := w.calls ++ [.create collection name (.body body), .get collection name] }) :
    wp (createThenGet slot collection name body) Q E w := by
  simp only [createThenGet, wp_bind, wp_remoteCreate, wp_remoteGet, World.nextFails,
    World.record_fault, World.record_calls, hH _, Bool.false_eq_true, if_false,
    Finset.mem_insert_self, if_true, wp_storeSlot, wp_pure]
  simpa [World.record] using h

/-- **The gRPC route refers to live resources.** On every allowed run from a world whose slots
are all `Absent`, where no call fails, `create_grpc_route` with the backend service and the mesh
`Present` returns the route it stores under its canonical name and adds only that route to the
remote; the body of its create names the mesh's URL and the backend service's full name, and both
exist on the remote. -/
theorem createGrpcRoute_refers_to_live_resources {w₀ w : World}
    (h₀ : ∀ slot, w₀.manager.slots slot = none) (h : Reachable Allowed w₀ w)
    (hH : Succeeds w.fault) (srcHost : String) (srcPort : Int) {backendService mesh : GcpResource}
    (hbs : w.manager.slots .backendService = some backendService)
    (hmesh : w.manager.slots .mesh = some mesh) :
    ∃ w', createGrpcRoute srcHost srcPort w =
        .ok (Collection.grpcRoutes.handle (w.manager.canonicalName .grpcRoute)) w' ∧
      w'.manager.slots .grpcRoute =
        some (Collection.grpcRoutes.handle (w.manager.canonicalName .grpcRoute)) ∧
      w'.remote = insert (Collection.grpcRoutes, w.manager.canonicalName .grpcRoute) w.remote ∧
      (Collection.meshes, mesh.name) ∈ w'.remote ∧
      (Collection.backendServices, backendService.name) ∈ w'.remote ∧
      ∃ body, Call.create .grpcRoutes (w.manager.canonicalName .grpcRoute) (.body (.obj body)) ∈
          w'.calls ∧
        ("meshes", Json.arr [.str mesh.url]) ∈ body ∧
        ("rules", Json.arr [.obj [("action", .obj [("destinations", .arr [.obj [("serviceName",
          .str (resourceFullName w.manager.project backendService.name "backendServices"))]])])]])
          ∈ body := by
  have hI := Reachable.inv h₀ h
  have hm : (Collection.meshes, mesh.name) ∈ w.remote :=
    hI.held_exists .mesh _ (by decide) (by simp [heldBy, hmesh, collectionOf, Slot.collection])
  have hb : (Collection.backendServices, backendService.name) ∈ w.remote :=
    hI.held_exists .backendService _ (by decide)
      (by simp [heldBy, hbs, collectionOf, Slot.collection])
  refine ok_of_wp_eq ?_
  simp only [createGrpcRoute, wp_bind, wp_getManager, hbs, hmesh, wp_attr_some]
  refine wp_createThenGet hH _ _ _ _ ?_
  refine ⟨rfl, setSlot_slots_self _ _ _, rfl, Finset.mem_insert_of_mem hm,
    Finset.mem_insert_of_mem hb, _, List.mem_append_right _ (List.mem_cons_self _ _), ?_, ?_⟩ <;>
    simp

/-- A route for a GRPC backend of a `TrafficDirectorAppNetManager`, after its mesh. -/
theorem createGrpcRoute_refers_to_live_resources_after_setup :
    let w₀ := World.init (TrafficDirectorManager.init .appNet "project" "psm" (some "a1")) ∅
      fun _ => false
    let w := finalWorld Op.createMesh.run
      (finalWorld (Op.setupBackendForGrpc (some .GRPC) none).run w₀)
    ∃ w', createGrpcRoute "svc" 8080 w = .ok (Collection.grpcRoutes.handle "psm-grpc-route-a1") w' ∧
      (Collection.meshes, "psm-mesh-a1") ∈ w'.remote := by
  intro w₀ w
  have h₁ := Reachable.step (Op.setupBackendForGrpc (some .GRPC) none)
    (Reachable.init : Reachable Allowed w₀ w₀) ⟨fun _ _ => rfl, by rintro (h | ⟨_, h⟩) <;> cases h⟩
  have h : Reachable Allowed w₀ w := Reachable.step .createMesh h₁
    ⟨by rintro _ (_ | ⟨_, ⟨⟩⟩); rfl, by rintro (h | ⟨_, h⟩) <;> cases h⟩
  have hbs : w.manager.slots .backendService =
      some (Collection.backendServices.handle "psm-backend-service-a1") := rfl
  have hmesh : w.manager.slots .mesh = some (Collection.meshes.handle "psm-mesh-a1") := rfl
  exact (createGrpcRoute_refers_to_live_resources (fun _ => rfl) h (fun _ => rfl) "svc" 8080 hbs
    hmesh).imp fun _ h => ⟨h.1, h.2.2.2.1⟩

/-- **The endpoint policy names the server TLS policy just created.** On a run where no call
fails, `setup_server_security` with TLS or mTLS returns; the server TLS and endpoint policies
are `Present` under their canonical names, and the endpoint policy's create call names the
server TLS policy. -/
theorem setupServerSecurity_attaches_server_tls_policy (serverNamespace serverName : String)
    (serverPort : Int) (tls mtls : Bool) (htls : (tls || mtls) = true) (w : World)
    (hH : Succeeds w.fault) :
    ∃ w', setupServerSecurity serverNamespace serverName serverPort tls mtls w = .ok () w' ∧
      w'.manager.slots .serverTlsPolicy =
        some (Collection.serverTlsPolicies.handle (w.manager.canonicalName .serverTlsPolicy)) ∧
      w'.manager.slots .endpointPolicy =
        some (Collection.endpointPolicies.handle (w.manager.canonicalName .endpointPolicy)) ∧
      ∃ config, Call.create .endpointPolicies (w.manager.canonicalName .endpointPolicy)
          (.body (.obj config)) ∈ w'.calls ∧
        ("serverTlsPolicy", Json.str (w.manager.canonicalName .serverTlsPolicy)) ∈ config := by
  have hc : (!tls && !mtls) = false := by cases tls <;> cases mtls <;> simp_all
  refine ok_unit_of_wp ?_
  simp only [setupServerSecurity, createServerTlsPolicy, wp_bind, wp_getManager, hc,
    Bool.false_eq_true, if_false, wp_pure]
  refine wp_createThenGet hH _ _ _ _ ?_
  simp only [wp_pure, createEndpointPolicy, wp_bind, wp_getManager]
  refine wp_createThenGet (by exact hH) _ _ _ _ ?_
  refine ⟨by simp [canonicalName, Slot.baseName], by simp [canonicalName, Slot.baseName], _,
    List.mem_append_right _ (List.mem_cons_self _ _), ?_⟩
  -- the configuration, with or without an authorization policy, names the server TLS policy
  simp only [setSlot_slots, Function.update_same]
  split <;> simp [canonicalName, Slot.baseName]

/-- Both TLS and mTLS for a server, from construction. -/
theorem setupServerSecurity_attaches_server_tls_policy_at_init :
    let w := World.init (TrafficDirectorManager.init .secure "project" "psm" (some "a1")) ∅
      fun _ => false
    ∃ w', setupServerSecurity "ns" "server" 8080 true true w = .ok () w' ∧
      w'.manager.slots .serverTlsPolicy =
        some (Collection.serverTlsPolicies.handle (w.manager.canonicalName .serverTlsPolicy)) :=
  (setupServerSecurity_attaches_server_tls_policy "ns" "server" 8080 true true rfl _
    fun _ => rfl).imp fun _ h => ⟨h.1, h.2.1⟩

/-- **The backend service is patched with the client TLS policy just created.** On a run where
no call fails, with TLS or mTLS and the backend service `Present`, `setup_client_security`
returns with the client TLS policy `Present` under its canonical name, and its last call patches
the backend service with that policy's URL and the server's SPIFFE identity. -/
theorem setupClientSecurity_attaches_client_tls_policy (serverNamespace serverName : String)
    (tls mtls : Bool) (htls : (tls || mtls) = true) (w : World) (hH : Succeeds w.fault)
    {backendService : GcpResource} (hbs : w.manager.slots .backendService = some backendService) :
    ∃ w', setupClientSecurity serverNamespace serverName tls mtls w = .ok () w' ∧
      w'.manager.slots .clientTlsPolicy =
        some (Collection.clientTlsPolicies.handle (w.manager.canonicalName .clientTlsPolicy)) ∧
      w'.calls.getLast? = some (.patchBackendService backendService (.obj [("securitySettings",
        .obj [("clientTlsPolicy", .str
            (Collection.clientTlsPolicies.handle (w.manager.canonicalName .clientTlsPolicy)).url),
          ("subjectAltNames", .arr [.str
            s!"spiffe://{w.manager.project}.svc.id.goog/ns/{serverNamespace}/sa/{serverName}"])])])) := by
  have hc : (!tls && !mtls) = false := by cases tls <;> cases mtls <;> simp_all
  refine ok_unit_of_wp ?_
  simp only [setupClientSecurity, createClientTlsPolicy, wp_bind, wp_getManager, hc,
    Bool.false_eq_true, if_false, wp_pure]
  refine wp_createThenGet hH _ _ _ _ ?_
  simp only [wp_pure, backendServiceApplyClientMtlsPolicy, wp_bind, wp_getManager, setSlot_slots,
    Function.update_same, ne_eq, reduceCtorEq, not_false_eq_true, Function.update_noteq, hbs,
    wp_attr_some, wp_issue, World.nextFails, World.record_fault, hH _, Bool.false_eq_true,
    if_false]
  simp [canonicalName, Slot.baseName, World.record]

/-- TLS and mTLS for a client of the backend service a GRPC backend setup created. -/
theorem setupClientSecurity_attaches_client_tls_policy_after_setup :
    let w := runOps [.setupBackendForGrpc (some .GRPC) none]
      (World.init (TrafficDirectorManager.init .secure "project" "psm" (some "a1")) ∅
        fun _ => false)
    ∃ w', setupClientSecurity "ns" "server" true true w = .ok () w' ∧
      w'.manager.slots .clientTlsPolicy =
        some (Collection.clientTlsPolicies.handle (w.manager.canonicalName .clientTlsPolicy)) := by
  intro w
  have hbs : w.manager.slots .backendService =
      some (Collection.backendServices.handle "psm-backend-service-a1") := rfl
  exact (setupClientSecurity_attaches_client_tls_policy "ns" "server" true true rfl w
    (fun _ => rfl) hbs).imp fun _ h => ⟨h.1, h.2.1⟩

/-- **Without a client TLS policy nothing is patched, but the warning reads the backend
service.** With `client_tls_policy` `Absent`, `backend_service_apply_client_mtls_policy` issues
no call and changes nothing: it returns when the backend service is `Present`, and raises
`AttributeError` when it is `Absent`. -/
theorem backendServiceApplyClientMtlsPolicy_without_policy (serverNamespace serverName : String)
    (w : World) (h : w.manager.slots .clientTlsPolicy = none) :
    backendServiceApplyClientMtlsPolicy serverNamespace serverName w =
      match w.manager.slots .backendService with
      | some _ => .ok () w
      | none => .error (.attributeError "name") w := by
  rw [backendServiceApplyClientMtlsPolicy, bind_ok (getManager_apply w)]
  simp only [h]
  cases w.manager.slots .backendService <;> rfl

end TrafficDirector
