import TrafficDirector.Proofs.Preservation

/-!
# TrafficDirector — a manager deletes only what it can name

Every resource a manager deletes is named by `make_resource_name` of a base-name constant (under
`force`) or read from one of its slots, and a slot is filled only with a resource the manager
created or fetched under such a name. So a manager holds only names it builds, and a resource
whose name it does not build is never deleted by it, whatever calls it makes and whichever of
them fail. The one way around it is `create_url_map_with_content`, whose URL map is named by the
body the caller passes: a call is `NamesOwn` when that body names a URL map the manager builds.

## The architecture

* **`Spares naming F m R`** — the manager keeps the naming tuple `naming`, every slot holds a
  name `naming` builds, and the resources `F` are exactly those on the remote whose names
  `naming` does not build. Its update lemmas (`add`, `erase`, `fill`, `clear`, `congr`) are the
  only facts the method lemmas use; `add` asks for a name the manager builds, so a call neither
  removes nor creates a resource under a name it does not build.
* **One lemma per method body** (per family for the shared bodies), as for the registry
  invariant; the methods that touch no slot reuse the registry's `Neutral` lemmas, which hold
  for any invariant that recording a call keeps.
* **`Op.run_spares`** — every public method call that is `NamesOwn` keeps `Spares`.
-/

namespace TrafficDirector

open TrafficDirectorManager TrafficDirectorAppNetManager TrafficDirectorSecureManager

/-- The manager keeps the naming tuple `naming` and holds only names `naming` builds; the
resources `F` are exactly those on the remote whose names `naming` does not build. -/
structure Spares (naming : ResourceNaming) (F : Finset (Collection × String))
    (m : TrafficDirectorManager) (R : Finset (Collection × String)) : Prop where
  naming_eq : m.toResourceNaming = naming
  owned : ∀ s r, m.slots s = some r → naming.Names r.name
  foreign : ∀ p ∈ F, ¬ naming.Names p.2
  present : F ⊆ R
  confined : ∀ p ∈ R, ¬ naming.Names p.2 → p ∈ F

/-- The resources of `R` whose names `naming` does not build. -/
def foreignPart (naming : ResourceNaming) (R : Finset (Collection × String)) :
    Finset (Collection × String) :=
  R.filter fun p => ¬ naming.Names p.2

/-- `Spares` of a world. -/
def Sparing (naming : ResourceNaming) (F : Finset (Collection × String)) (w : World) : Prop :=
  Spares naming F w.manager w.remote

/-- A call names only resources of its manager: the URL map `create_url_map_with_content`
creates is named by its body, which must be a name the manager builds. -/
def NamesOwn (w : World) : Op → Prop
  | .createUrlMapWithContent body => ∀ name, body.getStr? "name" = some name →
      w.manager.Names name
  | _ => True

/-- Whether a call names only resources of its manager depends on the manager's naming tuple
alone. -/
theorem NamesOwn.of_naming_eq {w w' : World}
    (h : w.manager.toResourceNaming = w'.manager.toResourceNaming) {op : Op}
    (hop : NamesOwn w op) : NamesOwn w' op := by
  cases op
  case createUrlMapWithContent => exact fun name hn => h ▸ hop name hn
  all_goals trivial

namespace Spares

variable {naming : ResourceNaming} {F : Finset (Collection × String)} {m : TrafficDirectorManager}
  {R : Finset (Collection × String)}

/-- A name the manager builds from a base-name constant is one `naming` builds. -/
theorem names (h : Spares naming F m R) {b : String} (hb : b ∈ baseNames) :
    naming.Names (m.makeResourceName b) := by
  rw [← h.naming_eq]
  exact ResourceNaming.names_makeResourceName _ hb

/-- Every manager of naming tuple `naming` holding only names it builds spares the foreign part
of any remote. -/
theorem ofOwned (hn : m.toResourceNaming = naming)
    (ho : ∀ s r, m.slots s = some r → naming.Names r.name) (R : Finset (Collection × String)) :
    Spares naming (foreignPart naming R) m R where
  naming_eq := hn
  owned := ho
  foreign _ hp := (Finset.mem_filter.1 hp).2
  present := Finset.filter_subset _ _
  confined _ hp hf := Finset.mem_filter.2 ⟨hp, hf⟩

/-- Creating a resource under a name the manager builds spares `F`. -/
theorem add (h : Spares naming F m R) {p : Collection × String} (hp : naming.Names p.2) :
    Spares naming F m (insert p R) :=
  { h with
    present := h.present.trans (Finset.subset_insert _ _)
    confined := fun q hq hf => (Finset.mem_insert.1 hq).elim (fun e => absurd (e ▸ hp) hf)
      fun hq => h.confined q hq hf }

/-- Deleting a resource the manager can name spares `F`. -/
theorem erase (h : Spares naming F m R) {p : Collection × String} (hp : naming.Names p.2) :
    Spares naming F m (R.erase p) :=
  { h with
    present := fun q hq => Finset.mem_erase.2 ⟨fun e => h.foreign q hq (e ▸ hp), h.present hq⟩
    confined := fun q hq hf => h.confined q (Finset.mem_of_mem_erase hq) hf }

theorem setSlot (h : Spares naming F m R) (s : Slot) {v : Option GcpResource}
    (hv : ∀ r, v = some r → naming.Names r.name) : Spares naming F (m.setSlot s v) R where
  naming_eq := h.naming_eq
  owned s' r hr := by
    by_cases e : s' = s
    · subst e
      exact hv r (by rwa [setSlot_slots_self] at hr)
    · exact h.owned s' r (by rwa [setSlot_slots, Function.update_noteq e] at hr)
  foreign := h.foreign
  present := h.present
  confined := h.confined

theorem clear (h : Spares naming F m R) (s : Slot) : Spares naming F (m.setSlot s none) R :=
  h.setSlot s fun _ h => by cases h

/-- A resource created under a name the manager builds, and stored in a slot. -/
theorem fill (h : Spares naming F m R) (s : Slot) (c : Collection) {b : String}
    (hb : b ∈ baseNames) :
    Spares naming F (m.setSlot s (some (c.handle (m.makeResourceName b))))
      (insert (c, m.makeResourceName b) R) :=
  (h.add (h.names hb)).setSlot s fun _ e => by
    cases e
    exact h.names hb

/-- Changing what is not a slot nor the naming tuple: the flags, protocols and backends. -/
theorem congr (h : Spares naming F m R) {m' : TrafficDirectorManager} (hs : m'.slots = m.slots)
    (hn : m'.toResourceNaming = m.toResourceNaming) : Spares naming F m' R where
  naming_eq := hn.trans h.naming_eq
  owned s r hr := h.owned s r (hs ▸ hr)
  foreign := h.foreign
  present := h.present
  confined := h.confined

/-- The name a `delete_*` method deletes is one the manager builds. -/
theorem deletionName_names (h : Spares naming F m R) {slot : Slot} {b : String} {force : Bool}
    {name : String} (hn : deletionName m slot b force = some name) (hb : b ∈ baseNames) :
    naming.Names name := by
  unfold deletionName at hn
  split at hn
  · cases hn
    exact h.names hb
  · obtain ⟨r, hr, rfl⟩ := Option.map_eq_some'.1 hn
    exact h.owned slot r hr

end Spares

section Methods

variable {naming : ResourceNaming} {F : Finset (Collection × String)}

theorem Sparing.record (w : World) (call : Call) (h : Sparing naming F w) :
    Sparing naming F (w.record call) := h

/-- Changing the flags, protocols or backends of the manager. -/
theorem modifyManager_spares {g : TrafficDirectorManager → TrafficDirectorManager}
    (hs : ∀ m, (g m).slots = m.slots) (hn : ∀ m, (g m).toResourceNaming = m.toResourceNaming) :
    Keeps (fun _ => True) (Sparing naming F) (modifyManager g) := fun _ _ h =>
  Spares.congr h (hs _) (hn _)

/-! ## Deletes -/

theorem deleteResource_spares {slot : Slot} {collection : Collection} (force : Bool) :
    Keeps (fun _ => True) (Sparing naming F)
      (deleteResource slot collection slot.baseName force) := by
  intro w _ h
  simp only [deleteResource, wp_bind, wp_getManager]
  cases hn : deletionName w.manager slot slot.baseName force with
  | none => exact h
  | some name =>
    simp only [wp_remoteDelete, wp_storeSlot, wp_bind]
    split
    · exact h
    · exact (Spares.erase h (h.deletionName_names hn (Slot.baseName_mem slot))).clear slot

/-! ## Health check and backend services -/

theorem createHealthCheck_spares (protocol : Option HealthCheckProtocol) (port : Option Int) :
    Keeps (fun _ => True) (Sparing naming F) (createHealthCheck protocol port) := by
  intro w _ h
  simp only [createHealthCheck, wp_bind, wp_getManager]
  cases w.manager.slots .healthCheck with
  | some _ => exact h
  | none =>
    simp only [wp_bind, wp_pure, wp_remoteCreate, wp_storeSlot]
    split
    · exact h
    · exact Spares.fill h _ _ (Slot.baseName_mem .healthCheck)

theorem createBackendServiceOf_spares (variant : BackendServiceVariant)
    (protocol : Option BackendServiceProtocol) (options : BackendServiceOptions) :
    Keeps (fun _ => True) (Sparing naming F)
      (createBackendServiceOf variant variant.slot.baseName protocol options) := by
  intro w _ h
  simp only [createBackendServiceOf, wp_bind, wp_getManager, wp_remoteCreate, wp_storeSlot,
    wp_modifyManager]
  split
  · exact h
  · exact (Spares.fill h _ _ (Slot.baseName_mem _)).congr rfl rfl

theorem loadBackendServiceOf_spares (variant : BackendServiceVariant) :
    Keeps (fun _ => True) (Sparing naming F)
      (loadBackendServiceOf variant variant.slot.baseName) := by
  intro w _ h
  simp only [loadBackendServiceOf, wp_bind, wp_getManager, wp_remoteGet, wp_storeSlot]
  split
  · exact h
  · split
    · exact Spares.setSlot h _ fun _ e => by
        cases e
        exact h.names (Slot.baseName_mem _)
    · exact h

theorem addNegBackendsOf_spares (variant : BackendServiceVariant) (message name : String)
    (zones : List String) {patch : Exec Unit}
    (hpatch : Keeps (fun _ => True) (Sparing naming F) patch) :
    Keeps (fun _ => True) (Sparing naming F) (addNegBackendsOf variant message name zones patch) := by
  refine Keeps.bind (_getGcpNegsInZones_keeps Sparing.record _ _) fun negs => ?_
  refine Keeps.bind (modifyManager_spares (fun _ => rfl) fun _ => rfl) fun _ => ?_
  refine Keeps.bind (fun _ _ h => h) fun m => ?_
  intro w _ h
  rw [wp_ite]
  split
  · exact h
  · exact hpatch w trivial h

theorem backendServiceRemoveNegBackends_spares (name : String) (zones : List String) :
    Keeps (fun _ => True) (Sparing naming F) (backendServiceRemoveNegBackends name zones) :=
  Keeps.bind (_getGcpNegsInZones_keeps Sparing.record _ _) fun _ =>
    Keeps.bind (modifyManager_spares (fun _ => rfl) fun _ => rfl) fun _ =>
      patchBackendsOf_keeps Sparing.record _ _ _

/-! ## URL maps -/

theorem createUrlMap_spares (srcHost : String) (srcPort : Int) :
    Keeps (fun _ => True) (Sparing naming F) (createUrlMap srcHost srcPort) := by
  intro w _ h
  simp only [createUrlMap, wp_bind, wp_getManager]
  cases w.manager.slots .backendService with
  | none => exact h
  | some _ =>
    simp only [wp_attr_some, wp_remoteCreateUrlMap, _generateUrlMapBody_name, wp_remoteCreate,
      wp_bind, wp_storeSlot, wp_pure]
    split
    · exact h
    · exact Spares.fill h _ _ (Slot.baseName_mem .urlMap)

/-- The URL map of a body that names it after the manager. -/
theorem createUrlMapWithContent_spares (urlMapBody : Json) :
    Keeps (fun w => ∀ name, urlMapBody.getStr? "name" = some name → w.manager.Names name)
      (Sparing naming F) (createUrlMapWithContent urlMapBody) := by
  intro w hbody h
  simp only [createUrlMapWithContent, wp_bind, wp_remoteCreateUrlMap]
  split
  · rename_i name hname
    simp only [wp_remoteCreate, wp_storeSlot, wp_pure]
    split
    · exact h
    · have hown : naming.Names name := h.naming_eq ▸ hbody name hname
      exact (h.add hown).setSlot _ fun _ e => by
        cases e
        exact hown
  · exact h

theorem createAlternativeUrlMap_spares (srcHost : String) (srcPort : Int)
    (backendService : Option GcpResource) :
    Keeps (fun _ => True) (Sparing naming F)
      (createAlternativeUrlMap srcHost srcPort backendService) := by
  intro w _ h
  simp only [createAlternativeUrlMap, wp_bind, wp_getManager]
  cases (backendService.orElse fun _ => w.manager.slots .alternativeBackendService) with
  | none => exact h
  | some _ =>
    simp only [wp_attr_some, wp_remoteCreateUrlMap, _generateUrlMapBody_name, wp_remoteCreate,
      wp_bind, wp_storeSlot, wp_pure]
    split
    · exact h
    · exact Spares.fill h _ _ (Slot.baseName_mem .alternativeUrlMap)

theorem deleteAlternativeUrlMap_spares (force : Bool) :
    Keeps (fun _ => True) (Sparing naming F) (deleteAlternativeUrlMap force) := by
  intro w _ h
  simp only [deleteAlternativeUrlMap, wp_bind, wp_getManager]
  cases hn : deletionName w.manager .alternativeUrlMap alternativeUrlMapName force with
  | none => exact h
  | some name =>
    simp only [wp_remoteDelete, wp_storeSlot, wp_bind]
    split
    · exact h
    · exact (Spares.erase h (h.deletionName_names hn (Slot.baseName_mem .alternativeUrlMap))).clear _

/-! ## Target proxies -/

theorem createTargetProxy_spares :
    Keeps (fun _ => True) (Sparing naming F) createTargetProxy := by
  intro w _ h
  simp only [createTargetProxy, wp_bind, wp_getManager]
  cases w.manager.protocol .default with
  | UNSET => exact h
  | GRPC | HTTP2 =>
    cases w.manager.slots .urlMap with
    | none => exact Spares.congr h rfl rfl
    | some _ =>
      simp only [wp_bind, wp_pure, wp_modifyManager, wp_attr_some, wp_ite, wp_remoteCreate,
        wp_storeSlot, if_true, if_false, Bool.false_eq_true]
      split
      · exact Spares.congr h rfl rfl
      · refine Spares.fill ?_ _ _ (Slot.baseName_mem .targetProxy)
        exact Spares.congr h rfl rfl

theorem createTargetProxyIpv6_spares :
    Keeps (fun _ => True) (Sparing naming F) createTargetProxyIpv6 := by
  intro w _ h
  simp only [createTargetProxyIpv6, wp_bind, wp_getManager]
  cases w.manager.slots .urlMap with
  | none => exact h
  | some _ =>
    simp only [wp_attr_some, wp_remoteCreate, wp_bind, wp_storeSlot]
    split
    · exact h
    · exact Spares.fill h _ _ (Slot.baseName_mem .targetProxyIpv6)

theorem deleteTargetGrpcProxy_spares (force : Bool) :
    Keeps (fun _ => True) (Sparing naming F) (deleteTargetGrpcProxy force) := by
  intro w _ h
  simp only [deleteTargetGrpcProxy, wp_bind, wp_getManager]
  cases hn : deletionName w.manager .targetProxy targetProxyName force with
  | none => exact h
  | some name =>
    simp only [wp_remoteDelete, wp_storeSlot, wp_bind, wp_modifyManager]
    split
    · exact h
    · exact ((Spares.erase h (h.deletionName_names hn (Slot.baseName_mem .targetProxy))).clear
        _).congr rfl rfl

theorem deleteTargetHttpProxy_spares (force : Bool) :
    Keeps (fun _ => True) (Sparing naming F) (deleteTargetHttpProxy force) := by
  intro w _ h
  simp only [deleteTargetHttpProxy, wp_bind, wp_getManager]
  split
  · exact h
  · rename_i name hn
    have hname : naming.Names name := by
      split at hn
      · cases hn
        exact h.names (Slot.baseName_mem .targetProxy)
      · split at hn
        · obtain ⟨r, hr, rfl⟩ := Option.map_eq_some'.1 hn
          exact h.owned _ r hr
        · cases hn
    simp only [wp_remoteDelete, wp_storeSlot, wp_bind, wp_modifyManager]
    split
    · exact h
    · exact ((Spares.erase h hname).clear _).congr rfl rfl

theorem createAlternativeTargetProxy_spares :
    Keeps (fun _ => True) (Sparing naming F) createAlternativeTargetProxy := by
  intro w _ h
  simp only [createAlternativeTargetProxy, wp_bind, wp_getManager, wp_ite]
  split
  · cases w.manager.slots .alternativeUrlMap with
    | none => exact h
    | some _ =>
      simp only [wp_attr_some, wp_remoteCreate, wp_bind, wp_storeSlot]
      split
      · exact h
      · exact Spares.fill h _ _ (Slot.baseName_mem .alternativeTargetProxy)
  · exact h

/-! ## Forwarding rules and firewall rules -/

theorem createForwardingRuleOf_spares (slot proxySlot : Slot) (srcPort : Int)
    (ipAddress : Option String) :
    Keeps (fun _ => True) (Sparing naming F)
      (createForwardingRuleOf slot slot.baseName proxySlot srcPort ipAddress) := by
  intro w _ h
  simp only [createForwardingRuleOf, wp_bind, wp_getManager]
  cases w.manager.slots proxySlot with
  | none => exact h
  | some _ =>
    simp only [wp_attr_some, wp_remoteCreate, wp_bind, wp_storeSlot, wp_pure]
    split
    · exact h
    · exact Spares.fill h _ _ (Slot.baseName_mem slot)

theorem createFirewallRules_spares (allowedPorts : List String)
    (sourceRange sourceRangeIpv6 : String) :
    Keeps (fun _ => True) (Sparing naming F)
      (createFirewallRules allowedPorts sourceRange sourceRangeIpv6) := by
  have fill : ∀ {m R} (s : Slot) {b : String}, b ∈ baseNames → Spares naming F m R →
      Spares naming F { m.setSlot s (some (Collection.firewalls.handle (m.makeResourceName b))) with
        ensureFirewall := true } (insert (.firewalls, m.makeResourceName b) R) :=
    fun s _ hb h => (h.fill s _ hb).congr rfl rfl
  intro w _ h
  simp only [createFirewallRules, _createFirewallRule, wp_bind, wp_getManager, wp_ite, wp_pure,
    wp_remoteCreate, wp_storeSlot, wp_modifyManager]
  split_ifs
  · exact h
  · exact fill _ (Slot.baseName_mem .firewallRule) h
  · exact fill _ (Slot.baseName_mem .firewallRuleIpv6) (fill _ (Slot.baseName_mem .firewallRule) h)
  · exact fill _ (Slot.baseName_mem .firewallRule) h
  · exact h
  · exact fill _ (Slot.baseName_mem .firewallRuleIpv6) h
  · exact h

theorem deleteFirewallRuleOf_spares (slot : Slot) (force : Bool) :
    Keeps (fun _ => True) (Sparing naming F) (deleteFirewallRuleOf slot slot.baseName force) := by
  intro w _ h
  simp only [deleteFirewallRuleOf, wp_bind, wp_getManager]
  split
  · exact h
  · rename_i name hn
    have hname : naming.Names name := by
      split at hn
      · cases hn
        exact h.owned slot _ ‹_›
      · split at hn
        · cases hn
          exact h.names (Slot.baseName_mem slot)
        · cases hn
    simp only [wp_bind, wp__deleteFirewallRule, wp_ite, wp_storeSlot, wp_pure]
    split
    · exact h
    · exact (Spares.erase h hname).clear _

theorem deleteFirewallRules_spares (force : Bool) :
    Keeps (fun _ => True) (Sparing naming F) (deleteFirewallRules force) := by
  intro w _ h
  simp only [deleteFirewallRules, wp_bind, wp_getManager, wp_ite, wp_pure]
  split
  · exact h
  · refine wp_mono _ _ w (fun _ w₁ h₁ => ?_) (fun _ h => h)
      (deleteFirewallRuleOf_spares .firewallRule force w trivial h)
    rw [wp_bind]
    exact wp_mono _ _ w₁ (fun _ _ h₂ => by rw [wp_modifyManager]; exact Spares.congr h₂ rfl rfl)
      (fun _ h => h)
      (deleteFirewallRuleOf_spares .firewallRuleIpv6 force w₁ trivial h₁)

/-! ## The subclasses -/

/-- The create-then-fetch shape under a name the manager builds. -/
theorem createThenGet_spares {w : World} (h : Sparing naming F w) (slot : Slot)
    (collection : Collection) (body : Json) :
    wp (createThenGet slot collection (w.manager.makeResourceName slot.baseName) body)
      (fun _ => Sparing naming F) (Sparing naming F) w := by
  simp only [createThenGet, wp_bind, wp_remoteCreate, wp_remoteGet, wp_storeSlot, wp_pure]
  split
  · exact h
  · split
    · exact h.add (h.names (Slot.baseName_mem slot))
    · split
      · exact Spares.fill h _ _ (Slot.baseName_mem slot)
      · exact h.add (h.names (Slot.baseName_mem slot))

theorem createMesh_spares : Keeps (fun _ => True) (Sparing naming F) createMesh := fun w _ h => by
  simp only [createMesh, wp_bind, wp_getManager]
  exact createThenGet_spares h .mesh _ _

theorem createGrpcRoute_spares (srcHost : String) (srcPort : Int) :
    Keeps (fun _ => True) (Sparing naming F) (createGrpcRoute srcHost srcPort) := fun w _ h => by
  simp only [createGrpcRoute, wp_bind, wp_getManager]
  cases w.manager.slots .backendService with
  | none => exact h
  | some _ =>
    cases w.manager.slots .mesh with
    | none => exact h
    | some _ => exact createThenGet_spares h .grpcRoute _ _

theorem createGrpcRouteWithContent_spares (body : Json) :
    Keeps (fun _ => True) (Sparing naming F) (createGrpcRouteWithContent body) := fun w _ h => by
  simp only [createGrpcRouteWithContent, wp_bind, wp_getManager]
  exact createThenGet_spares h .grpcRoute _ _

theorem createHttpRouteWithContent_spares (body : Json) :
    Keeps (fun _ => True) (Sparing naming F) (createHttpRouteWithContent body) := fun w _ h => by
  simp only [createHttpRouteWithContent, wp_bind, wp_getManager]
  exact createThenGet_spares h .httpRoute _ _

theorem createServerTlsPolicy_spares (tls mtls : Bool) :
    Keeps (fun _ => True) (Sparing naming F) (createServerTlsPolicy tls mtls) := fun w _ h => by
  simp only [createServerTlsPolicy, wp_bind, wp_getManager, wp_ite, wp_pure]
  split
  · exact h
  · exact wp_mono _ _ w (fun _ _ h => h) (fun _ h => h)
      (createThenGet_spares h .serverTlsPolicy _ _)

theorem createAuthzPolicy_spares (action : String) (rules : List Json) :
    Keeps (fun _ => True) (Sparing naming F) (createAuthzPolicy action rules) := fun w _ h => by
  simp only [createAuthzPolicy, wp_bind, wp_getManager]
  exact wp_mono _ _ w (fun _ _ h => h) (fun _ h => h)
    (createThenGet_spares h .authzPolicy _ _)

theorem createEndpointPolicy_spares (serverNamespace serverName : String) (serverPort : Int) :
    Keeps (fun _ => True) (Sparing naming F)
      (createEndpointPolicy serverNamespace serverName serverPort) := fun w _ h => by
  simp only [createEndpointPolicy, wp_bind, wp_getManager]
  exact wp_mono _ _ w (fun _ _ h => h) (fun _ h => h)
    (createThenGet_spares h .endpointPolicy _ _)

theorem createClientTlsPolicy_spares (tls mtls : Bool) :
    Keeps (fun _ => True) (Sparing naming F) (createClientTlsPolicy tls mtls) := fun w _ h => by
  simp only [createClientTlsPolicy, wp_bind, wp_getManager, wp_ite, wp_pure]
  split
  · exact h
  · exact wp_mono _ _ w (fun _ _ h => h) (fun _ h => h)
      (createThenGet_spares h .clientTlsPolicy _ _)

/-! ## Composite setups and cleanups -/

theorem setupBackendForGrpc_spares (protocol : Option BackendServiceProtocol)
    (healthCheckPort : Option Int) :
    Keeps (fun _ => True) (Sparing naming F) (setupBackendForGrpc protocol healthCheckPort) :=
  .bind (createHealthCheck_spares _ _) fun _ =>
    createBackendServiceOf_spares .default _ _

theorem setupRoutingRuleMapForGrpc_spares (serviceHost : String) (servicePort : Int) :
    Keeps (fun _ => True) (Sparing naming F)
      (setupRoutingRuleMapForGrpc serviceHost servicePort) :=
  .bind (createUrlMap_spares _ _) fun _ =>
  .bind createTargetProxy_spares fun _ =>
  .bind (createForwardingRuleOf_spares .forwardingRule _ _ _) fun _ =>
  .bind (fun _ _ h => h) fun _ w _ h => by
    rw [wp_ite]
    split
    · exact Keeps.bind createTargetProxyIpv6_spares (fun _ => .bind (createForwardingRuleOf_spares
        .forwardingRuleIpv6 _ _ _) fun _ _ _ h => by exact h) w trivial h
    · exact h

theorem setupForGrpc_spares (serviceHost : String) (servicePort : Int)
    (backendProtocol : Option BackendServiceProtocol) (healthCheckPort : Option Int) :
    Keeps (fun _ => True) (Sparing naming F)
      (setupForGrpc serviceHost servicePort backendProtocol healthCheckPort) :=
  .bind (setupBackendForGrpc_spares _ _) fun _ => setupRoutingRuleMapForGrpc_spares _ _

theorem setupServerSecurity_spares (serverNamespace serverName : String) (serverPort : Int)
    (tls mtls : Bool) :
    Keeps (fun _ => True) (Sparing naming F)
      (setupServerSecurity serverNamespace serverName serverPort tls mtls) :=
  .bind (createServerTlsPolicy_spares _ _) fun _ => createEndpointPolicy_spares _ _ _

theorem setupClientSecurity_spares (serverNamespace serverName : String) (tls mtls : Bool) :
    Keeps (fun _ => True) (Sparing naming F)
      (setupClientSecurity serverNamespace serverName tls mtls) :=
  .bind (createClientTlsPolicy_spares _ _) fun _ =>
    backendServiceApplyClientMtlsPolicy_keeps Sparing.record _ _

theorem cleanup_spares (force : Bool) :
    Keeps (fun _ => True) (Sparing naming F) (TrafficDirectorManager.cleanup force) :=
  .bind (deleteFirewallRules_spares force) fun _ =>
  .bind (deleteResource_spares force) fun _ =>
  .bind (deleteResource_spares force) fun _ =>
  .bind (deleteTargetHttpProxy_spares force) fun _ =>
  .bind (deleteTargetGrpcProxy_spares force) fun _ =>
  .bind (.bind (fun _ _ h => h) fun _ w _ h => by
    rw [wp_ite]
    split
    · exact Keeps.bind (deleteResource_spares force)
        (fun _ => deleteResource_spares force) w trivial h
    · exact h) fun _ =>
  .bind (deleteResource_spares force) fun _ =>
  .bind (deleteResource_spares force) fun _ =>
  .bind (deleteAlternativeUrlMap_spares force) fun _ =>
  .bind (deleteResource_spares force) fun _ =>
  .bind (deleteResource_spares force) fun _ =>
  .bind (deleteResource_spares force) fun _ =>
  deleteResource_spares force

theorem cleanupOf_spares (cls : ManagerClass) (force : Bool) :
    Keeps (fun _ => True) (Sparing naming F) (cleanupOf cls force) := by
  cases cls
  · exact cleanup_spares force
  · exact .bind (deleteResource_spares force) fun _ =>
      .bind (deleteResource_spares force) fun _ =>
      .bind (deleteResource_spares force) fun _ => cleanup_spares force
  · exact .bind (cleanup_spares force) fun _ =>
      .bind (deleteResource_spares force) fun _ =>
      .bind (deleteResource_spares force) fun _ =>
      .bind (deleteResource_spares force) fun _ =>
      deleteResource_spares force

theorem onlyOn_spares {α : Type} {x : Exec α} {cls : ManagerClass} {P : World → Prop}
    (method : String) (hx : Keeps (fun _ => True) (Sparing naming F) x) :
    Keeps P (Sparing naming F) (onlyOn cls method x) := fun w _ h => by
  simp only [onlyOn, wp_bind, wp_getManager, wp_ite]
  split
  · rw [wp_discard]
    exact hx w trivial h
  · exact h

end Methods

/-! ## Calls -/

/-- **Every public method call keeps `Spares`**, from every world where the call names only
resources of its manager, whatever calls fail. -/
theorem Op.run_spares {naming : ResourceNaming} {F : Finset (Collection × String)} (op : Op) :
    Keeps (fun w => NamesOwn w op) (Sparing naming F) op.run := by
  cases op with
  | setupForGrpc => exact (setupForGrpc_spares _ _ _ _).any
  | setupBackendForGrpc => exact (setupBackendForGrpc_spares _ _).any
  | setupRoutingRuleMapForGrpc => exact (setupRoutingRuleMapForGrpc_spares _ _).any
  | cleanup force => exact Keeps.bind (fun _ _ h => h) fun _ => cleanupOf_spares _ force
  | createHealthCheck => exact (createHealthCheck_spares _ _).any
  | createBackendService => exact (createBackendServiceOf_spares .default _ _).any
  | createAlternativeBackendService => exact (createBackendServiceOf_spares .alternative _ _).any
  | createAffinityBackendService => exact (createBackendServiceOf_spares .affinity _ _).any
  | loadBackendService => exact (loadBackendServiceOf_spares .default).any
  | loadAlternativeBackendService => exact (loadBackendServiceOf_spares .alternative).any
  | loadAffinityBackendService => exact (loadBackendServiceOf_spares .affinity).any
  | deleteHealthCheck force | deleteBackendService force | deleteAlternativeBackendService force
    | deleteAffinityBackendService force | deleteUrlMap force | deleteTargetProxyIpv6 force
    | deleteAlternativeTargetGrpcProxy force | deleteForwardingRule force
    | deleteForwardingRuleIpv6 force | deleteAlternativeForwardingRule force =>
    exact (deleteResource_spares force).any
  | backendServiceAddNegBackends | alternativeBackendServiceAddNegBackends
    | affinityBackendServiceAddNegBackends =>
    exact (addNegBackendsOf_spares _ _ _ _ (patchBackendsOf_keeps Sparing.record _ _ _)).any
  | backendServiceRemoveNegBackends => exact (backendServiceRemoveNegBackends_spares _ _).any
  | backendServicePatchBackends | alternativeBackendServicePatchBackends
    | affinityBackendServicePatchBackends =>
    exact (patchBackendsOf_keeps Sparing.record _ _ _).any
  | backendServiceRemoveAllBackends | alternativeBackendServiceRemoveAllBackends
    | affinityBackendServiceRemoveAllBackends =>
    exact (removeAllBackendsOf_keeps Sparing.record _).any
  | waitForBackendsHealthyStatus =>
    exact (waitForBackendsHealthyStatus_keeps Sparing.record _).any
  | waitForAlternativeBackendsHealthyStatus | waitForAffinityBackendsHealthyStatus =>
    exact (waitForBackendsHealthyStatusOf_keeps Sparing.record _ _).any
  | createUrlMap => exact (createUrlMap_spares _ _).discard.any
  | patchUrlMap => exact (patchUrlMap_keeps Sparing.record _ _ _).any
  | createUrlMapWithContent => exact (createUrlMapWithContent_spares _).discard
  | createAlternativeUrlMap => exact (createAlternativeUrlMap_spares _ _ _).discard.any
  | deleteAlternativeUrlMap => exact (deleteAlternativeUrlMap_spares _).any
  | createTargetProxy => exact createTargetProxy_spares.any
  | createTargetProxyIpv6 => exact createTargetProxyIpv6_spares.any
  | deleteTargetGrpcProxy => exact (deleteTargetGrpcProxy_spares _).any
  | deleteTargetHttpProxy => exact (deleteTargetHttpProxy_spares _).any
  | createAlternativeTargetProxy => exact createAlternativeTargetProxy_spares.any
  | createForwardingRule | createForwardingRuleIpv6 | createAlternativeForwardingRule =>
    exact (createForwardingRuleOf_spares _ _ _ _).discard.any
  | createFirewallRules => exact (createFirewallRules_spares _ _ _).any
  | deleteFirewallRules => exact (deleteFirewallRules_spares _).any
  | deleteFirewallRule | deleteFirewallRuleIpv6 => exact (deleteFirewallRuleOf_spares _ _).any
  | createMesh => exact onlyOn_spares _ createMesh_spares
  | createGrpcRoute => exact onlyOn_spares _ (createGrpcRoute_spares _ _)
  | createGrpcRouteWithContent => exact onlyOn_spares _ (createGrpcRouteWithContent_spares _)
  | createHttpRouteWithContent => exact onlyOn_spares _ (createHttpRouteWithContent_spares _)
  | setupServerSecurity => exact onlyOn_spares _ (setupServerSecurity_spares _ _ _ _ _)
  | setupClientSecurity => exact onlyOn_spares _ (setupClientSecurity_spares _ _ _ _)
  | createServerTlsPolicy => exact onlyOn_spares _ (createServerTlsPolicy_spares _ _)
  | createAuthzPolicy => exact onlyOn_spares _ (createAuthzPolicy_spares _ _)
  | createEndpointPolicy => exact onlyOn_spares _ (createEndpointPolicy_spares _ _ _)
  | createClientTlsPolicy => exact onlyOn_spares _ (createClientTlsPolicy_spares _ _)
  | backendServiceApplyClientMtlsPolicy =>
    exact onlyOn_spares _ (backendServiceApplyClientMtlsPolicy_keeps Sparing.record _ _)
  | deleteMesh force | deleteGrpcRoute force | deleteHttpRoute force | deleteServerTlsPolicy force
    | deleteAuthzPolicy force | deleteEndpointPolicy force | deleteClientTlsPolicy force =>
    exact onlyOn_spares _ (deleteResource_spares force)

end TrafficDirector
