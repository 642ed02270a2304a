import TrafficDirector.Proofs.Ownership

/-!
# TrafficDirector — a manager's calls see only the resources it names

A manager reads the remote at one place only, the fetch of `createThenGet` and of the
`load_*backend_service` methods, and there it asks for a resource under a name it builds with
`make_resource_name`. Every other effect on the remote is a create or a delete, which two worlds
agreeing on the manager's names still agree on afterwards. So, on a run where no call fails, a
call cannot tell apart two worlds with the same manager attributes and the same resources among
the names that manager builds: it returns the same value or raises the same error in both, and
leaves two such worlds again.

## The architecture

* **`Agrees naming w₁ w₂`** — the two worlds have the same manager, of naming tuple `naming`,
  the same resources among the names `naming` builds, and no failing call. What other resources
  they hold, and what calls they have logged, is left open.
* **`Local naming x`** — `x` run from two agreeing worlds gives agreeing outcomes. One lemma per
  primitive and per way of composing them; the fetch is the only primitive with a side
  condition, that the name is one `naming` builds.
* **`Op.run_local`** — every public method call is `Local`, with no condition on the call.
-/

namespace TrafficDirector

open TrafficDirectorManager TrafficDirectorAppNetManager TrafficDirectorSecureManager

variable {α β : Type} {naming : ResourceNaming}

/-! ## Worlds a manager cannot tell apart -/

/-- Two worlds the manager of naming tuple `naming` cannot tell apart: the same attributes,
the same resources among the names `naming` builds, and no failing call in either. -/
structure Agrees (naming : ResourceNaming) (w₁ w₂ : World) : Prop where
  manager_eq : w₁.manager = w₂.manager
  naming_eq : w₁.manager.toResourceNaming = naming
  remote_iff : ∀ p : Collection × String, naming.Names p.2 → (p ∈ w₁.remote ↔ p ∈ w₂.remote)
  succeeds₁ : Succeeds w₁.fault
  succeeds₂ : Succeeds w₂.fault

namespace Agrees

variable {w w₁ w₂ w₃ : World}

theorem refl (hn : w.manager.toResourceNaming = naming) (hH : Succeeds w.fault) :
    Agrees naming w w :=
  ⟨rfl, hn, fun _ _ => Iff.rfl, hH, hH⟩

theorem symm (h : Agrees naming w₁ w₂) : Agrees naming w₂ w₁ :=
  ⟨h.manager_eq.symm, h.manager_eq ▸ h.naming_eq, fun p hp => (h.remote_iff p hp).symm,
    h.succeeds₂, h.succeeds₁⟩

theorem trans (h₁ : Agrees naming w₁ w₂) (h₂ : Agrees naming w₂ w₃) : Agrees naming w₁ w₃ :=
  ⟨h₁.manager_eq.trans h₂.manager_eq, h₁.naming_eq,
    fun p hp => (h₁.remote_iff p hp).trans (h₂.remote_iff p hp), h₁.succeeds₁, h₂.succeeds₂⟩

/-- The calls logged do not matter. -/
theorem record (h : Agrees naming w₁ w₂) (c₁ c₂ : Call) :
    Agrees naming (w₁.record c₁) (w₂.record c₂) :=
  ⟨h.manager_eq, h.naming_eq, h.remote_iff, h.succeeds₁, h.succeeds₂⟩

/-- The same change to the manager's flags, protocols, backends or slots. -/
theorem manager (h : Agrees naming w₁ w₂) {g : TrafficDirectorManager → TrafficDirectorManager}
    (hg : ∀ m, (g m).toResourceNaming = m.toResourceNaming) :
    Agrees naming { w₁ with manager := g w₁.manager } { w₂ with manager := g w₂.manager } :=
  { h with
    manager_eq := congrArg g h.manager_eq
    naming_eq := (hg _).trans h.naming_eq }

/-- The same resource created in both. -/
theorem insert (h : Agrees naming w₁ w₂) (p : Collection × String) :
    Agrees naming { w₁ with remote := insert p w₁.remote } { w₂ with remote := insert p w₂.remote } :=
  { h with remote_iff := fun q hq => by simp only [Finset.mem_insert, h.remote_iff q hq] }

/-- The same resource deleted in both. -/
theorem erase (h : Agrees naming w₁ w₂) (p : Collection × String) :
    Agrees naming { w₁ with remote := w₁.remote.erase p } { w₂ with remote := w₂.remote.erase p } :=
  { h with remote_iff := fun q hq => by simp only [Finset.mem_erase, h.remote_iff q hq] }

end Agrees

/-- Two outcomes the manager cannot tell apart: the same value, or the same error, left in
agreeing worlds. -/
def OutcomesAgree (naming : ResourceNaming) :
    EStateM.Result Error World α → EStateM.Result Error World α → Prop
  | .ok a w₁, .ok b w₂ => a = b ∧ Agrees naming w₁ w₂
  | .error e₁ w₁, .error e₂ w₂ => e₁ = e₂ ∧ Agrees naming w₁ w₂
  | _, _ => False

theorem OutcomesAgree.ok {a : α} {w₁ w₂ : World} (h : Agrees naming w₁ w₂) :
    OutcomesAgree naming (.ok a w₁) (.ok a w₂) :=
  ⟨rfl, h⟩

theorem OutcomesAgree.error {e : Error} {w₁ w₂ : World} (h : Agrees naming w₁ w₂) :
    OutcomesAgree naming (.error e w₁ : EStateM.Result Error World α) (.error e w₂) :=
  ⟨rfl, h⟩

/-- The worlds two agreeing outcomes leave agree. -/
theorem OutcomesAgree.finalWorld {x : Exec α} {w₁ w₂ : World}
    (h : OutcomesAgree naming (x w₁) (x w₂)) :
    Agrees naming (TrafficDirector.finalWorld x w₁) (TrafficDirector.finalWorld x w₂) := by
  unfold TrafficDirector.finalWorld
  revert h
  cases x w₁ <;> cases x w₂
  · exact And.right
  · exact False.elim
  · exact False.elim
  · exact And.right

/-- `x` run from two worlds the manager cannot tell apart gives outcomes it cannot tell
apart. -/
def Local (naming : ResourceNaming) (x : Exec α) : Prop :=
  ∀ w₁ w₂, Agrees naming w₁ w₂ → OutcomesAgree naming (x w₁) (x w₂)

/-! ## Primitives and composition -/

namespace Local

theorem bind {x : Exec β} {f : β → Exec α} (hx : Local naming x) (hf : ∀ b, Local naming (f b)) :
    Local naming (x >>= f) := fun w₁ w₂ h => by
  have hxw := hx w₁ w₂ h
  revert hxw
  cases h₁ : x w₁ <;> cases h₂ : x w₂
  · rintro ⟨rfl, hw⟩
    rw [bind_ok h₁, bind_ok h₂]
    exact hf _ _ _ hw
  · exact False.elim
  · exact False.elim
  · rintro ⟨rfl, hw⟩
    rw [bind_error h₁, bind_error h₂]
    exact .error hw

protected theorem pure (a : α) : Local naming (pure a : Exec α) := fun _ _ h => .ok h

protected theorem throw (e : Error) : Local naming (throw e : Exec α) := fun _ _ h => .error h

protected theorem getManager : Local naming getManager := fun w₁ w₂ h => by
  show OutcomesAgree naming (.ok w₁.manager w₁) (.ok w₂.manager w₂)
  rw [h.manager_eq]
  exact .ok h

/-- A change of the world that keeps worlds agreeing. -/
protected theorem modify {g : World → World}
    (hg : ∀ w₁ w₂, Agrees naming w₁ w₂ → Agrees naming (g w₁) (g w₂)) :
    Local naming (modify g : Exec Unit) := fun w₁ w₂ h => .ok (hg w₁ w₂ h)

protected theorem modifyManager {g : TrafficDirectorManager → TrafficDirectorManager}
    (hg : ∀ m, (g m).toResourceNaming = m.toResourceNaming) : Local naming (modifyManager g) :=
  Local.modify fun _ _ h => h.manager hg

protected theorem storeSlot (slot : Slot) (value : Option GcpResource) :
    Local naming (storeSlot slot value) :=
  Local.modifyManager fun _ => rfl

protected theorem attr (value : Option α) (field : String) : Local naming (attr value field) := by
  cases value
  · exact Local.throw _
  · exact Local.pure _

protected theorem issue (call : Call) : Local naming (issue call) := fun w₁ w₂ h => by
  unfold issue
  rw [h.succeeds₁.nextFails rfl, h.succeeds₂.nextFails rfl]
  exact .ok (h.record _ _)

protected theorem remoteCreate (collection : Collection) (name : String) (args : CreateArgs) :
    Local naming (remoteCreate collection name args) :=
  .bind (Local.issue _) fun _ => .bind (Local.modify fun _ _ h => h.insert _) fun _ => Local.pure _

protected theorem remoteDelete (collection : Collection) (name : String) :
    Local naming (remoteDelete collection name) :=
  .bind (Local.issue _) fun _ => Local.modify fun _ _ h => h.erase _

/-- The one read of the remote: a fetch under a name the manager builds. -/
protected theorem remoteGet (collection : Collection) {name : String} (hname : naming.Names name) :
    Local naming (remoteGet collection name) :=
  .bind (Local.issue _) fun _ w₁ w₂ h => by
    show OutcomesAgree naming
      ((if (collection, name) ∈ w₁.remote then pure (collection.handle name) else throw .gcpError :
        Exec GcpResource) w₁)
      ((if (collection, name) ∈ w₂.remote then pure (collection.handle name) else throw .gcpError :
        Exec GcpResource) w₂)
    by_cases hm : (collection, name) ∈ w₁.remote
    · rw [if_pos hm, if_pos ((h.remote_iff _ hname).1 hm)]
      exact .ok h
    · rw [if_neg hm, if_neg (mt (h.remote_iff _ hname).2 hm)]
      exact .error h

protected theorem remoteCreateUrlMap (body : Json) : Local naming (remoteCreateUrlMap body) := by
  unfold remoteCreateUrlMap
  split
  · exact Local.remoteCreate _ _ _
  · exact .bind (Local.issue _) fun _ => Local.throw _

theorem discard {x : Exec α} (hx : Local naming x) : Local naming (discard x) :=
  .bind hx fun _ => Local.pure _

/-- What follows reading the manager may use its naming tuple. -/
theorem getManager_bind {f : TrafficDirectorManager → Exec α}
    (hf : ∀ m : TrafficDirectorManager, m.toResourceNaming = naming → Local naming (f m)) :
    Local naming (getManager >>= f) := fun w₁ w₂ h => by
  rw [bind_ok (getManager_apply w₁), bind_ok (getManager_apply w₂), ← h.manager_eq]
  exact hf _ h.naming_eq w₁ w₂ h

/-- A loop whose every step is local. -/
theorem foldlM {γ : Type} {f : β → γ → Exec β} (hf : ∀ b c, Local naming (f b c)) :
    ∀ (l : List γ) (b : β), Local naming (l.foldlM f b)
  | [], b => Local.pure b
  | c :: l, b => by
    rw [List.foldlM_cons]
    exact .bind (hf b c) fun b' => foldlM hf l b'

/-- Catching an error: the handler runs from agreeing worlds on the same error. -/
protected theorem tryCatch {x : Exec α} {handle : Error → Exec α} (hx : Local naming x)
    (hh : ∀ e, Local naming (handle e)) : Local naming (tryCatch x handle) := fun w₁ w₂ h => by
  have hxw := hx w₁ w₂ h
  show OutcomesAgree naming (EStateM.tryCatch x handle w₁) (EStateM.tryCatch x handle w₂)
  unfold EStateM.tryCatch
  revert hxw
  cases x w₁ <;> cases x w₂
  · exact id
  · exact False.elim
  · exact False.elim
  · rintro ⟨rfl, hw⟩
    exact hh _ _ _ hw

end Local

/-! ## The methods -/

section Methods

theorem deleteResource_local (slot : Slot) (collection : Collection) (baseName : String)
    (force : Bool) : Local naming (deleteResource slot collection baseName force) :=
  .bind Local.getManager fun _ => by
    split
    · exact Local.pure _
    · exact .bind (Local.remoteDelete _ _) fun _ => Local.storeSlot _ _

theorem createHealthCheck_local (protocol : Option HealthCheckProtocol) (port : Option Int) :
    Local naming (createHealthCheck protocol port) :=
  .bind Local.getManager fun _ => by
    split <;> refine .bind (by first | exact Local.throw _ | exact Local.pure _) fun _ => ?_
    all_goals exact .bind (Local.remoteCreate _ _ _) fun _ => Local.storeSlot _ _

theorem createBackendServiceOf_local (variant : BackendServiceVariant) (baseName : String)
    (protocol : Option BackendServiceProtocol) (options : BackendServiceOptions) :
    Local naming (createBackendServiceOf variant baseName protocol options) :=
  .bind Local.getManager fun _ => .bind (Local.remoteCreate _ _ _) fun _ =>
    .bind (Local.storeSlot _ _) fun _ => Local.modifyManager fun _ => rfl

/-- A name the manager read from the world builds from a base-name constant. -/
theorem names_of_naming_eq {m : TrafficDirectorManager} (hm : m.toResourceNaming = naming)
    {b : String} (hb : b ∈ baseNames) : naming.Names (m.makeResourceName b) :=
  hm ▸ ResourceNaming.names_makeResourceName _ hb

/-- The fetch of a `load_*backend_service` asks for a name the manager builds. -/
theorem loadBackendServiceOf_local (variant : BackendServiceVariant) :
    Local naming (loadBackendServiceOf variant variant.slot.baseName) :=
  .getManager_bind fun _ hm =>
    .bind (Local.remoteGet _ (names_of_naming_eq hm (Slot.baseName_mem _))) fun _ =>
      Local.storeSlot _ _

theorem _getGcpNegsInZones_local (name : String) (zones : List String) :
    Local naming (_getGcpNegsInZones name zones) :=
  Local.foldlM (fun _ _ => .bind (.bind (Local.issue _) fun _ => Local.pure _) fun _ =>
    Local.pure _) zones ∅

theorem patchBackendsOf_local (variant : BackendServiceVariant)
    (maxRatePerEndpoint : Option Int) (circuitBreakers : Option Json) :
    Local naming (patchBackendsOf variant maxRatePerEndpoint circuitBreakers) :=
  .bind Local.getManager fun _ => .bind (Local.attr _ _) fun _ => Local.issue _

theorem addNegBackendsOf_local (variant : BackendServiceVariant) (message name : String)
    (zones : List String) {patch : Exec Unit} (hpatch : Local naming patch) :
    Local naming (addNegBackendsOf variant message name zones patch) :=
  .bind (_getGcpNegsInZones_local _ _) fun _ => .bind (Local.modifyManager fun _ => rfl) fun _ =>
    .bind Local.getManager fun _ => by
      split <;> refine .bind (by first | exact Local.throw _ | exact Local.pure _) fun _ => hpatch

theorem backendServiceRemoveNegBackends_local (name : String) (zones : List String) :
    Local naming (backendServiceRemoveNegBackends name zones) :=
  .bind (_getGcpNegsInZones_local _ _) fun _ => .bind (Local.modifyManager fun _ => rfl) fun _ =>
    patchBackendsOf_local _ _ _

theorem removeAllBackendsOf_local (variant : BackendServiceVariant) :
    Local naming (removeAllBackendsOf variant) :=
  .bind Local.getManager fun _ => .bind (Local.attr _ _) fun _ => Local.issue _

theorem waitForBackendsHealthyStatusOf_local (variant : BackendServiceVariant)
    (replicaCount : Int) : Local naming (waitForBackendsHealthyStatusOf variant replicaCount) :=
  .bind Local.getManager fun _ => Local.issue _

theorem waitForBackendsHealthyStatus_local (replicaCount : Int) :
    Local naming (waitForBackendsHealthyStatus replicaCount) :=
  .bind Local.getManager fun _ => .bind (Local.attr _ _) fun _ =>
    waitForBackendsHealthyStatusOf_local _ _

theorem createUrlMap_local (srcHost : String) (srcPort : Int) :
    Local naming (createUrlMap srcHost srcPort) :=
  .bind Local.getManager fun _ => .bind (Local.attr _ _) fun _ =>
    .bind (Local.remoteCreateUrlMap _) fun _ => .bind (Local.storeSlot _ _) fun _ => Local.pure _

theorem patchUrlMap_local (srcHost : String) (srcPort : Int) (backendService : GcpResource) :
    Local naming (patchUrlMap srcHost srcPort backendService) :=
  .bind Local.getManager fun _ => Local.issue _

theorem createUrlMapWithContent_local (urlMapBody : Json) :
    Local naming (createUrlMapWithContent urlMapBody) :=
  .bind (Local.remoteCreateUrlMap _) fun _ => .bind (Local.storeSlot _ _) fun _ => Local.pure _

theorem createAlternativeUrlMap_local (srcHost : String) (srcPort : Int)
    (backendService : Option GcpResource) :
    Local naming (createAlternativeUrlMap srcHost srcPort backendService) :=
  .bind Local.getManager fun _ => .bind (Local.attr _ _) fun _ =>
    .bind (Local.remoteCreateUrlMap _) fun _ => .bind (Local.storeSlot _ _) fun _ => Local.pure _

theorem deleteAlternativeUrlMap_local (force : Bool) :
    Local naming (deleteAlternativeUrlMap force) :=
  .bind Local.getManager fun _ => by
    split
    · exact Local.pure _
    · exact .bind (Local.remoteDelete _ _) fun _ => Local.storeSlot _ _

theorem createTargetProxy_local : Local naming createTargetProxy :=
  .bind Local.getManager fun _ => by
    split <;> refine .bind (by first | exact Local.throw _ | exact Local.pure _) fun _ => ?_
    all_goals
      refine .bind (Local.modifyManager fun _ => rfl) fun _ => .bind (Local.attr _ _) fun _ => ?_
      split <;> exact .bind (Local.remoteCreate _ _ _) fun _ => Local.storeSlot _ _

theorem createTargetProxyIpv6_local : Local naming createTargetProxyIpv6 :=
  .bind Local.getManager fun _ => .bind (Local.attr _ _) fun _ =>
    .bind (Local.remoteCreate _ _ _) fun _ => Local.storeSlot _ _

theorem deleteTargetGrpcProxy_local (force : Bool) : Local naming (deleteTargetGrpcProxy force) :=
  .bind Local.getManager fun _ => by
    split
    · exact Local.pure _
    · exact .bind (Local.remoteDelete _ _) fun _ => .bind (Local.storeSlot _ _) fun _ =>
        Local.modifyManager fun _ => rfl

theorem deleteTargetHttpProxy_local (force : Bool) : Local naming (deleteTargetHttpProxy force) :=
  .bind Local.getManager fun _ => by
    dsimp only
    split
    · exact Local.pure _
    · exact .bind (Local.remoteDelete _ _) fun _ => .bind (Local.storeSlot _ _) fun _ =>
        Local.modifyManager fun _ => rfl

theorem createAlternativeTargetProxy_local : Local naming createAlternativeTargetProxy :=
  .bind Local.getManager fun _ => by
    split
    · exact .bind (Local.attr _ _) fun _ => .bind (Local.remoteCreate _ _ _) fun _ =>
        Local.storeSlot _ _
    · exact Local.throw _

theorem createForwardingRuleOf_local (slot : Slot) (baseName : String) (proxySlot : Slot)
    (srcPort : Int) (ipAddress : Option String) :
    Local naming (createForwardingRuleOf slot baseName proxySlot srcPort ipAddress) :=
  .bind Local.getManager fun _ => .bind (Local.attr _ _) fun _ =>
    .bind (Local.remoteCreate _ _ _) fun _ => .bind (Local.storeSlot _ _) fun _ => Local.pure _

theorem _createFirewallRule_local (name sourceRange : String) (allowedPorts : List String) :
    Local naming (_createFirewallRule name sourceRange allowedPorts) :=
  .bind Local.getManager fun _ => Local.remoteCreate _ _ _

/-- Each rule of `create_firewall_rules`: created, stored, and `_ensure_firewall` set. -/
theorem createFirewallRules_local (allowedPorts : List String)
    (sourceRange sourceRangeIpv6 : String) :
    Local naming (createFirewallRules allowedPorts sourceRange sourceRangeIpv6) := by
  unfold createFirewallRules
  dsimp only
  split
  · refine .bind Local.getManager fun _ => .bind (_createFirewallRule_local _ _ _) fun _ =>
      .bind (Local.storeSlot _ _) fun _ => .bind (Local.modifyManager fun _ => rfl) fun _ => ?_
    split
    · exact .bind Local.getManager fun _ => .bind (_createFirewallRule_local _ _ _) fun _ =>
        .bind (Local.storeSlot _ _) fun _ => Local.modifyManager fun _ => rfl
    · exact Local.pure _
  · refine .bind (Local.pure _) fun _ => ?_
    split
    · exact .bind Local.getManager fun _ => .bind (_createFirewallRule_local _ _ _) fun _ =>
        .bind (Local.storeSlot _ _) fun _ => Local.modifyManager fun _ => rfl
    · exact Local.pure _

theorem _deleteFirewallRule_local (name : String) : Local naming (_deleteFirewallRule name) :=
  Local.tryCatch (.bind (Local.remoteDelete _ _) fun _ => Local.pure _) fun _ => by
    split
    · exact Local.pure _
    · exact Local.throw _

theorem deleteFirewallRuleOf_local (slot : Slot) (baseName : String) (force : Bool) :
    Local naming (deleteFirewallRuleOf slot baseName force) :=
  .bind Local.getManager fun _ => by
    dsimp only
    split
    · exact Local.pure _
    · refine .bind (_deleteFirewallRule_local _) fun _ => ?_
      split
      · exact Local.storeSlot _ _
      · exact Local.pure _

theorem deleteFirewallRules_local (force : Bool) : Local naming (deleteFirewallRules force) :=
  .bind Local.getManager fun _ => by
    split
    · exact Local.pure _
    · exact .bind (Local.pure _) fun _ => .bind (deleteFirewallRuleOf_local _ _ _) fun _ =>
        .bind (deleteFirewallRuleOf_local _ _ _) fun _ => Local.modifyManager fun _ => rfl

theorem setupBackendForGrpc_local (protocol : Option BackendServiceProtocol)
    (healthCheckPort : Option Int) : Local naming (setupBackendForGrpc protocol healthCheckPort) :=
  .bind (createHealthCheck_local _ _) fun _ => createBackendServiceOf_local _ _ _ _

theorem setupRoutingRuleMapForGrpc_local (serviceHost : String) (servicePort : Int) :
    Local naming (setupRoutingRuleMapForGrpc serviceHost servicePort) :=
  .bind (createUrlMap_local _ _) fun _ => .bind createTargetProxy_local fun _ =>
    .bind (createForwardingRuleOf_local _ _ _ _ _) fun _ => .bind Local.getManager fun _ => by
      split
      · exact .bind createTargetProxyIpv6_local fun _ =>
          .bind (createForwardingRuleOf_local _ _ _ _ _) fun _ => Local.pure _
      · exact Local.pure _

theorem setupForGrpc_local (serviceHost : String) (servicePort : Int)
    (backendProtocol : Option BackendServiceProtocol) (healthCheckPort : Option Int) :
    Local naming (setupForGrpc serviceHost servicePort backendProtocol healthCheckPort) :=
  .bind (setupBackendForGrpc_local _ _) fun _ => setupRoutingRuleMapForGrpc_local _ _

theorem cleanup_local (force : Bool) : Local naming (TrafficDirectorManager.cleanup force) :=
  .bind (deleteFirewallRules_local _) fun _ => .bind (deleteResource_local _ _ _ _) fun _ =>
  .bind (deleteResource_local _ _ _ _) fun _ => .bind (deleteTargetHttpProxy_local _) fun _ =>
  .bind (deleteTargetGrpcProxy_local _) fun _ =>
  .bind (.bind Local.getManager fun _ => by
    split
    · exact .bind (deleteResource_local _ _ _ _) fun _ => deleteResource_local _ _ _ _
    · exact Local.pure _) fun _ =>
  .bind (deleteResource_local _ _ _ _) fun _ => .bind (deleteResource_local _ _ _ _) fun _ =>
  .bind (deleteAlternativeUrlMap_local _) fun _ => .bind (deleteResource_local _ _ _ _) fun _ =>
  .bind (deleteResource_local _ _ _ _) fun _ => .bind (deleteResource_local _ _ _ _) fun _ =>
  deleteResource_local _ _ _ _

/-- The create-then-fetch shape: the fetch asks for the name just created. -/
theorem createThenGet_local (slot : Slot) (collection : Collection) {name : String}
    (hname : naming.Names name) (body : Json) :
    Local naming (createThenGet slot collection name body) :=
  .bind (Local.remoteCreate _ _ _) fun _ => .bind (Local.remoteGet _ hname) fun _ =>
    .bind (Local.storeSlot _ _) fun _ => Local.pure _

theorem createMesh_local : Local naming createMesh :=
  .getManager_bind fun _ hm => createThenGet_local _ _ (names_of_naming_eq hm (by decide)) _

theorem createGrpcRoute_local (srcHost : String) (srcPort : Int) :
    Local naming (createGrpcRoute srcHost srcPort) :=
  .getManager_bind fun _ hm => .bind (Local.attr _ _) fun _ => .bind (Local.attr _ _) fun _ =>
    createThenGet_local _ _ (names_of_naming_eq hm (by decide)) _

theorem createGrpcRouteWithContent_local (body : Json) :
    Local naming (createGrpcRouteWithContent body) :=
  .getManager_bind fun _ hm => createThenGet_local _ _ (names_of_naming_eq hm (by decide)) _

theorem createHttpRouteWithContent_local (body : Json) :
    Local naming (createHttpRouteWithContent body) :=
  .getManager_bind fun _ hm => createThenGet_local _ _ (names_of_naming_eq hm (by decide)) _

theorem createServerTlsPolicy_local (tls mtls : Bool) :
    Local naming (createServerTlsPolicy tls mtls) :=
  .getManager_bind fun _ hm => by
    dsimp only
    split
    · exact Local.pure _
    · exact .bind (Local.pure _) fun _ =>
        .bind (createThenGet_local _ _ (names_of_naming_eq hm (by decide)) _) fun _ => Local.pure _

theorem createAuthzPolicy_local (action : String) (rules : List Json) :
    Local naming (createAuthzPolicy action rules) :=
  .getManager_bind fun _ hm =>
    .bind (createThenGet_local _ _ (names_of_naming_eq hm (by decide)) _) fun _ => Local.pure _

theorem createEndpointPolicy_local (serverNamespace serverName : String) (serverPort : Int) :
    Local naming (createEndpointPolicy serverNamespace serverName serverPort) :=
  .getManager_bind fun _ hm =>
    .bind (createThenGet_local _ _ (names_of_naming_eq hm (by decide)) _) fun _ => Local.pure _

theorem createClientTlsPolicy_local (tls mtls : Bool) :
    Local naming (createClientTlsPolicy tls mtls) :=
  .getManager_bind fun _ hm => by
    dsimp only
    split
    · exact Local.pure _
    · exact .bind (Local.pure _) fun _ =>
        .bind (createThenGet_local _ _ (names_of_naming_eq hm (by decide)) _) fun _ => Local.pure _

theorem backendServiceApplyClientMtlsPolicy_local (serverNamespace serverName : String) :
    Local naming (backendServiceApplyClientMtlsPolicy serverNamespace serverName) :=
  .bind Local.getManager fun _ => by
    split
    · exact (Local.attr _ _).discard
    · exact .bind (Local.attr _ _) fun _ => Local.issue _

theorem cleanupOf_local (cls : ManagerClass) (force : Bool) : Local naming (cleanupOf cls force) := by
  cases cls
  · exact cleanup_local force
  · exact .bind (deleteResource_local _ _ _ _) fun _ => .bind (deleteResource_local _ _ _ _)
      fun _ => .bind (deleteResource_local _ _ _ _) fun _ => cleanup_local force
  · exact .bind (cleanup_local force) fun _ => .bind (deleteResource_local _ _ _ _) fun _ =>
      .bind (deleteResource_local _ _ _ _) fun _ => .bind (deleteResource_local _ _ _ _) fun _ =>
      deleteResource_local _ _ _ _

theorem onlyOn_local {x : Exec α} (cls : ManagerClass) (method : String) (hx : Local naming x) :
    Local naming (onlyOn cls method x) :=
  .bind Local.getManager fun _ => by
    split
    · exact hx.discard
    · exact Local.throw _

end Methods

/-- **Every public method call is local**: run from two worlds its manager cannot tell apart,
it gives outcomes the manager cannot tell apart. -/
theorem Op.run_local (op : Op) : Local naming op.run := by
  cases op with
  | setupForGrpc => exact setupForGrpc_local _ _ _ _
  | setupBackendForGrpc => exact setupBackendForGrpc_local _ _
  | setupRoutingRuleMapForGrpc => exact setupRoutingRuleMapForGrpc_local _ _
  | cleanup force => exact .bind Local.getManager fun _ => cleanupOf_local _ force
  | createHealthCheck => exact createHealthCheck_local _ _
  | createBackendService | createAlternativeBackendService | createAffinityBackendService =>
    exact createBackendServiceOf_local _ _ _ _
  | loadBackendService => exact loadBackendServiceOf_local .default
  | loadAlternativeBackendService => exact loadBackendServiceOf_local .alternative
  | loadAffinityBackendService => exact loadBackendServiceOf_local .affinity
  | deleteHealthCheck | deleteBackendService | deleteAlternativeBackendService
    | deleteAffinityBackendService | deleteUrlMap | deleteTargetProxyIpv6
    | deleteAlternativeTargetGrpcProxy | deleteForwardingRule | deleteForwardingRuleIpv6
    | deleteAlternativeForwardingRule => exact deleteResource_local _ _ _ _
  | backendServiceAddNegBackends | alternativeBackendServiceAddNegBackends
    | affinityBackendServiceAddNegBackends =>
    exact addNegBackendsOf_local _ _ _ _ (patchBackendsOf_local _ _ _)
  | backendServiceRemoveNegBackends => exact backendServiceRemoveNegBackends_local _ _
  | backendServicePatchBackends | alternativeBackendServicePatchBackends
    | affinityBackendServicePatchBackends => exact patchBackendsOf_local _ _ _
  | backendServiceRemoveAllBackends | alternativeBackendServiceRemoveAllBackends
    | affinityBackendServiceRemoveAllBackends => exact removeAllBackendsOf_local _
  | waitForBackendsHealthyStatus => exact waitForBackendsHealthyStatus_local _
  | waitForAlternativeBackendsHealthyStatus | waitForAffinityBackendsHealthyStatus =>
    exact waitForBackendsHealthyStatusOf_local _ _
  | createUrlMap => exact (createUrlMap_local _ _).discard
  | patchUrlMap => exact patchUrlMap_local _ _ _
  | createUrlMapWithContent => exact (createUrlMapWithContent_local _).discard
  | createAlternativeUrlMap => exact (createAlternativeUrlMap_local _ _ _).discard
  | deleteAlternativeUrlMap => exact deleteAlternativeUrlMap_local _
  | createTargetProxy => exact createTargetProxy_local
  | createTargetProxyIpv6 => exact createTargetProxyIpv6_local
  | deleteTargetGrpcProxy => exact deleteTargetGrpcProxy_local _
  | deleteTargetHttpProxy => exact deleteTargetHttpProxy_local _
  | createAlternativeTargetProxy => exact createAlternativeTargetProxy_local
  | createForwardingRule | createForwardingRuleIpv6 | createAlternativeForwardingRule =>
    exact (createForwardingRuleOf_local _ _ _ _ _).discard
  | createFirewallRules => exact createFirewallRules_local _ _ _
  | deleteFirewallRules => exact deleteFirewallRules_local _
  | deleteFirewallRule | deleteFirewallRuleIpv6 => exact deleteFirewallRuleOf_local _ _ _
  | createMesh => exact onlyOn_local _ _ createMesh_local
  | deleteMesh | deleteGrpcRoute | deleteHttpRoute | deleteServerTlsPolicy | deleteAuthzPolicy
    | deleteEndpointPolicy | deleteClientTlsPolicy =>
    exact onlyOn_local _ _ (deleteResource_local _ _ _ _)
  | createGrpcRoute => exact onlyOn_local _ _ (createGrpcRoute_local _ _)
  | createGrpcRouteWithContent => exact onlyOn_local _ _ (createGrpcRouteWithContent_local _)
  | createHttpRouteWithContent => exact onlyOn_local _ _ (createHttpRouteWithContent_local _)
  | setupServerSecurity =>
    exact onlyOn_local _ _ (.bind (createServerTlsPolicy_local _ _) fun _ =>
      createEndpointPolicy_local _ _ _)
  | setupClientSecurity =>
    exact onlyOn_local _ _ (.bind (createClientTlsPolicy_local _ _) fun _ =>
      backendServiceApplyClientMtlsPolicy_local _ _)
  | createServerTlsPolicy => exact onlyOn_local _ _ (createServerTlsPolicy_local _ _)
  | createAuthzPolicy => exact onlyOn_local _ _ (createAuthzPolicy_local _ _)
  | createEndpointPolicy => exact onlyOn_local _ _ (createEndpointPolicy_local _ _ _)
  | createClientTlsPolicy => exact onlyOn_local _ _ (createClientTlsPolicy_local _ _)
  | backendServiceApplyClientMtlsPolicy =>
    exact onlyOn_local _ _ (backendServiceApplyClientMtlsPolicy_local _ _)

end TrafficDirector
