import TrafficDirector.Proofs.Invariant

/-!
# TrafficDirector — every method keeps the registry invariant

One lemma per method body (per family for the shared bodies), each computing the method's weakest
precondition and discharging what is left with the update lemmas of `RunInvariant`. A method
that needs more than the invariant says so in its precondition: `create_target_proxy` needs an
`Absent` target proxy, the IPv6 creates need dual stack, a subclass method needs its class.
-/

namespace TrafficDirector

open TrafficDirectorManager TrafficDirectorAppNetManager TrafficDirectorSecureManager

variable {g : Bool} {R₀ : Finset (Collection × String)} {cfg : ResourceNaming × ManagerClass × String × String × Bool}
  {f fault : Nat → Bool} {m : TrafficDirectorManager} {R : Finset (Collection × String)}

/-! ## Which slot can hold which resource -/

theorem Slot.collection_eq_urlMaps {s : Slot} {b : Bool} (h : s.collection b = .urlMaps) :
    s = .urlMap ∨ s = .alternativeUrlMap := by
  cases s <;> simp_all [Slot.collection]
  split at h <;> simp_all

namespace RunInvariant

/-- Outside the URL maps, the resource named after a slot is held by that slot only. -/
theorem heldBy_ne_canonical (h : RunInvariant g R₀ cfg f fault m R) {slot s : Slot} {c : Collection}
    (hc : c ≠ .urlMaps) (hne : s ≠ slot) {p : Collection × String} (hp : m.heldBy s = some p) :
    p ≠ (c, m.canonicalName slot) := by
  rintro rfl
  by_cases hs : s = .urlMap
  · subst hs
    obtain ⟨r, -, hr⟩ := heldBy_eq_some.1 hp
    exact hc (congrArg Prod.fst hr)
  · exact hne (m.canonicalName_injective (congrArg Prod.snd (h.heldBy_canonical hs hp)).symm)

/-- Only the two URL-map slots hold a URL map. -/
theorem heldBy_fst_ne_urlMaps {s : Slot} (hs : s ≠ .urlMap) (hs' : s ≠ .alternativeUrlMap)
    {p : Collection × String} (hp : m.heldBy s = some p) : p.1 ≠ .urlMaps := by
  obtain ⟨r, -, rfl⟩ := heldBy_eq_some.1 hp
  intro h
  rcases Slot.collection_eq_urlMaps h with h | h <;> contradiction

/-- The name a `delete_*` method deletes is the slot's canonical name, outside `url_map`. -/
theorem deletionName_canonical (h : RunInvariant g R₀ cfg f fault m R) {slot : Slot} {force : Bool}
    {name : String} (hslot : slot ≠ .urlMap)
    (hn : deletionName m slot slot.baseName force = some name) : name = m.canonicalName slot := by
  unfold deletionName at hn
  split at hn
  · exact (Option.some.inj hn).symm
  · obtain ⟨r, hr, rfl⟩ := Option.map_eq_some'.1 hn
    exact h.canonical slot r hslot hr

end RunInvariant

/-! ## Deletes -/

/-- The shared `delete_*` body, for a slot other than the alternative URL map and the target
proxy, deleting from its slot's collection. -/
theorem deleteResource_keeps {slot : Slot} {collection : Collection} (force : Bool)
    (hcoll : ∀ b, slot.collection b = collection) (halt : slot ≠ .alternativeUrlMap) :
    Keeps (fun _ => True) (Inv g R₀ cfg f) (deleteResource slot collection slot.baseName force) := by
  intro w _ hI
  simp only [deleteResource, wp_bind, wp_getManager]
  cases hn : deletionName w.manager slot slot.baseName force with
  | none => exact hI
  | some name =>
    simp only [wp_remoteDelete, wp_storeSlot, wp_bind]
    split
    · exact hI
    · refine hI.eraseClear slot (collection, name) (fun s p hs hne hp => ?_) (fun p hp => ?_)
      · by_cases hu : slot = .urlMap
        · subst hu
          have := RunInvariant.heldBy_fst_ne_urlMaps (by simpa using hne) hs hp
          rintro rfl
          exact this (hcoll false).symm
        · rw [hI.deletionName_canonical hu hn]
          refine hI.heldBy_ne_canonical ?_ hne hp
          rw [← hcoll false]
          exact fun h => (Slot.collection_eq_urlMaps h).elim hu halt
      · by_cases hu : slot = .urlMap
        · subst hu
          obtain ⟨r, -, rfl⟩ := heldBy_eq_some.1 hp
          exact .inr (.inl rfl)
        · rw [hI.heldBy_canonical hu hp, hI.deletionName_canonical hu hn]
          exact .inl (by rw [collectionOf, hcoll])

/-! ## Health check and backend services -/

theorem createHealthCheck_keeps (protocol : Option HealthCheckProtocol) (port : Option Int) :
    Keeps (fun _ => True) (Inv g R₀ cfg f) (createHealthCheck protocol port) := by
  intro w _ hI
  simp only [createHealthCheck, wp_bind, wp_getManager]
  cases hs : w.manager.slots .healthCheck with
  | some _ => exact hI
  | none =>
    simp only [wp_bind, wp_pure, wp_remoteCreate, wp_storeSlot]
    split
    · exact hI
    · exact hI.fill (by intro; rfl) (by exact .inl rfl) (fun _ _ => by decide)
        fun _ h => absurd h (by decide)

theorem createBackendServiceOf_keeps (variant : BackendServiceVariant)
    (protocol : Option BackendServiceProtocol) (options : BackendServiceOptions) :
    Keeps (fun _ => True) (Inv g R₀ cfg f)
      (createBackendServiceOf variant variant.slot.baseName protocol options) := by
  intro w _ hI
  simp only [createBackendServiceOf, wp_bind, wp_getManager, wp_remoteCreate, wp_storeSlot,
    wp_modifyManager]
  split
  · exact hI
  · refine RunInvariant.setProtocol ?_ _ _
    cases variant <;>
      exact hI.fill (by intro; rfl) (by exact .inl rfl) (fun _ _ => by decide)
        fun _ h => absurd h (by decide)

theorem loadBackendServiceOf_keeps (variant : BackendServiceVariant) :
    Keeps (fun _ => True) (Inv g R₀ cfg f) (loadBackendServiceOf variant variant.slot.baseName) := by
  intro w _ hI
  simp only [loadBackendServiceOf, wp_bind, wp_getManager, wp_remoteGet, wp_storeSlot]
  split
  · exact hI
  · split
    · cases variant <;>
        exact hI.load ‹_› (by intro; rfl) (by exact .inl rfl) (fun _ _ => by decide)
        fun _ h => absurd h (by decide)
    · exact hI

/-! ## Methods that touch no slot -/

section Neutral

variable {I : World → Prop} (hrec : ∀ w call, I w → I (w.record call))
include hrec

theorem issue_keeps (call : Call) : Keeps (fun _ => True) I (issue call) := fun w _ hI => by
  rw [wp_issue]
  split <;> exact hrec w call hI

theorem _getGcpNegsInZones_keeps (name : String) (zones : List String) :
    Keeps (fun _ => True) I (_getGcpNegsInZones name zones) := by
  unfold _getGcpNegsInZones
  generalize (∅ : Finset NegGcpResource) = init
  induction zones generalizing init with
  | nil => exact fun w _ hI => hI
  | cons zone zones ih =>
    simp only [List.foldlM_cons]
    refine Keeps.bind (Keeps.bind (Keeps.bind (issue_keeps hrec _) fun _ => ?_) fun _ => ?_) ih
    · exact fun w _ hI => hI
    · exact fun w _ hI => hI

theorem patchBackendsOf_keeps (variant : BackendServiceVariant) (maxRatePerEndpoint : Option Int)
    (circuitBreakers : Option Json) :
    Keeps (fun _ => True) I (patchBackendsOf variant maxRatePerEndpoint circuitBreakers) :=
  fun w _ hI => by
    simp only [patchBackendsOf, wp_bind, wp_getManager]
    cases w.manager.slots variant.slot with
    | none => exact hI
    | some _ => exact issue_keeps hrec _ w trivial hI

theorem removeAllBackendsOf_keeps (variant : BackendServiceVariant) :
    Keeps (fun _ => True) I (removeAllBackendsOf variant) := fun w _ hI => by
  simp only [removeAllBackendsOf, wp_bind, wp_getManager]
  cases w.manager.slots variant.slot with
  | none => exact hI
  | some _ => exact issue_keeps hrec _ w trivial hI

theorem waitForBackendsHealthyStatusOf_keeps (variant : BackendServiceVariant) (replicaCount : Int) :
    Keeps (fun _ => True) I (waitForBackendsHealthyStatusOf variant replicaCount) :=
  fun w _ hI => issue_keeps hrec _ w trivial hI

theorem waitForBackendsHealthyStatus_keeps (replicaCount : Int) :
    Keeps (fun _ => True) I (waitForBackendsHealthyStatus replicaCount) := fun w _ hI => by
  simp only [waitForBackendsHealthyStatus, wp_bind, wp_getManager]
  cases w.manager.slots .backendService with
  | none => exact hI
  | some _ => exact issue_keeps hrec _ w trivial hI

theorem patchUrlMap_keeps (srcHost : String) (srcPort : Int) (backendService : GcpResource) :
    Keeps (fun _ => True) I (patchUrlMap srcHost srcPort backendService) :=
  fun w _ hI => issue_keeps hrec _ w trivial hI

theorem backendServiceApplyClientMtlsPolicy_keeps (serverNamespace serverName : String) :
    Keeps (fun _ => True) I (backendServiceApplyClientMtlsPolicy serverNamespace serverName) :=
  fun w _ hI => by
    simp only [backendServiceApplyClientMtlsPolicy, wp_bind, wp_getManager]
    cases w.manager.slots .clientTlsPolicy with
    | none =>
      rw [wp_discard]
      cases w.manager.slots .backendService <;> exact hI
    | some _ =>
      cases w.manager.slots .backendService with
      | none => exact hI
      | some _ => exact issue_keeps hrec _ w trivial hI

end Neutral

theorem Inv.record (w : World) (call : Call) (h : Inv g R₀ cfg f w) : Inv g R₀ cfg f (w.record call) := h

theorem addNegBackendsOf_keeps (variant : BackendServiceVariant) (message name : String)
    (zones : List String) {patch : Exec Unit} (hpatch : Keeps (fun _ => True) (Inv g R₀ cfg f) patch) :
    Keeps (fun _ => True) (Inv g R₀ cfg f) (addNegBackendsOf variant message name zones patch) := by
  refine Keeps.bind (_getGcpNegsInZones_keeps Inv.record _ _) fun negs => ?_
  refine Keeps.bind (fun w _ hI => RunInvariant.setBackends hI _ _) fun _ => ?_
  refine Keeps.bind (fun w _ hI => hI) fun m => ?_
  intro w _ hI
  rw [wp_ite]
  split
  · exact hI
  · exact hpatch w trivial hI

theorem backendServiceRemoveNegBackends_keeps (name : String) (zones : List String) :
    Keeps (fun _ => True) (Inv g R₀ cfg f) (backendServiceRemoveNegBackends name zones) := by
  refine Keeps.bind (_getGcpNegsInZones_keeps Inv.record _ _) fun negs => ?_
  exact Keeps.bind (fun w _ hI => RunInvariant.setBackends hI _ _) fun _ =>
    patchBackendsOf_keeps Inv.record _ _ _

/-! ## URL maps -/

theorem _generateUrlMapBody_name (name matcherName : String) (srcHosts : List String)
    (dstDefaultBackendService : GcpResource) (dstHostRuleMatchBackendService : Option GcpResource) :
    (_generateUrlMapBody name matcherName srcHosts dstDefaultBackendService
      dstHostRuleMatchBackendService).getStr? "name" = some name := rfl

theorem createUrlMap_keeps (srcHost : String) (srcPort : Int) :
    Keeps (fun _ => True) (Inv g R₀ cfg f) (createUrlMap srcHost srcPort) := by
  intro w _ hI
  simp only [createUrlMap, wp_bind, wp_getManager]
  cases w.manager.slots .backendService with
  | none => exact hI
  | some _ =>
    simp only [wp_attr_some, wp_remoteCreateUrlMap, _generateUrlMapBody_name, wp_remoteCreate,
      wp_bind, wp_storeSlot, wp_pure]
    split
    · exact hI
    · exact hI.fill (fun h => absurd rfl h) (by exact .inl rfl) (fun _ _ => by decide)
        fun _ h => absurd h (by decide)

theorem createUrlMapWithContent_keeps (urlMapBody : Json) :
    Keeps (fun _ => True) (Inv g R₀ cfg f) (createUrlMapWithContent urlMapBody) := by
  intro w _ hI
  simp only [createUrlMapWithContent, wp_bind, wp_remoteCreateUrlMap]
  split
  · simp only [wp_remoteCreate, wp_storeSlot, wp_pure]
    split
    · exact hI
    · exact hI.fill (fun h => absurd rfl h) (by exact .inl rfl) (fun _ _ => by decide)
        fun _ h => absurd h (by decide)
  · exact hI

theorem createAlternativeUrlMap_keeps (srcHost : String) (srcPort : Int)
    (backendService : Option GcpResource) :
    Keeps (fun _ => True) (Inv g R₀ cfg f) (createAlternativeUrlMap srcHost srcPort backendService) := by
  intro w _ hI
  simp only [createAlternativeUrlMap, wp_bind, wp_getManager]
  cases (backendService.orElse fun _ => w.manager.slots .alternativeBackendService) with
  | none => exact hI
  | some _ =>
    simp only [wp_attr_some, wp_remoteCreateUrlMap, _generateUrlMapBody_name, wp_remoteCreate,
      wp_bind, wp_storeSlot, wp_pure]
    split
    · exact hI
    · exact hI.fill (by intro; rfl) (by exact .inl rfl) (fun _ _ => by decide)
        fun _ h => absurd h (by decide)

/-- `delete_alternative_url_map` deletes the alternative URL map and clears `url_map`; both are
URL maps, which the registry does not track, and `alternative_url_map` is left out of
`held_exists`. -/
theorem deleteAlternativeUrlMap_keeps (force : Bool) :
    Keeps (fun _ => True) (Inv g R₀ cfg f) (deleteAlternativeUrlMap force) := by
  intro w _ hI
  simp only [deleteAlternativeUrlMap, wp_bind, wp_getManager]
  cases deletionName w.manager .alternativeUrlMap alternativeUrlMapName force with
  | none => exact hI
  | some name =>
    simp only [wp_remoteDelete, wp_storeSlot, wp_bind]
    split
    · exact hI
    · refine hI.eraseClear .urlMap (.urlMaps, name) (fun s p hs hne hp => ?_) fun p hp => ?_
      · rintro rfl
        exact RunInvariant.heldBy_fst_ne_urlMaps hne hs hp rfl
      · obtain ⟨r, -, rfl⟩ := heldBy_eq_some.1 hp
        exact .inr (.inl rfl)

/-! ## Target proxies -/

theorem createTargetProxy_keeps :
    Keeps (fun w => w.manager.slots .targetProxy = none) (Inv g R₀ cfg f) createTargetProxy := by
  intro w hnone hI
  simp only [createTargetProxy, wp_bind, wp_getManager]
  cases w.manager.protocol .default with
  | UNSET => exact hI
  | GRPC | HTTP2 =>
    simp only [wp_bind, wp_pure, wp_modifyManager]
    cases w.manager.slots .urlMap with
    | none => exact hI.setFlag _ hnone
    | some _ =>
      simp only [wp_attr_some, wp_ite, wp_remoteCreate, wp_bind, wp_storeSlot, if_true, if_false,
        Bool.false_eq_true]
      split
      · exact hI.setFlag _ hnone
      · exact (hI.setFlag _ hnone).fill (by intro; rfl) (by exact .inl rfl) (fun _ _ => by decide)
          fun _ h => absurd h (by decide)

theorem createTargetProxyIpv6_keeps :
    Keeps (fun w => g = true → w.manager.enableDualstack = true) (Inv g R₀ cfg f)
      createTargetProxyIpv6 := by
  intro w hd hI
  simp only [createTargetProxyIpv6, wp_bind, wp_getManager]
  cases w.manager.slots .urlMap with
  | none => exact hI
  | some _ =>
    simp only [wp_attr_some, wp_remoteCreate, wp_bind, wp_storeSlot]
    split
    · exact hI
    · exact hI.fill (by intro; rfl) (by exact .inl rfl) (fun hg h => absurd ((hd hg).symm.trans h) (by decide))
        fun _ h => absurd h (by decide)

/-- What the proxy deletes leave: the proxy deleted from `collection`, the slot cleared, the
kind flag reset. -/
theorem RunInvariant.deleteProxy (h : RunInvariant g R₀ cfg f fault m R) {collection : Collection}
    (hc : collection ≠ .urlMaps) :
    RunInvariant g R₀ cfg f fault { m.setSlot .targetProxy none with targetProxyIsHttp := false }
      (R.erase (collection, m.canonicalName .targetProxy)) := by
  refine (h.eraseClear .targetProxy _ (fun s p _ hne hp => h.heldBy_ne_canonical hc hne hp)
    fun p hp => .inr (.inr ?_)).setFlag false (by simp)
  obtain ⟨r, hr, rfl⟩ := heldBy_eq_some.1 hp
  refine ⟨?_, h.canonical _ r (by decide) hr⟩
  simp only [collectionOf, Slot.collection]
  split <;> simp

theorem deleteTargetGrpcProxy_keeps (force : Bool) :
    Keeps (fun _ => True) (Inv g R₀ cfg f) (deleteTargetGrpcProxy force) := by
  intro w _ hI
  simp only [deleteTargetGrpcProxy, wp_bind, wp_getManager]
  cases hn : deletionName w.manager .targetProxy targetProxyName force with
  | none => exact hI
  | some name =>
    simp only [wp_remoteDelete, wp_storeSlot, wp_bind, wp_modifyManager]
    split
    · exact hI
    · rw [hI.deletionName_canonical (by decide) hn]
      exact hI.deleteProxy (by decide)

theorem deleteTargetHttpProxy_keeps (force : Bool) :
    Keeps (fun _ => True) (Inv g R₀ cfg f) (deleteTargetHttpProxy force) := by
  intro w _ hI
  simp only [deleteTargetHttpProxy, wp_bind, wp_getManager]
  split
  · exact hI
  · rename_i name hn
    have hname : name = w.manager.canonicalName .targetProxy := by
      split at hn
      · exact (Option.some.inj hn).symm
      · split at hn
        · obtain ⟨r, hr, rfl⟩ := Option.map_eq_some'.1 hn
          exact hI.canonical _ r (by decide) hr
        · cases hn
    simp only [wp_remoteDelete, wp_storeSlot, wp_bind, wp_modifyManager]
    split
    · exact hI
    · rw [hname]
      exact hI.deleteProxy (by decide)

theorem createAlternativeTargetProxy_keeps :
    Keeps (fun _ => True) (Inv g R₀ cfg f) createAlternativeTargetProxy := by
  intro w _ hI
  simp only [createAlternativeTargetProxy, wp_bind, wp_getManager, wp_ite]
  split
  · cases w.manager.slots .alternativeUrlMap with
    | none => exact hI
    | some _ =>
      simp only [wp_attr_some, wp_remoteCreate, wp_bind, wp_storeSlot]
      split
      · exact hI
      · exact hI.fill (by intro; rfl) (by exact .inl rfl) (fun _ _ => by decide)
          fun _ h => absurd h (by decide)
  · exact hI

/-! ## Forwarding rules -/

theorem createForwardingRuleOf_keeps {slot : Slot} (proxySlot : Slot) (srcPort : Int)
    (ipAddress : Option String)
    (hslot : slot = .forwardingRule ∨ slot = .forwardingRuleIpv6 ∨ slot = .alternativeForwardingRule) :
    Keeps (fun w => g = true → w.manager.enableDualstack = false → slot ≠ .forwardingRuleIpv6)
      (Inv g R₀ cfg f) (createForwardingRuleOf slot slot.baseName proxySlot srcPort ipAddress) := by
  intro w hd hI
  simp only [createForwardingRuleOf, wp_bind, wp_getManager]
  cases w.manager.slots proxySlot with
  | none => exact hI
  | some _ =>
    simp only [wp_attr_some, wp_remoteCreate, wp_bind, wp_storeSlot, wp_pure]
    split
    · exact hI
    · rcases hslot with rfl | rfl | rfl <;>
        exact hI.fill (by intro; rfl) (by exact .inl rfl)
          (fun hg h => ⟨by decide, hd hg h⟩) fun _ h => absurd h (by decide)

/-! ## Firewall rules -/

/-- A firewall rule created, stored in its slot, and `_ensure_firewall` set. -/
theorem RunInvariant.fillFirewall (h : RunInvariant g R₀ cfg f fault m R) {slot : Slot}
    (hslot : slot = .firewallRule ∨ slot = .firewallRuleIpv6) :
    RunInvariant g R₀ cfg f fault
      { m.setSlot slot (some (Collection.firewalls.handle (m.canonicalName slot))) with
        ensureFirewall := true }
      (insert (.firewalls, m.canonicalName slot) R) := by
  rcases hslot with rfl | rfl <;>
    exact h.setEnsureTrue.fill (fun _ => rfl) (.inl rfl) (fun _ _ => by decide) fun _ _ => rfl

theorem createFirewallRules_keeps (allowedPorts : List String) (sourceRange sourceRangeIpv6 : String) :
    Keeps (fun _ => True) (Inv g R₀ cfg f) (createFirewallRules allowedPorts sourceRange sourceRangeIpv6) := by
  intro w _ hI
  simp only [createFirewallRules, _createFirewallRule, wp_bind, wp_getManager, wp_ite, wp_pure,
    wp_remoteCreate, wp_storeSlot, wp_modifyManager]
  split_ifs
  · exact hI
  · exact hI.fillFirewall (.inl rfl)
  · exact (hI.fillFirewall (.inl rfl)).fillFirewall (.inr rfl)
  · exact hI.fillFirewall (.inl rfl)
  · exact hI
  · exact hI.fillFirewall (.inr rfl)
  · exact hI

/-- `delete_firewall_rule(_ipv6)`: a failed deletion keeps the slot; on a run where no call fails
the slot is `Absent` afterwards. Either way the other slots are as they were. -/
theorem deleteFirewallRuleOf_wp {slot : Slot} (force : Bool)
    (hslot : slot = .firewallRule ∨ slot = .firewallRuleIpv6) {w : World} (hI : Inv g R₀ cfg f w) :
    wp (deleteFirewallRuleOf slot slot.baseName force)
      (fun _ w' => Inv g R₀ cfg f w' ∧ (Succeeds f → w'.manager.slots slot = none) ∧
        (∀ s, s ≠ slot → w'.manager.slots s = w.manager.slots s))
      (Inv g R₀ cfg f) w := by
  have hu : slot ≠ .urlMap := by rcases hslot with rfl | rfl <;> decide
  have hc : w.manager.collectionOf slot = .firewalls := by rcases hslot with rfl | rfl <;> rfl
  simp only [deleteFirewallRuleOf, wp_bind, wp_getManager]
  split
  · rename_i hn
    refine ⟨hI, fun _ => ?_, fun _ _ => rfl⟩
    split at hn
    · cases hn
    · assumption
  · rename_i name hn
    have hname : name = w.manager.canonicalName slot := by
      split at hn
      · cases hn
        exact hI.canonical slot _ hu ‹_›
      · split at hn
        · exact (Option.some.inj hn).symm
        · cases hn
    simp only [wp_bind, wp__deleteFirewallRule, wp_ite, wp_storeSlot, wp_pure]
    split
    · rename_i hf
      exact ⟨hI, fun hH => absurd (hH.nextFails hI.fault_eq) (by simp [hf]), fun _ _ => rfl⟩
    · refine ⟨?_, fun _ => by simp, fun s hs => by simp [Function.update_noteq hs]⟩
      rw [hname]
      refine hI.eraseClear slot _ (fun s p _ hne hp => ?_) fun p hp => .inl ?_
      · rw [← hc]
        exact hI.heldBy_ne_canonical (by rw [hc]; decide) hne hp
      · rw [hI.heldBy_canonical hu hp, hc]

theorem deleteFirewallRules_keeps (force : Bool) :
    Keeps (fun _ => True) (Inv g R₀ cfg f) (deleteFirewallRules force) := by
  intro w _ hI
  simp only [deleteFirewallRules, wp_bind, wp_getManager, wp_ite, wp_pure]
  split
  · exact hI
  · refine wp_mono _ _ w (fun _ w₁ h₁ => ?_) (fun _ h => h)
      (deleteFirewallRuleOf_wp force (.inl rfl) hI)
    obtain ⟨hI₁, hnone₁, -⟩ := h₁
    rw [wp_bind]
    refine wp_mono _ _ w₁ (fun _ w₂ h₂ => ?_) (fun _ h => h)
      (deleteFirewallRuleOf_wp force (.inr rfl) hI₁)
    obtain ⟨hI₂, hnone₂, hframe₂⟩ := h₂
    rw [wp_modifyManager]
    exact hI₂.setEnsureFalse fun hH => ⟨by rw [hframe₂ _ (by decide)]; exact hnone₁ hH, hnone₂ hH⟩

/-! ## Composite setups and cleanup -/

/-- A slot other than the ones a method fills keeps its value. -/
theorem createHealthCheck_frame (protocol : Option HealthCheckProtocol) (port : Option Int)
    {s : Slot} (hs : s ≠ .healthCheck) (v : Option GcpResource) :
    Keeps (fun _ => True) (fun w => w.manager.slots s = v) (createHealthCheck protocol port) := by
  intro w _ h
  simp only [createHealthCheck, wp_bind, wp_getManager]
  cases w.manager.slots .healthCheck with
  | some _ => exact h
  | none =>
    simp only [wp_bind, wp_pure, wp_remoteCreate, wp_storeSlot]
    split <;> simp [Function.update_noteq hs, h]

theorem createBackendServiceOf_frame (variant : BackendServiceVariant) (baseName : String)
    (protocol : Option BackendServiceProtocol) (options : BackendServiceOptions) {s : Slot}
    (hs : s ≠ variant.slot) (v : Option GcpResource) :
    Keeps (fun _ => True) (fun w => w.manager.slots s = v)
      (createBackendServiceOf variant baseName protocol options) := by
  intro w _ h
  simp only [createBackendServiceOf, wp_bind, wp_getManager, wp_remoteCreate, wp_storeSlot,
    wp_modifyManager]
  split <;> simp [Function.update_noteq hs, h]

theorem createUrlMap_frame (srcHost : String) (srcPort : Int) {s : Slot} (hs : s ≠ .urlMap)
    (v : Option GcpResource) :
    Keeps (fun _ => True) (fun w => w.manager.slots s = v) (createUrlMap srcHost srcPort) := by
  intro w _ h
  simp only [createUrlMap, wp_bind, wp_getManager]
  cases w.manager.slots .backendService with
  | none => exact h
  | some _ =>
    simp only [wp_attr_some, wp_remoteCreateUrlMap, _generateUrlMapBody_name, wp_remoteCreate,
      wp_bind, wp_storeSlot, wp_pure]
    split <;> simp [Function.update_noteq hs, h]

theorem setupBackendForGrpc_keeps (protocol : Option BackendServiceProtocol)
    (healthCheckPort : Option Int) :
    Keeps (fun _ => True) (Inv g R₀ cfg f) (setupBackendForGrpc protocol healthCheckPort) :=
  Keeps.bind (createHealthCheck_keeps _ _) fun _ => createBackendServiceOf_keeps .default _ _

theorem setupBackendForGrpc_frame (protocol : Option BackendServiceProtocol)
    (healthCheckPort : Option Int) {s : Slot} (hs : s ≠ .healthCheck ∧ s ≠ .backendService)
    (v : Option GcpResource) :
    Keeps (fun _ => True) (fun w => w.manager.slots s = v)
      (setupBackendForGrpc protocol healthCheckPort) :=
  Keeps.bind (createHealthCheck_frame _ _ hs.1 v) fun _ =>
    createBackendServiceOf_frame .default _ _ _ hs.2 v

theorem Inv.enableDualstack_eq {w w' : World} (h : Inv g R₀ cfg f w) (h' : Inv g R₀ cfg f w') :
    w'.manager.enableDualstack = w.manager.enableDualstack :=
  congrArg (·.2.2.2.2) (h'.config_eq.trans h.config_eq.symm)

theorem setupRoutingRuleMapForGrpc_keeps (serviceHost : String) (servicePort : Int) :
    Keeps (fun w => w.manager.slots .targetProxy = none) (Inv g R₀ cfg f)
      (setupRoutingRuleMapForGrpc serviceHost servicePort) := by
  intro w hnone hI
  simp only [setupRoutingRuleMapForGrpc, wp_bind]
  refine wp_mono _ _ w (fun _ w₁ h₁ => ?_) (fun _ h => h.1)
    (((createUrlMap_keeps _ _).and (createUrlMap_frame _ _ (by decide) none)) w trivial ⟨hI, hnone⟩)
  rw [wp_bind]
  refine wp_mono _ _ w₁ (fun _ w₂ h₂ => ?_) (fun _ h => h) (createTargetProxy_keeps w₁ h₁.2 h₁.1)
  rw [wp_bind]
  refine wp_mono _ _ w₂ (fun _ w₃ h₃ => ?_) (fun _ h => h)
    (createForwardingRuleOf_keeps _ _ _ (.inl rfl) w₂ (fun _ _ => by decide) h₂)
  simp only [wp_bind, wp_getManager, wp_ite, wp_pure]
  split
  · rename_i hd
    refine wp_mono _ _ w₃ (fun _ w₄ h₄ => ?_) (fun _ h => h) (createTargetProxyIpv6_keeps w₃ (fun _ => hd) h₃)
    rw [wp_bind]
    exact wp_mono _ _ w₄ (fun _ _ h => h) (fun _ h => h) (createForwardingRuleOf_keeps _ _ _
      (.inr (.inl rfl)) w₄
      (fun _ h => absurd (h.symm.trans ((Inv.enableDualstack_eq h₃ h₄).trans hd)) (by decide)) h₄)
  · exact h₃

theorem setupForGrpc_keeps (serviceHost : String) (servicePort : Int)
    (backendProtocol : Option BackendServiceProtocol) (healthCheckPort : Option Int) :
    Keeps (fun w => w.manager.slots .targetProxy = none) (Inv g R₀ cfg f)
      (setupForGrpc serviceHost servicePort backendProtocol healthCheckPort) := by
  intro w hnone hI
  rw [setupForGrpc, wp_bind]
  exact wp_mono _ _ w (fun _ w₁ h₁ => setupRoutingRuleMapForGrpc_keeps _ _ w₁ h₁.2 h₁.1)
    (fun _ h => h.1) (((setupBackendForGrpc_keeps _ _).and
      (setupBackendForGrpc_frame _ _ (by decide) none)) w trivial ⟨hI, hnone⟩)

theorem deleteIpv6_keeps (force : Bool) :
    Keeps (fun _ => True) (Inv g R₀ cfg f) (do
      if (← getManager).enableDualstack then
        deleteForwardingRuleIpv6 force
        deleteTargetProxyIpv6 force) :=
  Keeps.bind (fun _ _ hI => hI) fun m w _ hI => by
    rw [wp_ite]
    split
    · exact Keeps.bind (deleteResource_keeps force (fun _ => rfl) (by decide)) (fun _ =>
        deleteResource_keeps force (fun _ => rfl) (by decide)) w trivial hI
    · exact hI

theorem cleanup_keeps (force : Bool) :
    Keeps (fun _ => True) (Inv g R₀ cfg f) (TrafficDirectorManager.cleanup force) :=
  .bind (deleteFirewallRules_keeps force) fun _ =>
  .bind (deleteResource_keeps force (fun _ => rfl) (by decide)) fun _ =>
  .bind (deleteResource_keeps force (fun _ => rfl) (by decide)) fun _ =>
  .bind (deleteTargetHttpProxy_keeps force) fun _ =>
  .bind (deleteTargetGrpcProxy_keeps force) fun _ =>
  .bind (deleteIpv6_keeps force) fun _ =>
  .bind (deleteResource_keeps force (fun _ => rfl) (by decide)) fun _ =>
  .bind (deleteResource_keeps force (fun _ => rfl) (by decide)) fun _ =>
  .bind (deleteAlternativeUrlMap_keeps force) fun _ =>
  .bind (deleteResource_keeps force (fun _ => rfl) (by decide)) fun _ =>
  .bind (deleteResource_keeps force (fun _ => rfl) (by decide)) fun _ =>
  .bind (deleteResource_keeps force (fun _ => rfl) (by decide)) fun _ =>
  deleteResource_keeps force (fun _ => rfl) (by decide)

/-! ## The subclasses -/

/-- The create-then-fetch shape stores the fetched resource; on a run where some call fails,
a failed fetch leaves the created resource with no slot. -/
theorem createThenGet_wp {w : World} (hI : Inv g R₀ cfg f w) (slot : Slot) (body : Json)
    (hslot : slot ≠ .urlMap) (hclass : slot.declaredBy = w.manager.kind)
    (hbase : slot.declaredBy ≠ .base) :
    wp (createThenGet slot (w.manager.collectionOf slot) (w.manager.canonicalName slot) body)
      (fun _ => Inv g R₀ cfg f) (Inv g R₀ cfg f) w := by
  simp only [createThenGet, wp_bind, wp_remoteCreate, wp_remoteGet, wp_storeSlot, wp_pure]
  split
  · exact hI
  · split
    · rename_i hf
      refine hI.insert_leftover (fun hH => absurd hf (by
        rw [Bool.not_eq_true]; exact hH.nextFails hI.fault_eq)) ⟨slot, hbase, ?_⟩
      cases slot <;> first | rfl | exact absurd rfl hbase
    · split
      · exact hI.fill (fun _ => rfl) (.inr hclass) (fun _ _ => ⟨by rintro rfl; exact hbase rfl,
          by rintro rfl; exact hbase rfl⟩) fun _ h => by rcases h with rfl | rfl <;> exact absurd rfl hbase
      · exact absurd (Finset.mem_insert_self _ _) ‹_›

theorem Inv.kind_eq {w w' : World} (h : Inv g R₀ cfg f w) (h' : Inv g R₀ cfg f w') :
    w'.manager.kind = w.manager.kind :=
  congrArg (·.2.1) (h'.config_eq.trans h.config_eq.symm)

theorem createMesh_keeps :
    Keeps (fun w => w.manager.kind = .appNet) (Inv g R₀ cfg f) createMesh := fun w hk hI => by
  simp only [createMesh, wp_bind, wp_getManager]
  exact createThenGet_wp hI .mesh _ (by decide) hk.symm (by decide)

theorem createGrpcRoute_keeps (srcHost : String) (srcPort : Int) :
    Keeps (fun w => w.manager.kind = .appNet) (Inv g R₀ cfg f) (createGrpcRoute srcHost srcPort) :=
  fun w hk hI => by
    simp only [createGrpcRoute, wp_bind, wp_getManager]
    cases w.manager.slots .backendService with
    | none => exact hI
    | some _ =>
      cases w.manager.slots .mesh with
      | none => exact hI
      | some _ => exact createThenGet_wp hI .grpcRoute _ (by decide) hk.symm (by decide)

theorem createGrpcRouteWithContent_keeps (body : Json) :
    Keeps (fun w => w.manager.kind = .appNet) (Inv g R₀ cfg f) (createGrpcRouteWithContent body) :=
  fun w hk hI => by
    simp only [createGrpcRouteWithContent, wp_bind, wp_getManager]
    exact createThenGet_wp hI .grpcRoute _ (by decide) hk.symm (by decide)

theorem createHttpRouteWithContent_keeps (body : Json) :
    Keeps (fun w => w.manager.kind = .appNet) (Inv g R₀ cfg f) (createHttpRouteWithContent body) :=
  fun w hk hI => by
    simp only [createHttpRouteWithContent, wp_bind, wp_getManager]
    exact createThenGet_wp hI .httpRoute _ (by decide) hk.symm (by decide)

theorem appNetCleanup_keeps (force : Bool) :
    Keeps (fun _ => True) (Inv g R₀ cfg f) (TrafficDirectorAppNetManager.cleanup force) :=
  .bind (deleteResource_keeps force (fun _ => rfl) (by decide)) fun _ =>
  .bind (deleteResource_keeps force (fun _ => rfl) (by decide)) fun _ =>
  .bind (deleteResource_keeps force (fun _ => rfl) (by decide)) fun _ => cleanup_keeps force

theorem createServerTlsPolicy_keeps (tls mtls : Bool) :
    Keeps (fun w => w.manager.kind = .secure) (Inv g R₀ cfg f) (createServerTlsPolicy tls mtls) :=
  fun w hk hI => by
    simp only [createServerTlsPolicy, wp_bind, wp_getManager, wp_ite, wp_pure]
    split
    · exact hI
    · exact wp_mono _ _ w (fun _ _ h => h) (fun _ h => h)
        (createThenGet_wp hI .serverTlsPolicy _ (by decide) hk.symm (by decide))

theorem createAuthzPolicy_keeps (action : String) (rules : List Json) :
    Keeps (fun w => w.manager.kind = .secure) (Inv g R₀ cfg f) (createAuthzPolicy action rules) :=
  fun w hk hI => by
    simp only [createAuthzPolicy, wp_bind, wp_getManager]
    exact wp_mono _ _ w (fun _ _ h => h) (fun _ h => h)
      (createThenGet_wp hI .authzPolicy _ (by decide) hk.symm (by decide))

theorem createEndpointPolicy_keeps (serverNamespace serverName : String) (serverPort : Int) :
    Keeps (fun w => w.manager.kind = .secure) (Inv g R₀ cfg f)
      (createEndpointPolicy serverNamespace serverName serverPort) := fun w hk hI => by
  simp only [createEndpointPolicy, wp_bind, wp_getManager]
  exact wp_mono _ _ w (fun _ _ h => h) (fun _ h => h)
    (createThenGet_wp hI .endpointPolicy _ (by decide) hk.symm (by decide))

theorem createClientTlsPolicy_keeps (tls mtls : Bool) :
    Keeps (fun w => w.manager.kind = .secure) (Inv g R₀ cfg f) (createClientTlsPolicy tls mtls) :=
  fun w hk hI => by
    simp only [createClientTlsPolicy, wp_bind, wp_getManager, wp_ite, wp_pure]
    split
    · exact hI
    · exact wp_mono _ _ w (fun _ _ h => h) (fun _ h => h)
        (createThenGet_wp hI .clientTlsPolicy _ (by decide) hk.symm (by decide))

theorem setupServerSecurity_keeps (serverNamespace serverName : String) (serverPort : Int)
    (tls mtls : Bool) :
    Keeps (fun w => w.manager.kind = .secure) (Inv g R₀ cfg f)
      (setupServerSecurity serverNamespace serverName serverPort tls mtls) := fun w hk hI => by
  rw [setupServerSecurity, wp_bind]
  exact wp_mono _ _ w (fun _ w₁ h₁ => createEndpointPolicy_keeps _ _ _ w₁
    ((Inv.kind_eq hI h₁).trans hk) h₁) (fun _ h => h) (createServerTlsPolicy_keeps _ _ w hk hI)

theorem setupClientSecurity_keeps (serverNamespace serverName : String) (tls mtls : Bool) :
    Keeps (fun w => w.manager.kind = .secure) (Inv g R₀ cfg f)
      (setupClientSecurity serverNamespace serverName tls mtls) :=
  Keeps.bind (createClientTlsPolicy_keeps _ _) fun _ =>
    backendServiceApplyClientMtlsPolicy_keeps Inv.record _ _

theorem secureCleanup_keeps (force : Bool) :
    Keeps (fun _ => True) (Inv g R₀ cfg f) (TrafficDirectorSecureManager.cleanup force) :=
  .bind (cleanup_keeps force) fun _ =>
  .bind (deleteResource_keeps force (fun _ => rfl) (by decide)) fun _ =>
  .bind (deleteResource_keeps force (fun _ => rfl) (by decide)) fun _ =>
  .bind (deleteResource_keeps force (fun _ => rfl) (by decide)) fun _ =>
  deleteResource_keeps force (fun _ => rfl) (by decide)

/-! ## Calls -/

theorem onlyOn_keeps {α : Type} {x : Exec α} {cls : ManagerClass} {P : World → Prop}
    (method : String) (hx : Keeps (fun w => w.manager.kind = cls) (Inv g R₀ cfg f) x) :
    Keeps P (Inv g R₀ cfg f) (onlyOn cls method x) := fun w _ hI => by
  simp only [onlyOn, wp_bind, wp_getManager, wp_ite]
  split
  · rw [wp_discard]
    exact hx w ‹_› hI
  · exact hI

theorem cleanupOf_keeps (cls : ManagerClass) (force : Bool) :
    Keeps (fun _ => True) (Inv g R₀ cfg f) (cleanupOf cls force) := by
  cases cls
  · exact cleanup_keeps force
  · exact appNetCleanup_keeps force
  · exact secureCleanup_keeps force

/-- What a run asks of each call: no create into a `Present` slot, and the IPv6 resources only
under dual stack. -/
def Allowed (w : World) (op : Op) : Prop := NoCreateIntoPresent w op ∧ DualstackGated w op

/-- **Every public method keeps the registry invariant**, from every world where the call creates
into `Absent` slots only and, on a gated run, the IPv6 resources only under dual stack. -/
theorem Op.run_keeps (op : Op) :
    Keeps (fun w => NoCreateIntoPresent w op ∧ (g = true → DualstackGated w op)) (Inv g R₀ cfg f)
      op.run := by
  have none_of : ∀ {w : World} {slot : Slot},
      NoCreateIntoPresent w op ∧ (g = true → DualstackGated w op) →
      slot ∈ op.createsInto w.manager → w.manager.slots slot = none := fun h hs => h.1 _ hs
  have dualstack_of : ∀ {w : World},
      NoCreateIntoPresent w op ∧ (g = true → DualstackGated w op) →
      (op = .createTargetProxyIpv6 ∨ ∃ port, op = .createForwardingRuleIpv6 port) →
      g = true → w.manager.enableDualstack = true := fun h hop hg => h.2 hg hop
  cases op with
  | setupForGrpc =>
    exact Keeps.weaken (setupForGrpc_keeps _ _ _ _) fun w h =>
      none_of h (List.mem_append_left _ (by decide))
  | setupBackendForGrpc => exact (setupBackendForGrpc_keeps _ _).any
  | setupRoutingRuleMapForGrpc =>
    exact Keeps.weaken (setupRoutingRuleMapForGrpc_keeps _ _) fun w h =>
      none_of h (List.mem_append_left _ (by decide))
  | cleanup force => exact Keeps.bind (fun _ _ hI => hI) fun _ => cleanupOf_keeps _ force
  | createHealthCheck => exact (createHealthCheck_keeps _ _).any
  | createBackendService => exact (createBackendServiceOf_keeps .default _ _).any
  | createAlternativeBackendService => exact (createBackendServiceOf_keeps .alternative _ _).any
  | createAffinityBackendService => exact (createBackendServiceOf_keeps .affinity _ _).any
  | loadBackendService => exact (loadBackendServiceOf_keeps .default).any
  | loadAlternativeBackendService => exact (loadBackendServiceOf_keeps .alternative).any
  | loadAffinityBackendService => exact (loadBackendServiceOf_keeps .affinity).any
  | deleteHealthCheck force | deleteBackendService force | deleteAlternativeBackendService force
    | deleteAffinityBackendService force | deleteUrlMap force | deleteTargetProxyIpv6 force
    | deleteAlternativeTargetGrpcProxy force | deleteForwardingRule force
    | deleteForwardingRuleIpv6 force | deleteAlternativeForwardingRule force =>
    exact (deleteResource_keeps force (fun _ => rfl) (by decide)).any
  | backendServiceAddNegBackends | alternativeBackendServiceAddNegBackends
    | affinityBackendServiceAddNegBackends =>
    exact (addNegBackendsOf_keeps _ _ _ _ (patchBackendsOf_keeps Inv.record _ _ _)).any
  | backendServiceRemoveNegBackends => exact (backendServiceRemoveNegBackends_keeps _ _).any
  | backendServicePatchBackends | alternativeBackendServicePatchBackends
    | affinityBackendServicePatchBackends =>
    exact (patchBackendsOf_keeps Inv.record _ _ _).any
  | backendServiceRemoveAllBackends | alternativeBackendServiceRemoveAllBackends
    | affinityBackendServiceRemoveAllBackends =>
    exact (removeAllBackendsOf_keeps Inv.record _).any
  | waitForBackendsHealthyStatus => exact (waitForBackendsHealthyStatus_keeps Inv.record _).any
  | waitForAlternativeBackendsHealthyStatus | waitForAffinityBackendsHealthyStatus =>
    exact (waitForBackendsHealthyStatusOf_keeps Inv.record _ _).any
  | createUrlMap => exact (createUrlMap_keeps _ _).discard.any
  | patchUrlMap => exact (patchUrlMap_keeps Inv.record _ _ _).any
  | createUrlMapWithContent => exact (createUrlMapWithContent_keeps _).discard.any
  | createAlternativeUrlMap => exact (createAlternativeUrlMap_keeps _ _ _).discard.any
  | deleteAlternativeUrlMap => exact (deleteAlternativeUrlMap_keeps _).any
  | createTargetProxy =>
    exact Keeps.weaken createTargetProxy_keeps fun w h => none_of h (List.mem_singleton_self _)
  | createTargetProxyIpv6 =>
    exact Keeps.weaken createTargetProxyIpv6_keeps fun w h => dualstack_of h (.inl rfl)
  | deleteTargetGrpcProxy => exact (deleteTargetGrpcProxy_keeps _).any
  | deleteTargetHttpProxy => exact (deleteTargetHttpProxy_keeps _).any
  | createAlternativeTargetProxy => exact createAlternativeTargetProxy_keeps.any
  | createForwardingRule =>
    exact Keeps.weaken (createForwardingRuleOf_keeps _ _ _ (.inl rfl)).discard
      fun _ _ _ _ => by decide
  | createForwardingRuleIpv6 port =>
    refine Keeps.weaken (createForwardingRuleOf_keeps _ _ _ (.inr (.inl rfl))).discard
      fun w h hg hd => ?_
    exact absurd ((dualstack_of h (.inr ⟨port, rfl⟩) hg).symm.trans hd) (by decide)
  | createAlternativeForwardingRule =>
    exact Keeps.weaken (createForwardingRuleOf_keeps _ _ _ (.inr (.inr rfl))).discard
      fun _ _ _ _ => by decide
  | createFirewallRules => exact (createFirewallRules_keeps _ _ _).any
  | deleteFirewallRules => exact (deleteFirewallRules_keeps _).any
  | deleteFirewallRule force =>
    exact fun w _ hI => wp_mono _ _ w (fun _ _ h => h.1) (fun _ h => h)
      (deleteFirewallRuleOf_wp force (.inl rfl) hI)
  | deleteFirewallRuleIpv6 force =>
    exact fun w _ hI => wp_mono _ _ w (fun _ _ h => h.1) (fun _ h => h)
      (deleteFirewallRuleOf_wp force (.inr rfl) hI)
  | createMesh => exact onlyOn_keeps _ createMesh_keeps
  | createGrpcRoute => exact onlyOn_keeps _ (createGrpcRoute_keeps _ _)
  | createGrpcRouteWithContent => exact onlyOn_keeps _ (createGrpcRouteWithContent_keeps _)
  | createHttpRouteWithContent => exact onlyOn_keeps _ (createHttpRouteWithContent_keeps _)
  | setupServerSecurity => exact onlyOn_keeps _ (setupServerSecurity_keeps _ _ _ _ _)
  | setupClientSecurity => exact onlyOn_keeps _ (setupClientSecurity_keeps _ _ _ _)
  | createServerTlsPolicy => exact onlyOn_keeps _ (createServerTlsPolicy_keeps _ _)
  | createAuthzPolicy => exact onlyOn_keeps _ (createAuthzPolicy_keeps _ _)
  | createEndpointPolicy => exact onlyOn_keeps _ (createEndpointPolicy_keeps _ _ _)
  | createClientTlsPolicy => exact onlyOn_keeps _ (createClientTlsPolicy_keeps _ _)
  | backendServiceApplyClientMtlsPolicy =>
    exact onlyOn_keeps _ (backendServiceApplyClientMtlsPolicy_keeps Inv.record _ _).any
  | deleteMesh force | deleteGrpcRoute force | deleteHttpRoute force | deleteServerTlsPolicy force
    | deleteAuthzPolicy force | deleteEndpointPolicy force | deleteClientTlsPolicy force =>
    exact onlyOn_keeps _ (deleteResource_keeps force (fun _ => rfl) (by decide)).any

/-- An allowed call keeps the invariant of a gated run. -/
theorem Op.run_keeps_allowed (op : Op) :
    Keeps (fun w => Allowed w op) (Inv true R₀ cfg f) op.run :=
  Keeps.weaken (Op.run_keeps op) fun _ h => ⟨h.1, fun _ => h.2⟩

end TrafficDirector
