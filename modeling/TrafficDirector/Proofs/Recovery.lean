import TrafficDirector.Proofs.Cleanup

/-!
# TrafficDirector — what `cleanup(force=True)` deletes

With `force`, every `delete_*` method deletes the resource named `make_resource_name` of its base
name, whether or not the manager holds it; only the firewall rules are read from their slots
first, and `delete_firewall_rules` does nothing unless `_ensure_firewall`. A forced cleanup is
how a test removes what an earlier run left behind, by name alone:

* **`forced_cleanup_deletes_by_name`** — from every world whose calls do not fail and whose
  firewall slots hold their canonical names, `cleanup(force=True)` of every class returns, having
  issued exactly the deletes `forcedDeletions`, in that order, and the remote has lost exactly
  those resources: the canonical resource of every slot of the class, `alternative_url_map`
  included and under both kinds of target proxy, the IPv6 ones only under dual stack and the
  firewall rules only under `_ensure_firewall`;
* **`forced_cleanup_by_new_manager_leaves_firewall_rules`** — after any allowed run where no call
  fails, a manager constructed again with the same arguments and forced to clean up removes
  every resource the first manager holds under its canonical name, except the firewall rules,
  which stay: the new manager's `_ensure_firewall` is `False`.

## The architecture

* `Forceable n d` — the worlds where forced deletes go by the naming `n`: the naming and dual
  stack are fixed, the firewall slots hold canonical names and no call ahead fails. Every
  delete keeps it.
* `Erases P n d L x` — from a forceable world satisfying `P`, `x` returns, issuing exactly the
  deletes `L` and removing exactly `L` from the remote. One lemma per delete method; sequencing
  concatenates, so each class's forced cleanup erases `forcedDeletions`.
-/

namespace TrafficDirector

open TrafficDirectorManager

variable {α β : Type}

/-! ## What a forced cleanup deletes -/

/-- The slots whose resources `cleanup(force=True)` deletes by name, in its order: every slot of
the class, `alternative_url_map` included; the IPv6 ones only under dual stack, and the firewall
rules only under `_ensure_firewall`. -/
def forcedSlots (kind : ManagerClass) (dualstack ensureFirewall : Bool) : List Slot :=
  let base := (if ensureFirewall then [.firewallRule, .firewallRuleIpv6] else []) ++
    [.forwardingRule, .alternativeForwardingRule, .targetProxy] ++
    (if dualstack then [.forwardingRuleIpv6, .targetProxyIpv6] else []) ++
    [.alternativeTargetProxy, .urlMap, .alternativeUrlMap, .backendService,
      .alternativeBackendService, .affinityBackendService, .healthCheck]
  match kind with
  | .base => base
  | .appNet => [.httpRoute, .grpcRoute, .mesh] ++ base
  | .secure => base ++ [.endpointPolicy, .serverTlsPolicy, .clientTlsPolicy, .authzPolicy]

/-- The collections a forced delete of a slot's resource goes to: the main target proxy is
deleted as an HTTP proxy and then as a GRPC one. -/
def forcedCollections (s : Slot) : List Collection :=
  if s = .targetProxy then [.targetHttpProxies, .targetGrpcProxies] else [s.collection false]

/-- The deletes of `cleanup(force=True)` under the naming `n`, in order. -/
def forcedDeletions (n : ResourceNaming) (kind : ManagerClass) (dualstack ensureFirewall : Bool) :
    List (Collection × String) :=
  (forcedSlots kind dualstack ensureFirewall).flatMap fun s =>
    (forcedCollections s).map fun c => (c, n.makeResourceName s.baseName)

theorem mem_forcedSlots {kind : ManagerClass} {dualstack ensureFirewall : Bool} {s : Slot}
    (hk : s.declaredBy = .base ∨ s.declaredBy = kind)
    (h6 : s = .forwardingRuleIpv6 ∨ s = .targetProxyIpv6 → dualstack = true)
    (hfw : s = .firewallRule ∨ s = .firewallRuleIpv6 → ensureFirewall = true) :
    s ∈ forcedSlots kind dualstack ensureFirewall := by
  revert hk h6 hfw dualstack ensureFirewall
  cases kind <;> cases s <;> decide

theorem collection_mem_forcedCollections (s : Slot) (b : Bool) :
    s.collection b ∈ forcedCollections s := by
  cases s <;> cases b <;> decide

/-- Without `_ensure_firewall` no forced delete goes to the firewalls. -/
theorem firewalls_not_mem_forcedCollections (kind : ManagerClass) (dualstack : Bool) :
    ∀ s ∈ forcedSlots kind dualstack false, Collection.firewalls ∉ forcedCollections s := by
  cases kind <;> cases dualstack <;> decide

/-- The canonical resource of every forced slot is deleted, whatever the proxy kind. -/
theorem mem_forcedDeletions (n : ResourceNaming) {kind : ManagerClass}
    {dualstack ensureFirewall : Bool} {s : Slot} (hs : s ∈ forcedSlots kind dualstack ensureFirewall)
    (b : Bool) :
    (s.collection b, n.makeResourceName s.baseName) ∈
      forcedDeletions n kind dualstack ensureFirewall :=
  List.mem_flatMap.2 ⟨s, hs, List.mem_map.2 ⟨_, collection_mem_forcedCollections s b, rfl⟩⟩

/-- Without `_ensure_firewall` no firewall rule is deleted. -/
theorem firewalls_not_mem_forcedDeletions (n : ResourceNaming) (kind : ManagerClass)
    (dualstack : Bool) (name : String) :
    (Collection.firewalls, name) ∉ forcedDeletions n kind dualstack false := fun hm => by
  obtain ⟨s, hs, hc⟩ := List.mem_flatMap.1 hm
  obtain ⟨c, hc, he⟩ := List.mem_map.1 hc
  obtain ⟨rfl, -⟩ := Prod.mk.inj he
  exact firewalls_not_mem_forcedCollections kind dualstack s hs hc

/-! ## Forceable worlds -/

/-- A world where forced deletes go by the naming `n`: its manager has naming `n` and dual stack
`d`, its firewall slots hold their canonical names, and no call ahead fails. -/
structure Forceable (n : ResourceNaming) (d : Bool) (w : World) : Prop where
  naming : w.manager.toResourceNaming = n
  dualstack : w.manager.enableDualstack = d
  firewall : ∀ s r, (s = .firewallRule ∨ s = .firewallRuleIpv6) → w.manager.slots s = some r →
    r.name = n.makeResourceName s.baseName
  succeeds : Succeeds w.fault

namespace Forceable

variable {n : ResourceNaming} {d : Bool} {w w' : World}

theorem nextFails (h : Forceable n d w) : w.nextFails = false := h.succeeds.nextFails rfl

/-- Clearing slots and setting flags keeps a world forceable. -/
theorem of_slots (h : Forceable n d w)
    (hn : w'.manager.toResourceNaming = w.manager.toResourceNaming)
    (hd : w'.manager.enableDualstack = w.manager.enableDualstack)
    (hs : ∀ s, w'.manager.slots s = none ∨ w'.manager.slots s = w.manager.slots s)
    (hf : w'.fault = w.fault) : Forceable n d w' where
  naming := hn.trans h.naming
  dualstack := hd.trans h.dualstack
  firewall s r hfw hr := (hs s).elim (fun e => by simp [e] at hr) fun e => h.firewall s r hfw (e ▸ hr)
  succeeds := hf ▸ h.succeeds

/-- A slot cleared. -/
theorem clear (h : Forceable n d w) (slot : Slot) (hm : w'.manager = w.manager.setSlot slot none)
    (hf : w'.fault = w.fault) : Forceable n d w' :=
  h.of_slots (by rw [hm]; rfl) (by rw [hm]; rfl) (fun s => by
    by_cases e : s = slot <;> simp [hm, e]) hf

end Forceable

/-! ## Erasing by name -/

/-- From a forceable world satisfying `P`, `x` returns in a forceable world, having issued
exactly the deletes `L` and removed exactly the resources `L` from the remote. -/
def Erases (P : World → Prop) (n : ResourceNaming) (d : Bool) (L : List (Collection × String))
    (x : Exec α) : Prop :=
  ∀ w, P w → Forceable n d w → wp x (fun _ w' => Forceable n d w' ∧
    w'.calls = w.calls ++ L.map (fun p => .delete p.1 p.2) ∧ w'.remote = w.remote.filter (· ∉ L))
    (fun _ => False) w

namespace Erases

variable {P : World → Prop} {n : ResourceNaming} {d : Bool} {L M : List (Collection × String)}

theorem filter_filter_not_mem (R : Finset (Collection × String)) :
    (R.filter (· ∉ L)).filter (· ∉ M) = R.filter (· ∉ L ++ M) := by
  rw [Finset.filter_filter]
  exact Finset.filter_congr fun _ _ => by simp [not_or]

/-- Sequencing, where `x` establishes the precondition `Q` of what follows. -/
theorem bind_keep {Q : World → Prop} {x : Exec β} {f : β → Exec α} (hx : Erases P n d L x)
    (hQ : ∀ w, P w → wp x (fun _ => Q) (fun _ => True) w) (hf : ∀ b, Erases Q n d M (f b)) :
    Erases P n d (L ++ M) (x >>= f) := fun w hP hF => by
  rw [wp_bind]
  refine wp_mono _ _ w (fun b w₁ h₁ => ?_) (fun _ h => h.1) (wp_and (hx w hP hF) (hQ w hP))
  refine wp_mono _ _ w₁ (fun _ w₂ h₂ => ⟨h₂.1, ?_, ?_⟩) (fun _ h => h) (hf b w₁ h₁.2 h₁.1.1)
  · rw [h₂.2.1, h₁.1.2.1, List.map_append, List.append_assoc]
  · rw [h₂.2.2, h₁.1.2.2, filter_filter_not_mem]

theorem bind {x : Exec β} {f : β → Exec α} (hx : Erases P n d L x)
    (hf : ∀ b, Erases (fun _ => True) n d M (f b)) : Erases P n d (L ++ M) (x >>= f) :=
  hx.bind_keep (fun w _ => wp_true w x) hf

theorem congr {x : Exec α} (h : Erases P n d L x) (hL : L = M) : Erases P n d M x := hL ▸ h

theorem any {x : Exec α} (h : Erases (fun _ => True) n d L x) : Erases P n d L x :=
  fun w _ hF => h w trivial hF

theorem nil : Erases (fun _ => True) n d [] (pure () : Exec Unit) := fun w _ hF =>
  ⟨hF, by simp, by simp⟩

/-- One delete call that succeeds and clears a slot or a flag. -/
theorem single {c : Collection} {name : String} {x : Exec α}
    (hx : ∀ w, Forceable n d w → wp x (fun _ w' => Forceable n d w' ∧
      w'.calls = w.calls ++ [.delete c name] ∧ w'.remote = w.remote.erase (c, name))
      (fun _ => False) w) :
    Erases (fun _ => True) n d [(c, name)] x := fun w _ hF =>
  wp_mono _ _ w (fun _ _ h => ⟨h.1, h.2.1, by rw [h.2.2, ← Finset.filter_ne']; simp⟩)
    (fun _ h => h) (hx w hF)

end Erases

/-! ## Each forced delete -/

section Deletes

variable {n : ResourceNaming} {d : Bool}

theorem deleteResource_erases {slot : Slot} {collection : Collection} :
    Erases (fun _ => True) n d [(collection, n.makeResourceName slot.baseName)]
      (deleteResource slot collection slot.baseName true) :=
  Erases.single fun w hF => by
    simp only [deleteResource, deletionName, ↓reduceIte, wp_bind, wp_getManager, wp_remoteDelete,
      hF.nextFails, Bool.false_eq_true, wp_storeSlot, hF.naming, World.record_calls, and_true]
    exact hF.clear slot rfl rfl

/-- A delete clears a slot at most, and keeps `_ensure_firewall`. -/
theorem deleteResource_ensureFirewall (slot : Slot) (collection : Collection) (baseName : String)
    (force : Bool) (w : World) : wp (deleteResource slot collection baseName force)
      (fun _ w' => w'.manager.ensureFirewall = w.manager.ensureFirewall) (fun _ => True) w := by
  simp only [deleteResource, wp_bind, wp_getManager]
  split
  · rfl
  · simp only [wp_bind, wp_remoteDelete, wp_storeSlot]
    split <;> trivial

theorem deleteTargetHttpProxy_erases :
    Erases (fun _ => True) n d [(.targetHttpProxies, n.makeResourceName targetProxyName)]
      (deleteTargetHttpProxy true) :=
  Erases.single fun w hF => by
    simp only [deleteTargetHttpProxy, ↓reduceIte, wp_bind, wp_getManager, wp_remoteDelete,
      hF.nextFails, Bool.false_eq_true, wp_storeSlot, wp_modifyManager, hF.naming, World.record_calls, and_true]
    refine hF.of_slots rfl rfl (fun s => ?_) rfl
    by_cases e : s = .targetProxy <;> simp [e]

theorem deleteTargetGrpcProxy_erases :
    Erases (fun _ => True) n d [(.targetGrpcProxies, n.makeResourceName targetProxyName)]
      (deleteTargetGrpcProxy true) :=
  Erases.single fun w hF => by
    simp only [deleteTargetGrpcProxy, deletionName, ↓reduceIte, wp_bind, wp_getManager,
      wp_remoteDelete, hF.nextFails, Bool.false_eq_true, wp_storeSlot, wp_modifyManager, hF.naming, World.record_calls, and_true]
    refine hF.of_slots rfl rfl (fun s => ?_) rfl
    by_cases e : s = .targetProxy <;> simp [e]

/-- The forced `delete_alternative_url_map` deletes the alternative URL map by name and clears
`url_map`. -/
theorem deleteAlternativeUrlMap_erases :
    Erases (fun _ => True) n d [(.urlMaps, n.makeResourceName alternativeUrlMapName)]
      (deleteAlternativeUrlMap true) :=
  Erases.single fun w hF => by
    simp only [deleteAlternativeUrlMap, deletionName, ↓reduceIte, wp_bind, wp_getManager,
      wp_remoteDelete, hF.nextFails, Bool.false_eq_true, wp_storeSlot, hF.naming, World.record_calls, and_true]
    exact hF.clear .urlMap rfl rfl

/-- A forced firewall delete goes by the name its slot holds, which is the canonical one. -/
theorem deleteFirewallRuleOf_erases {slot : Slot}
    (hslot : slot = .firewallRule ∨ slot = .firewallRuleIpv6) :
    Erases (fun _ => True) n d [(.firewalls, n.makeResourceName slot.baseName)]
      (deleteFirewallRuleOf slot slot.baseName true) :=
  Erases.single fun w hF => by
    simp only [deleteFirewallRuleOf, wp_bind, wp_getManager]
    cases hr : w.manager.slots slot with
    | none =>
      simp only [↓reduceIte, wp_bind, wp__deleteFirewallRule, hF.nextFails, Bool.false_eq_true,
        wp_storeSlot, hF.naming, World.record_calls, and_true]
      exact hF.clear slot rfl rfl
    | some r =>
      simp only [wp_bind, wp__deleteFirewallRule, hF.nextFails, Bool.false_eq_true, ↓reduceIte,
        wp_storeSlot, hF.firewall slot r hslot hr, World.record_calls, and_true]
      exact hF.clear slot rfl rfl

/-- `delete_firewall_rules(force=True)` deletes both firewall rules under `_ensure_firewall`,
and nothing otherwise. -/
theorem deleteFirewallRules_erases (e : Bool) :
    Erases (fun w => w.manager.ensureFirewall = e) n d
      (if e then [(.firewalls, n.makeResourceName firewallRuleName),
        (.firewalls, n.makeResourceName firewallRuleNameIpv6)] else [])
      (deleteFirewallRules true) := fun w he hF => by
  rw [deleteFirewallRules, wp_bind, wp_getManager, he]
  cases e
  · exact ⟨hF, by simp, by simp⟩
  · have hoff : Erases (fun _ => True) n d [] (modifyManager fun m =>
        { m with ensureFirewall := false }) := fun w _ hF => by
      rw [wp_modifyManager]
      exact ⟨hF.of_slots rfl rfl (fun _ => .inr rfl) rfl, by simp, by simp⟩
    exact ((deleteFirewallRuleOf_erases (.inl rfl)).bind fun _ =>
      (deleteFirewallRuleOf_erases (.inr rfl)).bind fun _ => hoff) w trivial hF

theorem deleteIpv6_erases :
    Erases (fun _ => True) n d (if d then [(.forwardingRules, n.makeResourceName
        forwardingRuleNameIpv6), (.targetHttpProxies, n.makeResourceName targetProxyNameIpv6)]
        else []) (do
      if (← TrafficDirector.getManager).enableDualstack then
        deleteForwardingRuleIpv6 true
        deleteTargetProxyIpv6 true) := fun w _ hF => by
  rw [wp_bind, wp_getManager, hF.dualstack]
  cases d
  · exact ⟨hF, by simp, by simp⟩
  · exact (deleteResource_erases.bind fun _ => deleteResource_erases) w trivial hF

end Deletes

/-! ## Each class's forced cleanup -/

section Cleanups

variable {n : ResourceNaming} {d : Bool}

theorem cleanup_erases (e : Bool) :
    Erases (fun w => w.manager.ensureFirewall = e) n d (forcedDeletions n .base d e)
      (TrafficDirectorManager.cleanup true) :=
  Erases.congr (.bind (deleteFirewallRules_erases e) fun _ =>
    .bind deleteResource_erases fun _ =>
    .bind deleteResource_erases fun _ =>
    .bind deleteTargetHttpProxy_erases fun _ =>
    .bind deleteTargetGrpcProxy_erases fun _ =>
    .bind deleteIpv6_erases fun _ =>
    .bind deleteResource_erases fun _ =>
    .bind deleteResource_erases fun _ =>
    .bind deleteAlternativeUrlMap_erases fun _ =>
    .bind deleteResource_erases fun _ =>
    .bind deleteResource_erases fun _ =>
    .bind deleteResource_erases fun _ =>
    deleteResource_erases) (by cases d <;> cases e <;> rfl)

theorem cleanupOf_erases (kind : ManagerClass) (e : Bool) :
    Erases (fun w => w.manager.ensureFirewall = e) n d (forcedDeletions n kind d e)
      (cleanupOf kind true) := by
  cases kind
  · exact cleanup_erases e
  · have hkeep : ∀ {slot collection} w, w.manager.ensureFirewall = e →
        wp (deleteResource slot collection slot.baseName true)
          (fun _ w' => w'.manager.ensureFirewall = e) (fun _ => True) w :=
      fun w he => he ▸ deleteResource_ensureFirewall _ _ _ true w
    exact .congr (.bind_keep deleteResource_erases.any hkeep fun _ =>
      .bind_keep deleteResource_erases.any hkeep fun _ =>
      .bind_keep deleteResource_erases.any hkeep fun _ => cleanup_erases e)
      (by cases d <;> cases e <;> rfl)
  · exact .congr (.bind (cleanup_erases e) fun _ =>
      .bind deleteResource_erases fun _ =>
      .bind deleteResource_erases fun _ =>
      .bind deleteResource_erases fun _ => deleteResource_erases)
      (by cases d <;> cases e <;> rfl)

/-- The public `cleanup(force=True)` of a manager of class `kind` erases `forcedDeletions`. -/
theorem Op.cleanup_force_erases (kind : ManagerClass) (e : Bool) :
    Erases (fun w => w.manager.kind = kind ∧ w.manager.ensureFirewall = e) n d
      (forcedDeletions n kind d e) (Op.cleanup true).run := fun w ⟨hk, he⟩ hF => by
  show wp (do cleanupOf (← TrafficDirector.getManager).kind true) _ _ w
  rw [wp_bind, wp_getManager, hk]
  exact cleanupOf_erases kind e w he hF

end Cleanups


/-! ## Forced cleanup deletes by name -/

/-- **A forced cleanup deletes by name.** From every world whose calls do not fail and whose
firewall slots hold their canonical names, `cleanup(force=True)` returns normally, having issued
exactly the deletes `forcedDeletions` of its naming, class, dual stack and `_ensure_firewall`, in
that order, and the remote has lost exactly those resources. -/
theorem forced_cleanup_deletes_by_name (w : World) (hH : Succeeds w.fault)
    (hfw : ∀ s r, (s = .firewallRule ∨ s = .firewallRuleIpv6) → w.manager.slots s = some r →
      r.name = w.manager.canonicalName s) :
    (let L := forcedDeletions w.manager.toResourceNaming w.manager.kind w.manager.enableDualstack
      w.manager.ensureFirewall
    ∃ w', (Op.cleanup true).run w = .ok () w' ∧
      w'.calls = w.calls ++ L.map (fun p => .delete p.1 p.2) ∧
      w'.remote = w.remote.filter (· ∉ L)) := by
  obtain ⟨w', hw, -, hcalls, hremote⟩ := ok_unit_of_wp
    (Op.cleanup_force_erases _ _ w ⟨rfl, rfl⟩ ⟨rfl, rfl, hfw, hH⟩)
  exact ⟨w', hw, hcalls, hremote⟩

/-- After firewall rules and a GRPC setup, no call failing, the forced cleanup deletes by name. -/
theorem forced_cleanup_deletes_by_name_after_setup :
    (let w := runOps [.createFirewallRules ["8080"] "35.191.0.0/16" "",
      .setupForGrpc "svc" 8080 (some .GRPC) none]
      (World.init (TrafficDirectorManager.init .base "project" "psm" (some "a1")) ∅ fun _ => false)
    let L := forcedDeletions w.manager.toResourceNaming w.manager.kind w.manager.enableDualstack
      w.manager.ensureFirewall
    ∃ w', (Op.cleanup true).run w = .ok () w' ∧
      w'.calls = w.calls ++ L.map (fun p => .delete p.1 p.2) ∧
      w'.remote = w.remote.filter (· ∉ L)) :=
  forced_cleanup_deletes_by_name _ (fun _ => rfl) (by rintro s r (rfl | rfl) hr <;> cases hr; rfl)

/-- **A manager built again cleans up all but the firewall rules.** After any allowed run from
construction where no call fails, a manager constructed with the same arguments, on the same
project, returns from `cleanup(force=True)`, and of the resources the first manager holds under
their canonical names (every slot but `url_map` holds such a resource) exactly the firewall rules
are still on the remote: the new manager's `_ensure_firewall` is `False`. -/
theorem forced_cleanup_by_new_manager_leaves_firewall_rules {kind : ManagerClass}
    {project resourcePrefix network : String} {resourceSuffix : Option String}
    {enableDualstack : Bool} {R₀ : Finset (Collection × String)} {fault : Nat → Bool} {w : World}
    (h : Reachable Allowed (World.init (TrafficDirectorManager.init kind project resourcePrefix
      resourceSuffix network enableDualstack) R₀ fault) w) (hH : Succeeds fault) :
    ∃ w', (Op.cleanup true).run { w with manager := (TrafficDirectorManager.init kind project
        resourcePrefix resourceSuffix network enableDualstack) } = .ok () w' ∧
      ∀ s r, w.manager.slots s = some r → (s = .urlMap → r.name = w.manager.canonicalName s) →
        ((w.manager.collectionOf s, r.name) ∈ w'.remote ↔
          s = .firewallRule ∨ s = .firewallRuleIpv6) := by
  have hI := Reachable.inv (fun _ => rfl) h
  set m₀ := TrafficDirectorManager.init kind project resourcePrefix resourceSuffix network
    enableDualstack
  have hc : w.manager.config = m₀.config := hI.config_eq
  simp only [config, Prod.mk.injEq] at hc
  obtain ⟨hn, hk, -, -, hd⟩ := hc
  replace hk : w.manager.kind = kind := hk
  replace hd : w.manager.enableDualstack = enableDualstack := hd
  obtain ⟨w', hw, -, -, hremote⟩ := ok_unit_of_wp (Op.cleanup_force_erases kind false
    { w with manager := m₀ } ⟨rfl, rfl⟩ ⟨rfl, rfl, (fun _ _ _ h => by cases h), hI.fault_eq ▸ hH⟩)
  refine ⟨w', hw, fun s r hr hname => ?_⟩
  -- the first manager's resource is the new manager's canonical one
  have hcanon : r.name = m₀.makeResourceName s.baseName := by
    rw [show r.name = w.manager.canonicalName s from
      if hu : s = .urlMap then hname hu else hI.canonical s r hu hr]
    exact congrArg (ResourceNaming.makeResourceName · s.baseName) hn
  rw [hremote, Finset.mem_filter]
  by_cases hfw : s = .firewallRule ∨ s = .firewallRuleIpv6
  · -- a firewall rule the first manager holds exists, and the new manager never deletes one
    have hheld := hI.held_exists s _ (by rcases hfw with rfl | rfl <;> decide)
      (heldBy_eq_some.2 ⟨r, hr, rfl⟩)
    have hcoll : w.manager.collectionOf s = .firewalls := by rcases hfw with rfl | rfl <;> rfl
    rw [hcoll] at hheld ⊢
    exact iff_of_true ⟨hheld, firewalls_not_mem_forcedDeletions _ _ _ _⟩ hfw
  rw [collectionOf, hcanon]
  · refine iff_of_false (fun hm => hm.2 (mem_forcedDeletions _ (mem_forcedSlots ?_ ?_ ?_) _)) hfw
    · exact hk ▸ hI.class_slots s r hr
    · intro h6
      cases hd' : enableDualstack
      · obtain ⟨h1, h2⟩ := hI.ipv6_gated rfl (hd.trans hd')
        rcases h6 with rfl | rfl
        · rw [h2] at hr; cases hr
        · rw [h1] at hr; cases hr
      · exact hd'
    · exact fun h => absurd h hfw


/-- After firewall rules and a GRPC setup, a manager built again deletes the backend service and
leaves the firewall rule. -/
theorem forced_cleanup_by_new_manager_leaves_firewall_rules_after_setup :
    let w₀ := World.init (TrafficDirectorManager.init .base "project" "psm" (some "a1")) ∅
      fun _ => false
    let w := finalWorld (Op.setupForGrpc "svc" 8080 (some .GRPC) none).run
      (finalWorld (Op.createFirewallRules ["8080"] "35.191.0.0/16" "").run w₀)
    Reachable Allowed w₀ w ∧ ∃ w', (Op.cleanup true).run
        { w with manager := (TrafficDirectorManager.init .base "project" "psm" (some "a1")) } =
          .ok () w' ∧
      (Collection.firewalls, "psm-allow-health-checks-a1") ∈ w'.remote ∧
      (Collection.backendServices, "psm-backend-service-a1") ∉ w'.remote := by
  intro w₀ w
  have h : Reachable Allowed w₀ w :=
    .step _ (.step _ .init ⟨fun _ _ => rfl, by rintro (h | ⟨_, h⟩) <;> cases h⟩)
      ⟨by unfold NoCreateIntoPresent; decide, by rintro (h | ⟨_, h⟩) <;> cases h⟩
  obtain ⟨w', hw, hmem⟩ := forced_cleanup_by_new_manager_leaves_firewall_rules h fun _ => rfl
  have hfw : w.manager.slots .firewallRule =
      some (Collection.firewalls.handle "psm-allow-health-checks-a1") := by decide
  have hbs : w.manager.slots .backendService =
      some (Collection.backendServices.handle "psm-backend-service-a1") := by decide
  exact ⟨h, w', hw, (hmem _ _ hfw nofun).2 (.inl rfl),
    fun hb => by simpa using (hmem _ _ hbs nofun).1 hb⟩

end TrafficDirector
