import TrafficDirector.Proofs.Cleanup

/-!
# TrafficDirector — what `setup_for_grpc` builds, and that `cleanup` undoes it

`setup_for_grpc` creates the health check and the backend service, then the URL map, the target
proxy and the forwarding rule, and under dual stack the IPv6 proxy and forwarding rule. Each
create reads the slot an earlier one filled, and `create_target_proxy` reads the recorded
`backend_service_protocol`, so the chain goes through exactly when that protocol is set:

* **`setupForGrpc_builds_chain`** — on a run where no call fails, an allowed `setup_for_grpc`
  with a GRPC or HTTP2 backend protocol returns normally, and every slot it creates into holds
  a resource that exists remotely;
* **`setupForGrpc_cleanup_restores_remote`** — from a manager with every slot `Absent`, and a
  remote holding nothing under the manager's names, `setup_for_grpc` then `cleanup()` return,
  and leave the remote as it was and every slot `Absent`.

`Fills P S x`: on a run where no call fails, from a world satisfying `P`, `x` returns having
filled the slots `S` with resources under their canonical names, added exactly those to the
remote by one create call each, in the order of `S`, and left every other slot as it was; the
failures and the configuration are unchanged, and a set default backend protocol stays set.
-/

namespace TrafficDirector

open TrafficDirectorManager

variable {α β : Type}

/-- The resource a create call creates. -/
def Call.created : Call → Option (Collection × String)
  | .create collection name _ => some (collection, name)
  | _ => none

/-- From `w` to `w'`: the same failures and configuration, a set default backend protocol stays
set, the protocol recorded for a backend service whose slot is outside `S` is unchanged, the
slots outside `S` hold what they held, each slot of `S` holds a resource under its
canonical name, and the remote gained exactly the resources the slots `S` hold, each by one
create call, in the order of `S`. -/
structure Filled (S : List Slot) (w w' : World) : Prop where
  fault_eq : w'.fault = w.fault
  config_eq : w'.manager.config = w.manager.config
  protocol_set : w.manager.protocol .default ≠ .UNSET → w'.manager.protocol .default ≠ .UNSET
  protocol_eq : ∀ v : BackendServiceVariant, v.slot ∉ S → w'.manager.protocol v = w.manager.protocol v
  frame : ∀ s ∉ S, w'.manager.heldBy s = w.manager.heldBy s
  filled : ∀ s ∈ S, ∃ c, w'.manager.heldBy s = some (c, w'.manager.canonicalName s)
  remote : ∀ p, p ∈ w'.remote ↔ p ∈ w.remote ∨ ∃ s ∈ S, w'.manager.heldBy s = some p
  creates : ∃ L, w'.calls = w.calls ++ L ∧
    L.map Call.created = (S.filterMap w'.manager.heldBy).map some

section Filled

variable {w w₁ w₂ : World} {S T : List Slot} {s : Slot}

theorem Filled.canonicalName_eq (h : Filled S w w₁) :
    w₁.manager.canonicalName = w.manager.canonicalName :=
  funext fun s => congrArg (fun n : ResourceNaming => n.makeResourceName s.baseName)
    (congrArg Prod.fst h.config_eq)

theorem Filled.enableDualstack_eq (h : Filled S w w₁) :
    w₁.manager.enableDualstack = w.manager.enableDualstack :=
  congrArg (·.2.2.2.2) h.config_eq

/-- A filled slot is `Present`. -/
theorem Filled.present (h : Filled S w w₁) (hs : s ∈ S) : w₁.manager.slots s ≠ none := by
  obtain ⟨c, hc⟩ := h.filled s hs
  intro e
  simp [heldBy, e] at hc

/-- A slot outside `S` that held nothing still holds nothing. -/
theorem Filled.absent (h : Filled S w w₁) (hs : s ∉ S) (hnone : w.manager.slots s = none) :
    w₁.manager.slots s = none := by
  simpa [heldBy, hnone] using h.frame s hs

/-- A `Present` slot stays `Present`. -/
theorem Filled.stays (h : Filled S w w₁) (hs : w.manager.slots s ≠ none) :
    w₁.manager.slots s ≠ none := by
  by_cases hS : s ∈ S
  · exact h.present hS
  · have e := h.frame s hS
    simp only [heldBy] at e
    intro h₁
    rw [h₁, Option.map_none', eq_comm, Option.map_eq_none'] at e
    exact hs e

/-- Nothing changed. -/
theorem Filled.refl : Filled [] w w where
  fault_eq := rfl
  config_eq := rfl
  protocol_set := id
  protocol_eq _ _ := rfl
  frame _ _ := rfl
  filled _ h := absurd h (List.not_mem_nil _)
  remote _ := by simp
  creates := ⟨[], (List.append_nil _).symm, rfl⟩

/-- Sequencing over disjoint slots. -/
theorem Filled.trans (h₁ : Filled S w w₁) (hST : ∀ s ∈ S, s ∉ T) (h₂ : Filled T w₁ w₂) :
    Filled (S ++ T) w w₂ where
  fault_eq := h₂.fault_eq.trans h₁.fault_eq
  config_eq := h₂.config_eq.trans h₁.config_eq
  protocol_set h := h₂.protocol_set (h₁.protocol_set h)
  protocol_eq v hv := by
    rw [List.mem_append, not_or] at hv
    exact (h₂.protocol_eq v hv.2).trans (h₁.protocol_eq v hv.1)
  frame s hs := by
    rw [List.mem_append, not_or] at hs
    exact (h₂.frame s hs.2).trans (h₁.frame s hs.1)
  filled s hs := by
    by_cases hT : s ∈ T
    · exact h₂.filled s hT
    · obtain ⟨c, hc⟩ := h₁.filled s ((List.mem_append.1 hs).resolve_right hT)
      exact ⟨c, by rw [h₂.frame s hT, hc, h₂.canonicalName_eq]⟩
  remote p := by
    rw [h₂.remote, h₁.remote]
    constructor
    · rintro ((hp | ⟨s, hs, hp⟩) | ⟨s, hs, hp⟩)
      · exact .inl hp
      · exact .inr ⟨s, List.mem_append_left _ hs, (h₂.frame s (hST s hs)).trans hp⟩
      · exact .inr ⟨s, List.mem_append_right _ hs, hp⟩
    · rintro (hp | ⟨s, hs, hp⟩)
      · exact .inl (.inl hp)
      · by_cases hT : s ∈ T
        · exact .inr ⟨s, hT, hp⟩
        · exact .inl (.inr ⟨s, (List.mem_append.1 hs).resolve_right hT,
            (h₂.frame s hT).symm.trans hp⟩)
  creates := by
    obtain ⟨L₁, hc₁, hL₁⟩ := h₁.creates
    obtain ⟨L₂, hc₂, hL₂⟩ := h₂.creates
    refine ⟨L₁ ++ L₂, by rw [hc₂, hc₁, List.append_assoc], ?_⟩
    rw [List.map_append, hL₁, hL₂, List.filterMap_append, List.map_append,
      List.filterMap_congr fun s hs => h₂.frame s (hST s hs)]

/-- A create stored in `slot` under its canonical name, having added the resource to the
remote, every other slot holding what it held. -/
theorem Filled.store {slot : Slot} {r : GcpResource} (hf : w₁.fault = w.fault)
    (hc : w₁.manager.config = w.manager.config)
    (hp : w.manager.protocol .default ≠ .UNSET → w₁.manager.protocol .default ≠ .UNSET)
    (hprot : ∀ v : BackendServiceVariant, v.slot ≠ slot → w₁.manager.protocol v = w.manager.protocol v)
    (hheld : ∀ s, s ≠ slot → w₁.manager.heldBy s = w.manager.heldBy s)
    (hs : w₁.manager.slots slot = some r) (hname : r.name = w₁.manager.canonicalName slot)
    (hR : w₁.remote = insert (w₁.manager.collectionOf slot, r.name) w.remote)
    (hcall : ∃ args, w₁.calls = w.calls ++ [.create (w₁.manager.collectionOf slot) r.name args]) :
    Filled [slot] w w₁ where
  fault_eq := hf
  config_eq := hc
  protocol_set := hp
  protocol_eq v h := hprot v fun e => h (e ▸ List.mem_singleton_self _)
  frame s h := hheld s fun e => h (e ▸ List.mem_singleton_self _)
  filled s h := by
    obtain rfl := List.mem_singleton.1 h
    exact ⟨_, by rw [heldBy, hs, Option.map_some', hname]⟩
  remote p := by
    rw [hR, Finset.mem_insert, or_comm]
    simp [heldBy, hs, eq_comm]
  creates := by
    obtain ⟨args, hc⟩ := hcall
    exact ⟨_, hc, by simp [heldBy, hs, Call.created]⟩

end Filled

/-- On a run where no call fails, from a world satisfying `P`, `x` returns, having filled `S`. -/
def Fills (P : World → Prop) (S : List Slot) (x : Exec α) : Prop :=
  ∀ w, Succeeds w.fault → P w → wp x (fun _ w' => Filled S w w') (fun _ => False) w

theorem Fills.weaken {P P' : World → Prop} {S : List Slot} {x : Exec α} (h : Fills P S x)
    (hP : ∀ w, P' w → P w) : Fills P' S x := fun w hH hP' => h w hH (hP w hP')

/-- Sequencing over disjoint slots, where what `x` leaves satisfies the precondition `Q` of what
follows. -/
theorem Fills.bind {P Q : World → Prop} {S T : List Slot} {x : Exec β} {f : β → Exec α}
    (hx : Fills P S x) (hQ : ∀ w w', P w → Filled S w w' → Q w') (hf : ∀ b, Fills Q T (f b))
    (hST : ∀ s ∈ S, s ∉ T) : Fills P (S ++ T) (x >>= f) := fun w hH hP => by
  rw [wp_bind]
  refine wp_mono _ _ w (fun b w₁ h₁ => ?_) (fun _ h => h) (hx w hH hP)
  exact wp_mono _ _ w₁ (fun _ _ h₂ => h₁.trans hST h₂) (fun _ h => h)
    (hf b w₁ (by rw [h₁.fault_eq]; exact hH) (hQ w w₁ hP h₁))

/-- A result bound by `let _ ←` and dropped. -/
theorem Fills.discard {P : World → Prop} {S : List Slot} {x : Exec β} (h : Fills P S x) :
    Fills P S (x >>= fun _ => pure ()) := fun w hH hP => by
  rw [wp_bind]
  exact wp_mono _ _ w (fun _ _ h => by rw [wp_pure]; exact h) (fun _ h => h) (h w hH hP)

/-- A public method call that drops the result of the create it runs. -/
theorem Fills.dropResult {P : World → Prop} {S : List Slot} {x : Exec β} (h : Fills P S x) :
    Fills P S (Functor.discard x) := fun w hH hP => by
  rw [wp_discard]
  exact h w hH hP

/-! ## Each create fills its slot -/

section Creates

theorem createHealthCheck_fills (protocol : Option HealthCheckProtocol) (port : Option Int) :
    Fills (fun w => w.manager.slots .healthCheck = none) [.healthCheck]
      (createHealthCheck protocol port) := fun w hH hnone => by
  simp only [createHealthCheck, wp_bind, wp_getManager, hnone, wp_pure, wp_remoteCreate,
    hH.nextFails rfl, Bool.false_eq_true, if_false, wp_storeSlot]
  exact Filled.store rfl rfl id (fun _ _ => rfl) (fun _ hs => heldBy_setSlot_ne _ _ hs)
    (setSlot_slots_self _ _ _) rfl rfl ⟨_, rfl⟩

theorem createBackendServiceOf_fills (variant : BackendServiceVariant)
    (protocol : Option BackendServiceProtocol) (options : BackendServiceOptions)
    (hp : protocol.getD .GRPC ≠ .UNSET) :
    Fills (fun _ => True) [variant.slot]
      (createBackendServiceOf variant variant.slot.baseName protocol options) := fun w hH _ => by
  simp only [createBackendServiceOf, wp_bind, wp_getManager, wp_remoteCreate, hH.nextFails rfl,
    Bool.false_eq_true, if_false, wp_storeSlot, wp_modifyManager]
  refine Filled.store rfl rfl (fun h => ?_)
    (fun v hv => Function.update_noteq (fun e => hv (congrArg BackendServiceVariant.slot e)) _ _)
    (fun _ hs => heldBy_setSlot_ne _ _ hs)
    (setSlot_slots_self _ _ _) rfl
    (by cases variant <;> rfl) (by cases variant <;> exact ⟨_, rfl⟩)
  by_cases hv : variant = .default
  · subst hv; simpa [setProtocol] using hp
  · simpa [setProtocol, Function.update_noteq (Ne.symm hv)] using h

/-- A backend-service create records the protocol it was given, `GRPC` for `None`. -/
theorem createBackendServiceOf_protocol (w : World) (variant : BackendServiceVariant)
    (baseName : String) (protocol : Option BackendServiceProtocol)
    (options : BackendServiceOptions) :
    wp (createBackendServiceOf variant baseName protocol options)
      (fun _ w' => w'.manager.protocol variant = protocol.getD .GRPC) (fun _ => True) w := by
  simp only [createBackendServiceOf, wp_bind, wp_getManager, wp_remoteCreate, wp_storeSlot,
    wp_modifyManager]
  split
  · trivial
  · simp [setProtocol]

theorem createUrlMap_fills (srcHost : String) (srcPort : Int) :
    Fills (fun w => w.manager.slots .backendService ≠ none) [.urlMap]
      (createUrlMap srcHost srcPort) := fun w hH hbs => by
  obtain ⟨backendService, hbs⟩ := Option.ne_none_iff_exists'.1 hbs
  simp only [createUrlMap, wp_bind, wp_getManager, hbs, wp_attr_some, wp_remoteCreateUrlMap,
    _generateUrlMapBody_name, wp_remoteCreate, hH.nextFails rfl, Bool.false_eq_true, if_false,
    wp_storeSlot, wp_pure]
  exact Filled.store rfl rfl id (fun _ _ => rfl) (fun _ hs => heldBy_setSlot_ne _ _ hs)
    (setSlot_slots_self _ _ _) rfl rfl ⟨_, rfl⟩

theorem createTargetProxy_fills :
    Fills (fun w => w.manager.slots .urlMap ≠ none ∧ w.manager.protocol .default ≠ .UNSET)
      [.targetProxy] createTargetProxy := fun w hH ⟨hu, hp⟩ => by
  obtain ⟨urlMap, hu⟩ := Option.ne_none_iff_exists'.1 hu
  have hf : ∀ n, w.fault n = false := hH
  simp only [createTargetProxy, wp_bind, wp_getManager]
  cases hpr : w.manager.protocol .default
  · exact absurd hpr hp
  all_goals
    simp only [wp_bind, wp_pure, wp_modifyManager, hu, wp_attr_some, wp_ite, Bool.false_eq_true,
      if_false, if_true, wp_remoteCreate, World.nextFails, hf, wp_storeSlot]
    exact Filled.store rfl rfl id (fun _ _ => rfl)
      (fun _ hs => (heldBy_setSlot_ne _ _ hs).trans (heldBy_setFlag_ne _ _ hs))
      (setSlot_slots_self _ _ _) rfl rfl ⟨_, rfl⟩

theorem createTargetProxyIpv6_fills :
    Fills (fun w => w.manager.slots .urlMap ≠ none) [.targetProxyIpv6] createTargetProxyIpv6 :=
  fun w hH hu => by
    obtain ⟨urlMap, hu⟩ := Option.ne_none_iff_exists'.1 hu
    simp only [createTargetProxyIpv6, wp_bind, wp_getManager, hu, wp_attr_some, wp_remoteCreate,
      hH.nextFails rfl, Bool.false_eq_true, if_false, wp_storeSlot]
    exact Filled.store rfl rfl id (fun _ _ => rfl) (fun _ hs => heldBy_setSlot_ne _ _ hs)
      (setSlot_slots_self _ _ _) rfl rfl ⟨_, rfl⟩

theorem createForwardingRuleOf_fills {slot : Slot} (proxySlot : Slot) (srcPort : Int)
    (ipAddress : Option String)
    (hslot : slot = .forwardingRule ∨ slot = .forwardingRuleIpv6 ∨ slot = .alternativeForwardingRule) :
    Fills (fun w => w.manager.slots proxySlot ≠ none) [slot]
      (createForwardingRuleOf slot slot.baseName proxySlot srcPort ipAddress) := fun w hH hp => by
  obtain ⟨proxy, hp⟩ := Option.ne_none_iff_exists'.1 hp
  simp only [createForwardingRuleOf, wp_bind, wp_getManager, hp, wp_attr_some, wp_remoteCreate,
    hH.nextFails rfl, Bool.false_eq_true, if_false, wp_storeSlot, wp_pure]
  exact Filled.store rfl rfl id (fun _ _ => rfl) (fun _ hs => heldBy_setSlot_ne _ _ hs)
    (setSlot_slots_self _ _ _) rfl (by rcases hslot with rfl | rfl | rfl <;> rfl)
    (by rcases hslot with rfl | rfl | rfl <;> exact ⟨_, rfl⟩)

theorem createAlternativeUrlMap_fills (srcHost : String) (srcPort : Int) :
    Fills (fun w => w.manager.slots .alternativeBackendService ≠ none) [.alternativeUrlMap]
      (createAlternativeUrlMap srcHost srcPort none) := fun w hH hbs => by
  obtain ⟨backendService, hbs⟩ := Option.ne_none_iff_exists'.1 hbs
  simp only [createAlternativeUrlMap, Option.orElse, wp_bind, wp_getManager, hbs, wp_attr_some,
    wp_remoteCreateUrlMap, _generateUrlMapBody_name, wp_remoteCreate, hH.nextFails rfl,
    Bool.false_eq_true, if_false, wp_storeSlot, wp_pure]
  exact Filled.store rfl rfl id (fun _ _ => rfl) (fun _ hs => heldBy_setSlot_ne _ _ hs)
    (setSlot_slots_self _ _ _) rfl rfl ⟨_, rfl⟩

/-- The alternative target proxy is a gRPC proxy, made only while the default backend service's
recorded protocol is `GRPC`. -/
theorem createAlternativeTargetProxy_fills :
    Fills (fun w => w.manager.slots .alternativeUrlMap ≠ none ∧
        w.manager.protocol .default = .GRPC)
      [.alternativeTargetProxy] createAlternativeTargetProxy := fun w hH ⟨hu, hp⟩ => by
  obtain ⟨urlMap, hu⟩ := Option.ne_none_iff_exists'.1 hu
  simp only [createAlternativeTargetProxy, wp_bind, wp_getManager, hp, if_true, hu, wp_attr_some,
    wp_remoteCreate, hH.nextFails rfl, Bool.false_eq_true, if_false, wp_storeSlot]
  exact Filled.store rfl rfl id (fun _ _ => rfl) (fun _ hs => heldBy_setSlot_ne _ _ hs)
    (setSlot_slots_self _ _ _) rfl rfl ⟨_, rfl⟩

end Creates

/-! ## The setups -/

theorem setupBackendForGrpc_fills (protocol : Option BackendServiceProtocol)
    (hp : protocol.getD .GRPC ≠ .UNSET) (healthCheckPort : Option Int) :
    Fills (fun w => w.manager.slots .healthCheck = none) ([.healthCheck] ++ [.backendService])
      (setupBackendForGrpc protocol healthCheckPort) :=
  (createHealthCheck_fills _ _).bind (fun _ _ _ _ => trivial)
    (fun _ => createBackendServiceOf_fills .default _ _ hp) (by decide)

/-- The IPv6 tail of `setup_routing_rule_map_for_grpc`. -/
theorem setupIpv6_fills (srcPort : Int) (d : Bool) :
    Fills (fun w => w.manager.slots .urlMap ≠ none ∧ w.manager.enableDualstack = d)
      (if d then [.targetProxyIpv6] ++ [.forwardingRuleIpv6] else []) (do
        if (← TrafficDirector.getManager).enableDualstack then
          createTargetProxyIpv6
          let _ ← createForwardingRuleIpv6 srcPort) := fun w hH ⟨hu, hd⟩ => by
  rw [wp_bind, wp_getManager, wp_ite]
  subst hd
  split
  · exact (createTargetProxyIpv6_fills.bind (fun _ _ _ h => h.present (List.mem_singleton_self _))
      (fun _ => (createForwardingRuleOf_fills _ _ _ (.inr (.inl rfl))).discard) (by decide))
      w hH hu
  · exact Filled.refl

theorem setupRoutingRuleMapForGrpc_fills (serviceHost : String) (servicePort : Int) (d : Bool) :
    Fills (fun w => w.manager.slots .backendService ≠ none ∧
        w.manager.protocol .default ≠ .UNSET ∧ w.manager.enableDualstack = d)
      ([.urlMap] ++ ([.targetProxy] ++ ([.forwardingRule] ++
        (if d then [.targetProxyIpv6] ++ [.forwardingRuleIpv6] else []))))
      (setupRoutingRuleMapForGrpc serviceHost servicePort) :=
  Fills.bind ((createUrlMap_fills _ _).weaken fun _ hP => hP.1)
    (fun _ w' hP h => (⟨h.present (List.mem_singleton_self _), h.protocol_set hP.2.1,
      h.enableDualstack_eq.trans hP.2.2⟩ : w'.manager.slots .urlMap ≠ none ∧
        w'.manager.protocol .default ≠ .UNSET ∧ w'.manager.enableDualstack = d)) (fun _ =>
  Fills.bind (createTargetProxy_fills.weaken fun _ hP => ⟨hP.1, hP.2.1⟩)
    (fun _ w' hP h => (⟨h.present (List.mem_singleton_self _), h.stays hP.1,
      h.enableDualstack_eq.trans hP.2.2⟩ : w'.manager.slots .targetProxy ≠ none ∧
        w'.manager.slots .urlMap ≠ none ∧ w'.manager.enableDualstack = d)) (fun _ =>
  Fills.bind ((createForwardingRuleOf_fills _ _ _ (.inl rfl)).weaken fun _ hP => hP.1)
    (fun _ w' hP h => (⟨h.stays hP.2.1, h.enableDualstack_eq.trans hP.2.2⟩ :
      w'.manager.slots .urlMap ≠ none ∧ w'.manager.enableDualstack = d))
    (fun _ => setupIpv6_fills servicePort d) (by cases d <;> decide))
    (by cases d <;> decide)) (by cases d <;> decide)

/-- `setup_backend_for_grpc` records the protocol it was given, `GRPC` for `None`. -/
theorem setupBackendForGrpc_protocol (w : World) (protocol : Option BackendServiceProtocol)
    (healthCheckPort : Option Int) :
    wp (setupBackendForGrpc protocol healthCheckPort)
      (fun _ w' => w'.manager.protocol .default = protocol.getD .GRPC) (fun _ => True) w := by
  rw [setupBackendForGrpc, wp_bind]
  exact wp_mono _ _ w (fun _ w₁ _ => createBackendServiceOf_protocol w₁ .default _ _ _)
    (fun _ _ => trivial) (wp_true w _)

/-- The slots `setup_for_grpc` creates into, the IPv6 pair under dual stack: `Op.createsInto` of
the call for a manager with that `enable_dualstack`. -/
def setupForGrpcSlots (d : Bool) : List Slot :=
  [.healthCheck, .backendService, .urlMap, .targetProxy, .forwardingRule] ++
    (if d then [.targetProxyIpv6, .forwardingRuleIpv6] else [])

/-- The backend half sets the backend service and its protocol, which the routing half reads and
leaves as it is. -/
theorem setupForGrpc_fills_protocol (serviceHost : String) (servicePort : Int)
    (protocol : Option BackendServiceProtocol) (hp : protocol.getD .GRPC ≠ .UNSET)
    (healthCheckPort : Option Int) (d : Bool) (w : World) (hH : Succeeds w.fault)
    (hP : w.manager.slots .healthCheck = none ∧ w.manager.enableDualstack = d) :
    wp (setupForGrpc serviceHost servicePort protocol healthCheckPort)
      (fun _ w' => Filled (setupForGrpcSlots d) w w' ∧
        w'.manager.protocol .default = protocol.getD .GRPC) (fun _ => False) w := by
  have e : setupForGrpcSlots d = ([.healthCheck] ++ [.backendService]) ++ ([.urlMap] ++
      ([.targetProxy] ++ ([.forwardingRule] ++
        (if d then [.targetProxyIpv6] ++ [.forwardingRuleIpv6] else [])))) := by
    cases d <;> rfl
  rw [e, setupForGrpc, wp_bind]
  refine wp_mono _ _ w (fun _ w₁ h₁ => ?_) (fun _ h => h.1)
    (wp_and (setupBackendForGrpc_fills protocol hp healthCheckPort w hH hP.1)
      (setupBackendForGrpc_protocol w protocol healthCheckPort))
  have hroute : w₁.manager.slots .backendService ≠ none ∧
      w₁.manager.protocol .default ≠ .UNSET ∧ w₁.manager.enableDualstack = d :=
    ⟨h₁.1.present (by decide), h₁.2 ▸ hp, h₁.1.enableDualstack_eq.trans hP.2⟩
  exact wp_mono _ _ w₁ (fun _ _ h₂ => ⟨h₁.1.trans (by cases d <;> decide) h₂,
      (h₂.protocol_eq .default (by cases d <;> decide)).trans h₁.2⟩) (fun _ h => h)
    (setupRoutingRuleMapForGrpc_fills serviceHost servicePort d w₁ (h₁.1.fault_eq ▸ hH) hroute)

theorem setupForGrpc_fills (serviceHost : String) (servicePort : Int)
    (protocol : Option BackendServiceProtocol) (hp : protocol.getD .GRPC ≠ .UNSET)
    (healthCheckPort : Option Int) (d : Bool) :
    Fills (fun w => w.manager.slots .healthCheck = none ∧ w.manager.enableDualstack = d)
      (setupForGrpcSlots d) (setupForGrpc serviceHost servicePort protocol healthCheckPort) :=
  fun w hH hP => wp_mono _ _ w (fun _ _ h => h.1) (fun _ h => h)
    (setupForGrpc_fills_protocol serviceHost servicePort protocol hp healthCheckPort d w hH hP)

/-- **`setup_for_grpc` builds the whole chain.** On every allowed run from construction where no
call fails, an allowed `setup_for_grpc` whose backend protocol is set (`GRPC` or `HTTP2`, `None`
meaning `GRPC`) returns normally, and each slot it creates into — the IPv6 pair only under
`enable_dualstack` — holds a resource that exists remotely in that slot's collection. -/
theorem setupForGrpc_builds_chain {w₀ w : World} (h₀ : ∀ slot, w₀.manager.slots slot = none)
    (h : Reachable Allowed w₀ w) (hH : ∀ n, w₀.fault n = false) (serviceHost : String)
    (servicePort : Int) (protocol : Option BackendServiceProtocol)
    (hp : protocol.getD .GRPC ≠ .UNSET) (healthCheckPort : Option Int)
    (hallowed : Allowed w (.setupForGrpc serviceHost servicePort protocol healthCheckPort)) :
    ∃ w', (Op.setupForGrpc serviceHost servicePort protocol healthCheckPort).run w = .ok () w' ∧
      ∀ s ∈ (Op.setupForGrpc serviceHost servicePort protocol healthCheckPort).createsInto
        w.manager, ∃ r, w'.manager.slots s = some r ∧ (w'.manager.collectionOf s, r.name) ∈ w'.remote := by
  have hI := Reachable.inv h₀ h
  obtain ⟨w', hx, hF⟩ := ok_unit_of_wp (setupForGrpc_fills serviceHost servicePort protocol hp
    healthCheckPort _ w (hI.fault_eq ▸ hH) ⟨hallowed.1 _ (List.mem_cons_self _ _), rfl⟩)
  refine ⟨w', hx, fun s hs => ?_⟩
  obtain ⟨c, hc⟩ := hF.filled s hs
  obtain ⟨r, hr, he⟩ := heldBy_eq_some.1 hc
  exact ⟨r, hr, he ▸ (hF.remote _).2 (.inr ⟨s, hs, hc⟩)⟩

/-- A dual-stack `HTTP2` setup from construction builds all seven resources. -/
theorem setupForGrpc_builds_chain_dualstack :
    let w₀ := World.init
      (TrafficDirectorManager.init .base "project" "psm" (some "a1") "default" true) ∅
      fun _ => false
    ∃ w', (Op.setupForGrpc "svc" 8080 (some .HTTP2) none).run w₀ = .ok () w' ∧
      ∀ s ∈ (Op.setupForGrpc "svc" 8080 (some .HTTP2) none).createsInto w₀.manager,
        ∃ r, w'.manager.slots s = some r ∧ (w'.manager.collectionOf s, r.name) ∈ w'.remote :=
  setupForGrpc_builds_chain (fun _ => rfl) .init (fun _ => rfl) "svc" 8080 (some .HTTP2)
    (by decide) none ⟨fun _ _ => rfl, fun _ => rfl⟩

/-- The slots `setup_for_grpc` creates into are among those every class's `cleanup` deletes. -/
theorem setupForGrpcSlots_subset_cleanupSlots (d : Bool) (kind : ManagerClass) :
    ∀ s ∈ setupForGrpcSlots d, s ∈ cleanupSlots kind := by
  cases d <;> cases kind <;> decide

/-- **A setup–cleanup cycle leaves no trace.** On every allowed run from construction where no
call fails, from a world where every slot is `Absent` and no remote resource carries one of the
manager's names, `setup_for_grpc` with a set backend protocol and then `cleanup()` both return;
the remote is then exactly as it was, and every slot is `Absent` again. -/
theorem setupForGrpc_cleanup_restores_remote {w₀ w : World}
    (h₀ : ∀ slot, w₀.manager.slots slot = none) (h : Reachable Allowed w₀ w)
    (hH : ∀ n, w₀.fault n = false) (hempty : ∀ s, w.manager.slots s = none)
    (hfresh : ∀ p ∈ w.remote, ∀ s, p.2 ≠ w.manager.canonicalName s) (serviceHost : String)
    (servicePort : Int) (protocol : Option BackendServiceProtocol)
    (hp : protocol.getD .GRPC ≠ .UNSET) (healthCheckPort : Option Int) :
    ∃ w₁ w₂, (Op.setupForGrpc serviceHost servicePort protocol healthCheckPort).run w = .ok () w₁ ∧
      (Op.cleanup false).run w₁ = .ok () w₂ ∧ w₂.remote = w.remote ∧
      ∀ s, w₂.manager.slots s = none := by
  have hI := Reachable.inv h₀ h
  have hallowed : Allowed w (.setupForGrpc serviceHost servicePort protocol healthCheckPort) :=
    ⟨fun s _ => hempty s, by rintro (h | ⟨_, h⟩) <;> cases h⟩
  obtain ⟨⟨⟩, w₁, hx₁, hF, hI₁⟩ := ok_of_wp (wp_mono _ _ w (fun _ _ h => h) (fun _ h => h.1)
    (wp_and (setupForGrpc_fills serviceHost servicePort protocol hp healthCheckPort _ w
      (hI.fault_eq ▸ hH) ⟨hempty _, rfl⟩) (Op.run_keeps_allowed _ w hallowed hI)))
  obtain ⟨w₂, hx₂, hC⟩ := ok_unit_of_wp (Op.cleanup_clears hH hI₁)
  have hSC := setupForGrpcSlots_subset_cleanupSlots w.manager.enableDualstack w₁.manager.kind
  -- a slot setup did not fill still holds nothing
  have hout : ∀ s, s ∉ setupForGrpcSlots w.manager.enableDualstack →
      w₁.manager.heldBy s = none := fun s hs => by
    rw [hF.frame s hs]
    simp [heldBy, hempty]
  refine ⟨w₁, w₂, hx₁, hx₂, Finset.ext fun p => ⟨fun hp₂ => ?_, fun hp => ?_⟩, fun s => ?_⟩
  · -- what remains was there before setup: setup's resources were all deleted
    rcases (hF.remote p).1 (hC.shrinks hp₂) with hp | ⟨s, hs, hps⟩
    · exact hp
    · exact absurd hp₂ ((hC.deleted s (hSC s hs)).2 p hps)
  · -- what was there before is held by no slot, so cleanup spares it
    refine hC.spares p ((hF.remote p).2 (.inl hp)) fun ⟨s, hs⟩ => ?_
    by_cases hsS : s ∈ setupForGrpcSlots w.manager.enableDualstack
    · obtain ⟨c, hc⟩ := hF.filled s hsS
      obtain rfl := Option.some.inj (hc.symm.trans hs)
      exact hfresh _ hp s (congrFun hF.canonicalName_eq s)
    · simp [hout s hsS] at hs
  · have hheld : w₂.manager.heldBy s = none := by
      by_cases hsS : s ∈ setupForGrpcSlots w.manager.enableDualstack
      · exact (hC.deleted s (hSC s hsS)).1
      · exact (hC.kept s).elim (fun e => e.trans (hout s hsS)) And.left
    simpa [heldBy] using hheld

/-- A cycle from construction, over a remote holding another health check. -/
theorem setupForGrpc_cleanup_restores_remote_from_init :
    let w₀ := World.init (TrafficDirectorManager.init .base "project" "psm" (some "a1"))
      {(.healthChecks, "legacy-hc")} fun _ => false
    ∃ w₁ w₂, (Op.setupForGrpc "svc" 8080 (some .GRPC) none).run w₀ = .ok () w₁ ∧
      (Op.cleanup false).run w₁ = .ok () w₂ ∧ w₂.remote = w₀.remote ∧
      ∀ s, w₂.manager.slots s = none :=
  setupForGrpc_cleanup_restores_remote (fun _ => rfl) .init (fun _ => rfl) (fun _ => rfl)
    (by simp only [World.init, Finset.mem_singleton]; rintro _ rfl s; cases s <;> decide)
    "svc" 8080 (some .GRPC) (by decide) none

end TrafficDirector
