import TrafficDirector.Proofs.CleanupOrder
import TrafficDirector.Proofs.Dependencies
import TrafficDirector.Model.CustomLbTest

/-!
# TrafficDirector — what `CustomLbTest` leaves behind

`test_custom_lb_config` creates the chain of its load balancing one call a subtest, and the test
framework cleans up after it. On every allowed run where no call fails, from a manager holding
nothing over a remote with none of its resource names:

* **`testCustomLbConfig_cleanup_restores_remote`** — the test's calls all return, the backend
  service is created with the test's locality LB policies, the policy that does not exist
  first, and a `cleanup()` after the test returns, leaving the remote exactly as it was and
  every slot `Absent`.
* **`alternativeChain_cleanup_restores_remote`** — the same for `setup_for_grpc` followed by the
  alternative backend service, URL map, target proxy and forwarding rule, except that
  `alternative_url_map` still holds the alternative URL map after the cleanup has deleted it.

## The architecture

* `Filled.step` — one more call of a run, allowed where it is made and filling its slots.
* `Filled.cleanup_restores_remote` — `cleanup()` after any fill from a world holding nothing
  deletes exactly what the slots hold (`Op.cleanup_removes`), which is what the fill created.
-/

namespace TrafficDirector

open TrafficDirectorManager

/-- In each class's order, every slot of the class. -/
theorem mem_cleanupOrder {kind : ManagerClass} {s : Slot}
    (h : s.declaredBy = .base ∨ s.declaredBy = kind) : s ∈ cleanupOrder kind := by
  revert h
  cases kind <;> cases s <;> decide

section Teardown

variable {w₀ w w₁ : World} {S : List Slot}

/-- One more call of a run: allowed where it is made and filling the slots `T`, it returns. -/
theorem Filled.step (h : Reachable Allowed w₀ w₁) (hH : Succeeds w₁.fault) (op : Op)
    {P : World → Prop} {T : List Slot} (hfill : Fills P T op.run) (hP : P w₁)
    (hallowed : Allowed w₁ op) :
    ∃ w₂, op.run w₁ = .ok () w₂ ∧ Reachable Allowed w₀ w₂ ∧ Filled T w₁ w₂ := by
  obtain ⟨⟨⟩, w₂, hx, hF⟩ := ok_of_wp (hfill w₁ hH hP)
  refine ⟨w₂, hx, ?_, hF⟩
  have := h.step op hallowed
  rwa [finalWorld, hx] at this

/-- **`cleanup()` deletes what a fill created.** After calls that filled the slots `S` from a
world holding nothing, over a remote without the manager's canonical names, `cleanup()` returns,
leaving the remote as it was before the fill and every slot `Absent` but `alternative_url_map`,
which it leaves as it was. -/
theorem Filled.cleanup_restores_remote (h₀ : ∀ slot, w₀.manager.slots slot = none)
    (h : Reachable Allowed w₀ w₁) (hH : Succeeds w₀.fault) (hempty : ∀ s, w.manager.slots s = none)
    (hfresh : ∀ p ∈ w.remote, ∀ s, p.2 ≠ w.manager.canonicalName s) (hF : Filled S w w₁) :
    ∃ w₂, (Op.cleanup false).run w₁ = .ok () w₂ ∧ w₂.remote = w.remote ∧
      w₂.manager.slots .alternativeUrlMap = w₁.manager.slots .alternativeUrlMap ∧
      ∀ s, s ≠ .alternativeUrlMap → w₂.manager.slots s = none := by
  have hI := Reachable.inv h₀ h
  obtain ⟨⟨⟩, w₂, hx, ⟨-, -, hrem⟩, -, halt, hdel⟩ := ok_of_wp (wp_mono _ _ w₁
    (fun _ _ h => h) (fun _ h => h.1)
    (wp_and (Op.cleanup_removes hH hI) (Op.cleanup_deletes_all_but_alternativeUrlMap hH hI)))
  refine ⟨w₂, hx, ?_, halt, fun s hs => by simpa [heldBy] using (hdel s hs).1⟩
  -- `cleanup()` deletes what the slots hold: every held slot is of the class
  have hdels : ∀ p, p ∈ cleanupDeletions w₁.manager ↔ ∃ s, w₁.manager.heldBy s = some p :=
    fun p => ⟨fun hm => (List.mem_filterMap.1 hm).imp fun _ h => h.2, fun ⟨s, hs⟩ => by
      obtain ⟨r, hr, -⟩ := heldBy_eq_some.1 hs
      exact List.mem_filterMap.2 ⟨s, mem_cleanupOrder (hI.class_slots s r hr), hs⟩⟩
  -- and what the slots hold is what the fill created, under canonical names
  have hcreated : ∀ s p, w₁.manager.heldBy s = some p → p ∉ w.remote := fun s p hs hp => by
    by_cases hsS : s ∈ S
    · obtain ⟨c, hc⟩ := hF.filled s hsS
      rw [hc, hF.canonicalName_eq] at hs
      exact hfresh p hp s (congrArg Prod.snd (Option.some.inj hs)).symm
    · rw [hF.frame s hsS] at hs
      simp [heldBy, hempty] at hs
  ext p
  rw [hrem, Finset.mem_filter, hF.remote, hdels]
  constructor
  · rintro ⟨hp | ⟨s, -, hs⟩, hn⟩
    · exact hp
    · exact absurd ⟨s, hs⟩ hn
  · exact fun hp => ⟨.inl hp, fun ⟨s, hs⟩ => hcreated s p hs hp⟩

/-- **The custom LB test leaves the project as it found it.** On every allowed run where no call
fails, from a world whose slots are all `Absent` and whose remote holds no resource under one of
the manager's canonical names: the traffic director calls of `test_custom_lb_config` all return;
the backend service is created with the test's locality LB policies, the one that does not exist
first; and a `cleanup()` after the test returns, leaving the remote exactly as it was and every
slot `Absent`. -/
theorem testCustomLbConfig_cleanup_restores_remote (h₀ : ∀ slot, w₀.manager.slots slot = none)
    (h : Reachable Allowed w₀ w) (hH : Succeeds w₀.fault) (hempty : ∀ s, w.manager.slots s = none)
    (hfresh : ∀ p ∈ w.remote, ∀ s, p.2 ≠ w.manager.canonicalName s) (serverXdsHost : String)
    (serverXdsPort : Int) :
    ∃ w₁ w₂, forM (CustomLbTest.testCustomLbConfig serverXdsHost serverXdsPort) Op.run w =
        .ok () w₁ ∧
      (∃ healthCheck, Call.create .backendServices (w.manager.canonicalName .backendService)
        (.backendService healthCheck .GRPC
          { localityLbPolicies := some CustomLbTest.localityLbPolicies }
          w.manager.enableDualstack) ∈ w₁.calls) ∧
      (Op.cleanup false).run w₁ = .ok () w₂ ∧ w₂.remote = w.remote ∧
      ∀ s, w₂.manager.slots s = none := by
  have hH' : Succeeds w.fault := (Reachable.inv h₀ h).fault_eq ▸ hH
  -- subtest 0: the health check
  obtain ⟨v₁, hx₁, h₁, hF₁⟩ := Filled.step h hH' (.createHealthCheck (some .GRPC) none)
    (createHealthCheck_fills _ _) (hempty _)
    ⟨fun s _ => hempty s, by rintro (h | ⟨_, h⟩) <;> cases h⟩
  -- subtest 1: the backend service, which records its protocol
  let opts : BackendServiceOptions := { localityLbPolicies := some CustomLbTest.localityLbPolicies }
  obtain ⟨v₂, hx₂, h₂, hF₂⟩ := Filled.step h₁ (hF₁.fault_eq ▸ hH')
    (.createBackendService (some .GRPC) none none (some CustomLbTest.localityLbPolicies) none)
    (createBackendServiceOf_fills .default _ opts (by decide)) trivial
    ⟨by rintro _ (_ | ⟨_, ⟨⟩⟩); exact hF₁.absent (by decide) (hempty _),
      by rintro (h | ⟨_, h⟩) <;> cases h⟩
  have hp₂ : v₂.manager.protocol .default = .GRPC :=
    wp_of_ok hx₂ (createBackendServiceOf_protocol v₁ .default backendServiceName (some .GRPC) opts)
  have hF₁₂ := hF₁.trans (by decide) hF₂
  -- subtests 2 to 4: the URL map, the target proxy and the forwarding rule
  obtain ⟨v₃, hx₃, h₃, hF₃⟩ := Filled.step h₂ (hF₁₂.fault_eq ▸ hH')
    (.createUrlMap serverXdsHost serverXdsPort) (createUrlMap_fills _ _).dropResult
    (hF₂.present (List.mem_singleton_self _))
    ⟨by rintro _ (_ | ⟨_, ⟨⟩⟩); exact hF₁₂.absent (by decide) (hempty _),
      by rintro (h | ⟨_, h⟩) <;> cases h⟩
  have hF₁₃ := hF₁₂.trans (by decide) hF₃
  obtain ⟨v₄, hx₄, h₄, hF₄⟩ := Filled.step h₃ (hF₁₃.fault_eq ▸ hH') .createTargetProxy
    createTargetProxy_fills ⟨hF₃.present (List.mem_singleton_self _),
      hF₃.protocol_set (by rw [hp₂]; decide)⟩
    ⟨by rintro _ (_ | ⟨_, ⟨⟩⟩); exact hF₁₃.absent (by decide) (hempty _),
      by rintro (h | ⟨_, h⟩) <;> cases h⟩
  have hF₁₄ := hF₁₃.trans (by decide) hF₄
  obtain ⟨v₅, hx₅, h₅, hF₅⟩ := Filled.step h₄ (hF₁₄.fault_eq ▸ hH')
    (.createForwardingRule serverXdsPort)
    (createForwardingRuleOf_fills .targetProxy _ _ (.inl rfl)).dropResult
    (hF₄.present (List.mem_singleton_self _))
    ⟨by rintro _ (_ | ⟨_, ⟨⟩⟩); exact hF₁₄.absent (by decide) (hempty _),
      by rintro (h | ⟨_, h⟩) <;> cases h⟩
  have hF₁₅ := hF₁₄.trans (by decide) hF₅
  -- the backend service's create call, which the later calls only follow
  have hcall₂ := createBackendServiceOf_calls v₁ .default backendServiceName (some .GRPC) opts
  rw [show finalWorld (createBackendServiceOf .default backendServiceName (some .GRPC) opts) v₁ = v₂
    by rw [finalWorld, show createBackendServiceOf .default backendServiceName (some .GRPC) opts v₁ =
      _ from hx₂]] at hcall₂
  obtain ⟨L, hL, -⟩ := ((hF₃.trans (by decide) hF₄).trans (by decide) hF₅).creates
  obtain ⟨v₆, hx₆, hrem, halt, hnone⟩ :=
    Filled.cleanup_restores_remote h₀ h₅ hH hempty hfresh hF₁₅
  refine ⟨v₅, v₆, ?_, ⟨v₁.manager.slots .healthCheck, ?_⟩, hx₆, hrem, fun s => ?_⟩
  · simp only [CustomLbTest.testCustomLbConfig, List.forM_cons, List.forM_nil]
    rw [bind_ok hx₁, bind_ok hx₂, bind_ok hx₃, bind_ok hx₄, bind_ok hx₅]
    rfl
  · rw [hL, hcall₂, ← congrFun hF₁.canonicalName_eq .backendService, ← hF₁.enableDualstack_eq]
    exact List.mem_append_left _ (List.mem_append_right _ (List.mem_singleton_self _))
  · by_cases e : s = .alternativeUrlMap
    · rw [e, halt]
      exact hF₁₅.absent (by decide) (hempty _)
    · exact hnone s e

/-- **`cleanup()` removes the alternative routing chain, and forgets only its URL map.** On every
allowed run where no call fails, from a world whose slots are all `Absent` and whose remote holds
no resource under one of the manager's canonical names: `setup_for_grpc` with a `GRPC` backend,
then `create_alternative_backend_service`, `create_alternative_url_map` to it,
`create_alternative_target_proxy` and `create_alternative_forwarding_rule` all return; a
`cleanup()` after them returns, leaving the remote exactly as it was and every slot `Absent` but
`alternative_url_map`, which still holds the alternative URL map that is gone from the remote. -/
theorem alternativeChain_cleanup_restores_remote (h₀ : ∀ slot, w₀.manager.slots slot = none)
    (h : Reachable Allowed w₀ w) (hH : Succeeds w₀.fault) (hempty : ∀ s, w.manager.slots s = none)
    (hfresh : ∀ p ∈ w.remote, ∀ s, p.2 ≠ w.manager.canonicalName s) (serviceHost : String)
    (servicePort : Int) (protocol : Option BackendServiceProtocol)
    (hp : protocol.getD .GRPC = .GRPC) (healthCheckPort : Option Int)
    (alternativeProtocol : Option BackendServiceProtocol)
    (hap : alternativeProtocol.getD .GRPC ≠ .UNSET) (srcHost : String) (srcPort : Int)
    (ipAddress : String) :
    ∃ w₁ w₂, forM [Op.setupForGrpc serviceHost servicePort protocol healthCheckPort,
        .createAlternativeBackendService alternativeProtocol,
        .createAlternativeUrlMap srcHost srcPort none, .createAlternativeTargetProxy,
        .createAlternativeForwardingRule srcPort ipAddress] Op.run w = .ok () w₁ ∧
      (Op.cleanup false).run w₁ = .ok () w₂ ∧ w₂.remote = w.remote ∧
      w₂.manager.heldBy .alternativeUrlMap =
        some (.urlMaps, w.manager.canonicalName .alternativeUrlMap) ∧
      (.urlMaps, w.manager.canonicalName .alternativeUrlMap) ∉ w₂.remote ∧
      ∀ s, s ≠ .alternativeUrlMap → w₂.manager.slots s = none := by
  have hH' : Succeeds w.fault := (Reachable.inv h₀ h).fault_eq ▸ hH
  obtain ⟨d, hd⟩ : ∃ d, w.manager.enableDualstack = d := ⟨_, rfl⟩
  have hset : protocol.getD .GRPC ≠ .UNSET := by rw [hp]; decide
  -- the default chain, leaving the protocol the alternative target proxy reads
  obtain ⟨v₁, hx₁, h₁, hF₁⟩ := Filled.step h hH'
    (.setupForGrpc serviceHost servicePort protocol healthCheckPort)
    (setupForGrpc_fills _ _ _ hset _ d) ⟨hempty _, hd⟩
    ⟨fun s _ => hempty s, by rintro (h | ⟨_, h⟩) <;> cases h⟩
  have hp₁ : v₁.manager.protocol .default = .GRPC := hp ▸ (wp_of_ok hx₁
    (setupForGrpc_fills_protocol _ _ _ hset _ d w hH' ⟨hempty _, hd⟩)).2
  -- the alternative chain, each call reading the slot the one before filled
  obtain ⟨v₂, hx₂, h₂, hF₂⟩ := Filled.step h₁ (hF₁.fault_eq ▸ hH')
    (.createAlternativeBackendService alternativeProtocol)
    (createBackendServiceOf_fills .alternative _ {} hap) trivial
    ⟨by rintro _ (_ | ⟨_, ⟨⟩⟩); exact hF₁.absent (by cases d <;> decide) (hempty _),
      by rintro (h | ⟨_, h⟩) <;> cases h⟩
  have hF₁₂ := hF₁.trans (by cases d <;> decide) hF₂
  obtain ⟨v₃, hx₃, h₃, hF₃⟩ := Filled.step h₂ (hF₁₂.fault_eq ▸ hH')
    (.createAlternativeUrlMap srcHost srcPort none) (createAlternativeUrlMap_fills _ _).dropResult
    (hF₂.present (List.mem_singleton_self _))
    ⟨by rintro _ (_ | ⟨_, ⟨⟩⟩); exact hF₁₂.absent (by cases d <;> decide) (hempty _),
      by rintro (h | ⟨_, h⟩) <;> cases h⟩
  have hF₁₃ := hF₁₂.trans (by cases d <;> decide) hF₃
  obtain ⟨v₄, hx₄, h₄, hF₄⟩ := Filled.step h₃ (hF₁₃.fault_eq ▸ hH')
    .createAlternativeTargetProxy createAlternativeTargetProxy_fills
    ⟨hF₃.present (List.mem_singleton_self _),
      ((hF₂.trans (by decide) hF₃).protocol_eq .default (by decide)).trans hp₁⟩
    ⟨by rintro _ (_ | ⟨_, ⟨⟩⟩); exact hF₁₃.absent (by cases d <;> decide) (hempty _),
      by rintro (h | ⟨_, h⟩) <;> cases h⟩
  have hF₁₄ := hF₁₃.trans (by cases d <;> decide) hF₄
  obtain ⟨v₅, hx₅, h₅, hF₅⟩ := Filled.step h₄ (hF₁₄.fault_eq ▸ hH')
    (.createAlternativeForwardingRule srcPort ipAddress)
    (createForwardingRuleOf_fills .alternativeTargetProxy _ _ (.inr (.inr rfl))).dropResult
    (hF₄.present (List.mem_singleton_self _))
    ⟨by rintro _ (_ | ⟨_, ⟨⟩⟩); exact hF₁₄.absent (by cases d <;> decide) (hempty _),
      by rintro (h | ⟨_, h⟩) <;> cases h⟩
  have hF₁₅ := hF₁₄.trans (by cases d <;> decide) hF₅
  obtain ⟨v₆, hx₆, hrem, halt, hnone⟩ :=
    Filled.cleanup_restores_remote h₀ h₅ hH hempty hfresh hF₁₅
  refine ⟨v₅, v₆, ?_, hx₆, hrem, ?_, hrem ▸ fun hm => hfresh _ hm .alternativeUrlMap rfl, hnone⟩
  · simp only [List.forM_cons, List.forM_nil]
    rw [bind_ok hx₁, bind_ok hx₂, bind_ok hx₃, bind_ok hx₄, bind_ok hx₅]
    rfl
  · -- the slot keeps what the chain stored there, under its canonical name
    obtain ⟨c, hc⟩ := hF₁₅.filled .alternativeUrlMap (by cases d <;> decide)
    obtain ⟨r, hr, he⟩ := heldBy_eq_some.1 hc
    rw [heldBy, halt, hr, ← hF₁₅.canonicalName_eq, (Prod.mk.inj he).2]
    rfl

end Teardown

/-- The alternative chain on a fresh project: the cleanup empties the remote but not
`alternative_url_map`. -/
theorem alternativeChain_cleanup_restores_remote_from_init :
    let w₀ := World.init (TrafficDirectorManager.init .base "project" "psm" (some "a1")) ∅
      fun _ => false
    ∃ w₁ w₂, forM [Op.setupForGrpc "svc" 8080 none none, .createAlternativeBackendService none,
        .createAlternativeUrlMap "svc-alt" 8080 none, .createAlternativeTargetProxy,
        .createAlternativeForwardingRule 8080 "0.0.0.0"] Op.run w₀ = .ok () w₁ ∧
      (Op.cleanup false).run w₁ = .ok () w₂ ∧ w₂.remote = ∅ ∧
      w₂.manager.slots .alternativeUrlMap ≠ none :=
  (alternativeChain_cleanup_restores_remote (fun _ => rfl) .init (fun _ => rfl) (fun _ => rfl)
    (fun _ h => absurd h (Finset.not_mem_empty _)) "svc" 8080 none rfl none none (by decide)
    "svc-alt" 8080 "0.0.0.0").imp fun _ ⟨w₂, hx, hc, hr, hheld, _⟩ =>
    ⟨w₂, hx, hc, hr, fun e => by simp [heldBy, e] at hheld⟩

/-- The test on a fresh project: its calls return, and the cleanup after it leaves the project
empty again. -/
theorem testCustomLbConfig_cleanup_restores_remote_from_init :
    let w₀ := World.init (TrafficDirectorManager.init .base "project" "psm" (some "a1")) ∅
      fun _ => false
    ∃ w₁ w₂, forM (CustomLbTest.testCustomLbConfig "xds-test-server" 8080) Op.run w₀ =
        .ok () w₁ ∧ (Op.cleanup false).run w₁ = .ok () w₂ ∧ w₂.remote = ∅ :=
  (testCustomLbConfig_cleanup_restores_remote (fun _ => rfl) .init (fun _ => rfl) (fun _ => rfl)
    (fun _ h => absurd h (Finset.not_mem_empty _)) "xds-test-server" 8080).imp
    fun _ ⟨w₂, hx, _, hc, hr, _⟩ => ⟨w₂, hx, hc, hr⟩

end TrafficDirector
