import TrafficDirector.Proofs.Exec

/-!
# TrafficDirector — references to absent resources

The manager checks no dependency. Where a method refers to another managed resource, the only
guard is a log line or an argument that reads `.name` or `.url` of the slot, and that read
raises `AttributeError` on `None`. Method by method, with the referenced slot `Absent`:

* the URL-map, IPv6-proxy, alternative-proxy, forwarding-rule and route creates raise
  `AttributeError` before any gateway call, in the world they started from;
* `create_target_proxy` raises too, but has already set `target_proxy_is_http`;
* the three backend-service creates and `patch_url_map` read no attribute of their reference:
  they pass `None` to the gateway.
-/

namespace TrafficDirector

open TrafficDirectorManager TrafficDirectorAppNetManager

variable (w : World)

/-! ## Creates guarded by an attribute read -/

section Guarded

theorem createUrlMap_of_backendService_absent (srcHost : String) (srcPort : Int)
    (h : w.manager.slots .backendService = none) :
    createUrlMap srcHost srcPort w = .error (.attributeError "name") w := by
  rw [createUrlMap, bind_ok (getManager_apply w)]
  simp only [h]
  rfl

theorem createAlternativeUrlMap_of_backendService_absent (srcHost : String) (srcPort : Int)
    (h : w.manager.slots .alternativeBackendService = none) :
    createAlternativeUrlMap srcHost srcPort none w = .error (.attributeError "name") w := by
  rw [createAlternativeUrlMap, bind_ok (getManager_apply w)]
  simp only [Option.orElse, h]
  rfl

theorem createTargetProxyIpv6_of_urlMap_absent (h : w.manager.slots .urlMap = none) :
    createTargetProxyIpv6 w = .error (.attributeError "name") w := by
  rw [createTargetProxyIpv6, bind_ok (getManager_apply w)]
  simp only [h]
  rfl

/-- The alternative proxy is refused for a non-GRPC `backend_service_protocol` before its URL
map is read. -/
theorem createAlternativeTargetProxy_of_urlMap_absent
    (h : w.manager.slots .alternativeUrlMap = none) :
    createAlternativeTargetProxy w = .error (if w.manager.protocol .default = .GRPC then
      .attributeError "name" else .typeError "Unexpected backend service protocol") w := by
  rw [createAlternativeTargetProxy, bind_ok (getManager_apply w)]
  by_cases hp : w.manager.protocol .default = .GRPC <;> simp only [hp, h, if_true, if_false] <;>
    rfl

theorem createForwardingRuleOf_of_targetProxy_absent (slot : Slot) (baseName : String)
    (proxySlot : Slot) (srcPort : Int) (ipAddress : Option String)
    (h : w.manager.slots proxySlot = none) :
    createForwardingRuleOf slot baseName proxySlot srcPort ipAddress w =
      .error (.attributeError "url") w := by
  rw [createForwardingRuleOf, bind_ok (getManager_apply w)]
  simp only [h]
  rfl

/-- `create_grpc_route` reads `backend_service.name` first, then `mesh.url`. -/
theorem createGrpcRoute_of_reference_absent (srcHost : String) (srcPort : Int)
    (h : w.manager.slots .backendService = none ∨ w.manager.slots .mesh = none) :
    createGrpcRoute srcHost srcPort w = .error (if w.manager.slots .backendService = none then
      .attributeError "name" else .attributeError "url") w := by
  rw [createGrpcRoute, bind_ok (getManager_apply w)]
  cases hb : w.manager.slots .backendService with
  | none => rfl
  | some backendService =>
    have hm : w.manager.slots .mesh = none := by simpa [hb] using h
    simp only [hm]
    rfl

end Guarded

/-! ## `create_target_proxy` -/

/-- With `url_map` absent, `create_target_proxy` raises; for a GRPC or HTTP2
`backend_service_protocol` it has set `target_proxy_is_http` first. -/
theorem createTargetProxy_of_urlMap_absent (h : w.manager.slots .urlMap = none) :
    createTargetProxy w = match w.manager.protocol .default with
      | .UNSET => .error (.typeError "Unexpected backend service protocol") w
      | .GRPC => .error (.attributeError "name")
          { w with manager := { w.manager with targetProxyIsHttp := false } }
      | .HTTP2 => .error (.attributeError "name")
          { w with manager := { w.manager with targetProxyIsHttp := true } } := by
  rw [createTargetProxy, bind_ok (getManager_apply w)]
  cases hp : w.manager.protocol .default <;> simp only [hp, h] <;> rfl

/-! ## References passed as they are -/

/-- The backend-service creates send the current `health_check`, `None` included, and issue
exactly that one call. -/
theorem createBackendServiceOf_calls (variant : BackendServiceVariant) (baseName : String)
    (protocol : Option BackendServiceProtocol) (options : BackendServiceOptions) :
    (finalWorld (createBackendServiceOf variant baseName protocol options) w).calls =
      w.calls ++ [.create .backendServices (w.manager.makeResourceName baseName)
        (.backendService (w.manager.slots .healthCheck) (protocol.getD .GRPC) options
          w.manager.enableDualstack)] := by
  rw [← wp_finalWorld w _ fun w' => w'.calls = _]
  simp only [createBackendServiceOf, wp_bind, wp_getManager, wp_remoteCreate, wp_storeSlot,
    wp_modifyManager]
  split <;> rfl

/-- `patch_url_map` sends the current `url_map`, `None` included. -/
theorem patchUrlMap_calls (srcHost : String) (srcPort : Int) (backendService : GcpResource) :
    (finalWorld (patchUrlMap srcHost srcPort backendService) w).calls =
      w.calls ++ [.patchUrlMap (w.manager.slots .urlMap)
        (_generateUrlMapBody (w.manager.makeResourceName urlMapName)
          (w.manager.makeResourceName urlMapPathMatcherName) [s!"{srcHost}:{srcPort}"]
          backendService)] := by
  rw [← wp_finalWorld w _ fun w' => w'.calls = _]
  simp only [patchUrlMap, wp_bind, wp_getManager, wp_issue]
  split <;> rfl

/-! ## Every reference, method by method -/

/-- **A reference to an absent resource.** The backend-service creates and `patch_url_map`
still call the gateway, passing `None`; `create_target_proxy` raises after setting its kind
flag; every other create that refers to another resource raises before any gateway call and
leaves the world as it was. -/
theorem absent_reference_outcomes :
    (w.manager.slots .healthCheck = none →
      (∀ protocol subsetSize affinityHeader localityLbPolicies outlierDetection,
        ∃ name protocol' options enableDualstack,
          (finalWorld (createBackendService protocol subsetSize affinityHeader localityLbPolicies
            outlierDetection) w).calls = w.calls ++
              [.create .backendServices name (.backendService none protocol' options enableDualstack)]) ∧
      (∀ protocol, ∃ name protocol' options enableDualstack,
        (finalWorld (createAlternativeBackendService protocol) w).calls = w.calls ++
          [.create .backendServices name (.backendService none protocol' options enableDualstack)]) ∧
      (∀ protocol, ∃ name protocol' options enableDualstack,
        (finalWorld (createAffinityBackendService protocol) w).calls = w.calls ++
          [.create .backendServices name (.backendService none protocol' options enableDualstack)])) ∧
    (w.manager.slots .urlMap = none → ∀ srcHost srcPort backendService, ∃ body,
      (finalWorld (patchUrlMap srcHost srcPort backendService) w).calls =
        w.calls ++ [.patchUrlMap none body]) ∧
    (w.manager.slots .backendService = none → ∀ srcHost srcPort,
      createUrlMap srcHost srcPort w = .error (.attributeError "name") w) ∧
    (w.manager.slots .alternativeBackendService = none → ∀ srcHost srcPort,
      createAlternativeUrlMap srcHost srcPort none w = .error (.attributeError "name") w) ∧
    (w.manager.slots .urlMap = none →
      createTargetProxyIpv6 w = .error (.attributeError "name") w ∧
      (w.manager.protocol .default = .UNSET →
        createTargetProxy w = .error (.typeError "Unexpected backend service protocol") w) ∧
      (w.manager.protocol .default ≠ .UNSET → createTargetProxy w = .error (.attributeError "name")
        { w with manager := { w.manager with
          targetProxyIsHttp := decide (w.manager.protocol .default = .HTTP2) } })) ∧
    (w.manager.slots .alternativeUrlMap = none → ∃ e, createAlternativeTargetProxy w = .error e w) ∧
    (w.manager.slots .targetProxy = none → ∀ srcPort,
      createForwardingRule srcPort w = .error (.attributeError "url") w) ∧
    (w.manager.slots .targetProxyIpv6 = none → ∀ srcPort,
      createForwardingRuleIpv6 srcPort w = .error (.attributeError "url") w) ∧
    (w.manager.slots .alternativeTargetProxy = none → ∀ srcPort ipAddress,
      createAlternativeForwardingRule srcPort ipAddress w = .error (.attributeError "url") w) ∧
    (w.manager.slots .backendService = none ∨ w.manager.slots .mesh = none → ∀ srcHost srcPort,
      ∃ e, createGrpcRoute srcHost srcPort w = .error e w) := by
  refine ⟨fun h => ⟨fun _ _ _ _ _ => ?_, fun _ => ?_, fun _ => ?_⟩,
    fun h _ _ _ => ⟨_, by rw [patchUrlMap_calls, h]⟩,
    fun h _ _ => createUrlMap_of_backendService_absent w _ _ h,
    fun h _ _ => createAlternativeUrlMap_of_backendService_absent w _ _ h,
    fun h => ⟨createTargetProxyIpv6_of_urlMap_absent w h, fun hp => ?_, fun hp => ?_⟩,
    fun h => ⟨_, createAlternativeTargetProxy_of_urlMap_absent w h⟩,
    fun h _ => createForwardingRuleOf_of_targetProxy_absent w _ _ _ _ _ h,
    fun h _ => createForwardingRuleOf_of_targetProxy_absent w _ _ _ _ _ h,
    fun h _ _ => createForwardingRuleOf_of_targetProxy_absent w _ _ _ _ _ h,
    fun h _ _ => ⟨_, createGrpcRoute_of_reference_absent w _ _ h⟩⟩
  · exact ⟨_, _, _, _, by rw [createBackendService, createBackendServiceOf_calls, h]⟩
  · exact ⟨_, _, _, _, by rw [createAlternativeBackendService, createBackendServiceOf_calls, h]⟩
  · exact ⟨_, _, _, _, by rw [createAffinityBackendService, createBackendServiceOf_calls, h]⟩
  · rw [createTargetProxy_of_urlMap_absent w h, hp]
  · rw [createTargetProxy_of_urlMap_absent w h]
    cases hp' : w.manager.protocol .default <;> simp_all

/-- From a fresh manager, `create_backend_service` sends its create with `health_check = None`. -/
theorem createBackendService_sends_absent_healthCheck :
    (runOps [.createBackendService (some .GRPC) none none none none]
      (World.init (TrafficDirectorManager.init .base "project" "psm" (some "a1")) ∅
        fun _ => false)).calls =
      [.create .backendServices "psm-backend-service-a1" (.backendService none .GRPC {} false)] :=
  rfl

end TrafficDirector
