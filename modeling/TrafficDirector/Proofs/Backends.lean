import TrafficDirector.Proofs.Invariant

/-!
# TrafficDirector — backend membership

Each backend-service variant keeps a set of NEG backends. `_get_gcp_negs_in_zones` waits for the
network endpoint group of one name in each zone, in order, and collects them; adding unions that
set into the variant's membership and removing takes the difference, and both then patch the
backend service with the whole membership, not a delta:

* **`addNegBackendsOf_without_zones`** — with no zones, the add method of a variant raises
  `ValueError`, changing nothing, exactly when the variant's membership is empty; otherwise it
  patches the backend service with the membership as it is;
* **`addNegBackends_then_remove_restores_membership`** — adding and then removing the NEGs of
  the same zones gives the membership back when none of them was a member, the last patch
  carrying the membership as it was;
* **`waitForBackendsHealthyStatus_of_absent`** — of the three healthy-status waits only the
  default one logs its backend service's name: with its backend service `Absent` it raises
  `AttributeError` before any call, while the other two still issue their wait, passing `None`.
-/

namespace TrafficDirector

open TrafficDirectorManager

/-- One NEG of the name in each zone: what `_get_gcp_negs_in_zones` collects. -/
def negsInZones (name : String) (zones : List String) : Finset NegGcpResource :=
  (zones.map (NegGcpResource.mk name)).toFinset

@[simp] theorem negsInZones_nil (name : String) : negsInZones name [] = ∅ := rfl

@[simp] theorem negsInZones_cons (name zone : String) (zones : List String) :
    negsInZones name (zone :: zones) = insert ⟨name, zone⟩ (negsInZones name zones) := by
  simp [negsInZones]

/-- The wait calls of `_get_gcp_negs_in_zones`, one per zone, in order. -/
def negWaits (name : String) (zones : List String) : List Call :=
  zones.map (Call.waitForNetworkEndpointGroup name)

@[simp] theorem negWaits_nil (name : String) : negWaits name [] = [] := rfl

@[simp] theorem setBackends_self (m : TrafficDirectorManager) (variant : BackendServiceVariant) :
    m.setBackends variant (m.backends variant) = m := by
  simp [setBackends]

@[simp] theorem modifyManager_apply (f : TrafficDirectorManager → TrafficDirectorManager)
    (w : World) : modifyManager f w = .ok () { w with manager := f w.manager } := rfl

section Loop

variable {f : Nat → Bool} (hH : Succeeds f)
include hH

theorem issue_ok (call : Call) {w : World} (hf : w.fault = f) :
    issue call w = .ok () (w.record call) := by
  rw [issue, hH.nextFails hf]
  rfl

variable (name : String)

theorem waitForNetworkEndpointGroup_ok (zone : String) {w : World} (hf : w.fault = f) :
    waitForNetworkEndpointGroup name zone w =
      .ok ⟨name, zone⟩ (w.record (.waitForNetworkEndpointGroup name zone)) := by
  show (issue _ >>= fun _ => pure _) w = _
  rw [bind_ok (issue_ok hH _ hf)]
  rfl

/-- **The zone loop.** From any accumulated set, the loop adds one NEG per zone and logs one
wait per zone; nothing else changes. -/
theorem _getGcpNegsInZones_loop (zones : List String) :
    ∀ (acc : Finset NegGcpResource) (w : World), w.fault = f →
      zones.foldlM (m := Exec) (fun backends zone => do
        let neg ← waitForNetworkEndpointGroup name zone
        return insert neg backends) acc w =
      .ok (acc ∪ negsInZones name zones) { w with calls := w.calls ++ negWaits name zones } := by
  induction zones with
  | nil => intro acc w _; simp [negWaits]; rfl
  | cons zone zones ih =>
    intro acc w hf
    rw [List.foldlM_cons, bind_ok (by rw [bind_ok (waitForNetworkEndpointGroup_ok hH name zone hf)]; rfl)]
    refine (ih _ (w.record _) hf).trans ?_
    simp [negWaits, World.record, Finset.insert_union, Finset.union_insert]

theorem _getGcpNegsInZones_ok (zones : List String) {w : World} (hf : w.fault = f) :
    _getGcpNegsInZones name zones w =
      .ok (negsInZones name zones) { w with calls := w.calls ++ negWaits name zones } := by
  rw [_getGcpNegsInZones, _getGcpNegsInZones_loop hH name zones ∅ w hf, Finset.empty_union]

/-- A patch sends the variant's whole membership; it raises `AttributeError` when the variant's
backend service is `Absent`. -/
theorem patchBackendsOf_ok (variant : BackendServiceVariant) (maxRatePerEndpoint : Option Int)
    (circuitBreakers : Option Json) {w : World} (hf : w.fault = f) {r : GcpResource}
    (hr : w.manager.slots variant.slot = some r) :
    patchBackendsOf variant maxRatePerEndpoint circuitBreakers w = .ok () (w.record
      (.backendServicePatchBackends r (w.manager.backends variant) maxRatePerEndpoint
        circuitBreakers)) := by
  rw [patchBackendsOf, bind_ok (getManager_apply w), hr]
  exact issue_ok hH _ hf

end Loop

theorem patchBackendsOf_of_absent (variant : BackendServiceVariant)
    (maxRatePerEndpoint : Option Int) (circuitBreakers : Option Json) {w : World}
    (hr : w.manager.slots variant.slot = none) :
    patchBackendsOf variant maxRatePerEndpoint circuitBreakers w =
      .error (.attributeError "name") w := by
  rw [patchBackendsOf, bind_ok (getManager_apply w), hr]
  rfl

/-- Adding NEG backends: on a run where no call fails, the add method of a variant (its patch
being that variant's `*_patch_backends`) waits once per zone and records the membership united
with one NEG per zone — kept even when it then raises. It then raises `ValueError` with its
message if the union is empty, raises `AttributeError` if the variant's backend service is
`Absent`, and otherwise issues one patch call carrying the whole union. -/
theorem addNegBackendsOf_eq (variant : BackendServiceVariant) (message name : String)
    (zones : List String) (maxRatePerEndpoint : Option Int) (circuitBreakers : Option Json)
    {f : Nat → Bool} (hH : Succeeds f) {w : World} (hf : w.fault = f) :
    (let backends := w.manager.backends variant ∪ negsInZones name zones
    let w₁ : World := { w with
      manager := w.manager.setBackends variant backends
      calls := w.calls ++ negWaits name zones }
    addNegBackendsOf variant message name zones
        (patchBackendsOf variant maxRatePerEndpoint circuitBreakers) w =
      if backends = ∅ then EStateM.Result.error (.valueError message) w₁
      else match w.manager.slots variant.slot with
        | some r => .ok () (w₁.record
            (.backendServicePatchBackends r backends maxRatePerEndpoint circuitBreakers))
        | none => .error (.attributeError "name") w₁) := by
  intro backends w₁
  rw [addNegBackendsOf, bind_ok (_getGcpNegsInZones_ok hH name zones hf),
    bind_ok (modifyManager_apply _ _), bind_ok (getManager_apply _)]
  simp only [setBackends, Function.update_same]
  by_cases hb : w.manager.backends variant ∪ negsInZones name zones = ∅
  · rw [if_pos hb, if_pos hb]
    rfl
  · rw [if_neg hb, if_neg hb]
    show patchBackendsOf variant maxRatePerEndpoint circuitBreakers w₁ = _
    cases hr : w.manager.slots variant.slot with
    | none => exact patchBackendsOf_of_absent _ _ _ hr
    | some r =>
      exact (patchBackendsOf_ok hH _ _ _ (by exact hf) (by exact hr)).trans
        (by simp [w₁, setBackends])

/-- Removing NEG backends: one wait per zone, the default membership without those NEGs, then
one patch carrying it, with no emptiness check. -/
theorem backendServiceRemoveNegBackends_ok (name : String) (zones : List String)
    {f : Nat → Bool} (hH : Succeeds f) {w : World} (hf : w.fault = f) {r : GcpResource}
    (hr : w.manager.slots .backendService = some r) :
    (let backends := w.manager.backends .default \ negsInZones name zones
    backendServiceRemoveNegBackends name zones w = .ok () ({ w with
      manager := w.manager.setBackends .default backends
      calls := w.calls ++ negWaits name zones }.record
        (.backendServicePatchBackends r backends none none))) := by
  intro backends
  rw [backendServiceRemoveNegBackends, bind_ok (_getGcpNegsInZones_ok hH name zones hf),
    bind_ok (modifyManager_apply _ _)]
  exact (patchBackendsOf_ok hH .default none none (by exact hf) (by exact hr)).trans
    (by simp [setBackends])

/-- **Adding then removing the same zones restores the membership.** On a run where no call
fails, with the backend service `Present`, at least one zone, and none of the zones' NEGs a
member yet, `backend_service_add_neg_backends` and then `backend_service_remove_neg_backends` of
the same name and zones both return; the membership is as it was, and the last call patches
the backend service with it. -/
theorem addNegBackends_then_remove_restores_membership (name : String) (zones : List String)
    (maxRatePerEndpoint : Option Int) (w : World) (hH : Succeeds w.fault) {r : GcpResource}
    (hr : w.manager.slots .backendService = some r) (hz : zones ≠ [])
    (hfresh : Disjoint (w.manager.backends .default) (negsInZones name zones)) :
    ∃ w₁ w₂, backendServiceAddNegBackends name zones maxRatePerEndpoint w = .ok () w₁ ∧
      backendServiceRemoveNegBackends name zones w₁ = .ok () w₂ ∧
      w₂.manager.backends = w.manager.backends ∧
      w₂.calls.getLast? = some (.backendServicePatchBackends r (w.manager.backends .default) none none) := by
  have hne : w.manager.backends .default ∪ negsInZones name zones ≠ ∅ := by
    obtain ⟨zone, zones, rfl⟩ := List.exists_cons_of_ne_nil hz
    simp
  have hadd := addNegBackendsOf_eq .default "Unexpected: no backends were loaded." name zones
    maxRatePerEndpoint none hH rfl
  simp only [if_neg hne, BackendServiceVariant.slot, hr] at hadd
  refine ⟨_, _, hadd, backendServiceRemoveNegBackends_ok name zones hH (by rfl) (by exact hr),
    ?_, ?_⟩
  all_goals simp [setBackends, Finset.union_sdiff_cancel_right hfresh, List.getLast?_cons,
    List.getLast?_append]

/-- Two zones added to and removed from the backend service a GRPC backend setup created. -/
theorem addNegBackends_then_remove_restores_membership_after_setup :
    let w := runOps [.setupBackendForGrpc (some .GRPC) none]
      (World.init (TrafficDirectorManager.init .base "project" "psm" (some "a1")) ∅ fun _ => false)
    ∃ w₁ w₂, backendServiceAddNegBackends "neg" ["zone-a", "zone-b"] none w = .ok () w₁ ∧
      backendServiceRemoveNegBackends "neg" ["zone-a", "zone-b"] w₁ = .ok () w₂ ∧
      w₂.manager.backends = w.manager.backends ∧
      w₂.calls.getLast? = some (.backendServicePatchBackends
        (Collection.backendServices.handle "psm-backend-service-a1") (w.manager.backends .default)
        none none) :=
  addNegBackends_then_remove_restores_membership _ _ none _ (fun _ => rfl) (by decide) (by decide)
    (Finset.disjoint_empty_left _)

/-- **Without zones, adding raises exactly when the membership is empty.** On a run where no call
fails, the add method of a variant given no zones raises `ValueError` with its message, changing
nothing, when the variant's membership is empty; otherwise, the backend service `Present`, it
returns having patched it with the membership as it is. -/
theorem addNegBackendsOf_without_zones (variant : BackendServiceVariant) (message name : String)
    (maxRatePerEndpoint : Option Int) (circuitBreakers : Option Json) (w : World)
    (hH : Succeeds w.fault) :
    (w.manager.backends variant = ∅ →
      addNegBackendsOf variant message name []
        (patchBackendsOf variant maxRatePerEndpoint circuitBreakers) w =
        .error (.valueError message) w) ∧
    (w.manager.backends variant ≠ ∅ → ∀ r, w.manager.slots variant.slot = some r →
      addNegBackendsOf variant message name []
        (patchBackendsOf variant maxRatePerEndpoint circuitBreakers) w =
        .ok () (w.record (.backendServicePatchBackends r (w.manager.backends variant)
          maxRatePerEndpoint circuitBreakers))) := by
  have h := addNegBackendsOf_eq variant message name [] maxRatePerEndpoint circuitBreakers hH rfl
  simp only [negsInZones_nil, Finset.union_empty, negWaits_nil, List.append_nil,
    setBackends_self] at h
  exact ⟨fun hb => by rw [h, if_pos hb], fun hb r hr => by rw [h, if_neg hb, hr]⟩

/-! ## Waiting for healthy backends -/

/-- The shared wait issues one call carrying the variant's slot as it is and its membership, and
changes nothing else, whether the call succeeds or fails. -/
theorem finalWorld_waitForBackendsHealthyStatusOf (variant : BackendServiceVariant)
    (replicaCount : Int) (w : World) :
    finalWorld (waitForBackendsHealthyStatusOf variant replicaCount) w =
      w.record (.waitForBackendsHealthyStatus (w.manager.slots variant.slot)
        (w.manager.backends variant) replicaCount) := by
  rw [finalWorld, waitForBackendsHealthyStatusOf, bind_ok (getManager_apply w), issue]
  cases w.nextFails <;> rfl

/-- **Only the default wait reads its backend service's name.** The log line of
`wait_for_backends_healthy_status` reads `backend_service.name`; the alternative and affinity
waits log nothing of theirs. So with its backend service `Absent`, the default wait raises
`AttributeError` before any call and changes nothing, while each of the other two still issues
its wait with `None` for the backend service, and changes nothing else whatever the call does. -/
theorem waitForBackendsHealthyStatus_of_absent (w : World) (replicaCount : Int) :
    (w.manager.slots .backendService = none →
      waitForBackendsHealthyStatus replicaCount w = .error (.attributeError "name") w) ∧
    (w.manager.slots .alternativeBackendService = none →
      finalWorld (waitForAlternativeBackendsHealthyStatus replicaCount) w =
        w.record (.waitForBackendsHealthyStatus none (w.manager.backends .alternative)
          replicaCount)) ∧
    (w.manager.slots .affinityBackendService = none →
      finalWorld (waitForAffinityBackendsHealthyStatus replicaCount) w =
        w.record (.waitForBackendsHealthyStatus none (w.manager.backends .affinity)
          replicaCount)) := by
  refine ⟨fun h => ?_, fun h => ?_, fun h => ?_⟩
  · rw [waitForBackendsHealthyStatus, bind_ok (getManager_apply w), h]
    rfl
  · rw [waitForAlternativeBackendsHealthyStatus, finalWorld_waitForBackendsHealthyStatusOf]
    exact congrArg (fun r => w.record (.waitForBackendsHealthyStatus r _ _)) h
  · rw [waitForAffinityBackendsHealthyStatus, finalWorld_waitForBackendsHealthyStatusOf]
    exact congrArg (fun r => w.record (.waitForBackendsHealthyStatus r _ _)) h

end TrafficDirector
