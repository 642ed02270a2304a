import TrafficDirector.Proofs.Setup
import TrafficDirector.Proofs.Recovery
import TrafficDirector.Proofs.Failure

/-!
# TrafficDirector — the deletes `cleanup()` issues, and their order

`cleanup` deletes "in the reverse order of creation": forwarding rules before their target
proxies, proxies before their URL maps, URL maps before their backend services, backend services
before their health check, routes before the mesh, the endpoint policy before the policies it
names. The gateway refuses to delete a resource another one still refers to, so the order is what
lets a cleanup finish. On every allowed run where no call fails:

* **`cleanup_deletes_referrers_first`** — `cleanup()` returns, having issued one delete per
  resource the manager holds and no other call, in the order of `cleanupOrder`; so whenever the
  resource of one slot refers to that of another (`Slot.refersTo`, as the creates and patches
  pass them), the referring one is deleted first;
* **`cleanup_reverses_setupForGrpc_iff_single_stack`** — after `setup_for_grpc`, `cleanup()`
  deletes exactly the resources setup created, and in the reverse order of their creation
  exactly when dual stack is off: under dual stack the IPv4 forwarding rule and target proxy are
  deleted before the IPv6 ones, which were created after them.
* **`cleanup_repeats_alternative_url_map_delete`** — `cleanup()` removes the alternative URL map
  from the remote but leaves `alternative_url_map` holding it, so the next `cleanup()` issues one
  call only, a delete of that map, which is no longer there.
* **`deleteAlternativeUrlMap_orphans_urlMap`** — `delete_alternative_url_map()` clears `url_map`
  instead, so a `cleanup()` after it leaves the URL map `url_map` held on the remote, where no
  slot holds it any more.

## The architecture

* `Issues P S x` — from a world satisfying `P` and the registry invariant, `x` returns, keeps
  the invariant, issues exactly one delete per resource the slots `S` hold, in order, removes
  exactly those resources from the remote, and changes no other slot's resource. One lemma per
  delete method (the two target proxy deletes together); sequencing concatenates the slot
  lists.
* `refersTo_sublist_cleanupOrder` — the order puts every referring slot of a class before the
  slots it refers to.
-/

namespace TrafficDirector

open TrafficDirectorManager

variable {α β : Type}

/-! ## The order -/

/-- The slots in the order `cleanup()` deletes their resources: `cleanupSlots`, with the
alternative URL map deleted right after the URL map. -/
def cleanupOrder (kind : ManagerClass) : List Slot :=
  (cleanupSlots kind).flatMap fun s => if s = .urlMap then [.urlMap, .alternativeUrlMap] else [s]

/-- The resources `cleanup()` deletes, in order: those the manager's slots hold. -/
def cleanupDeletions (m : TrafficDirectorManager) : List (Collection × String) :=
  (cleanupOrder m.kind).filterMap m.heldBy

/-- The slots whose resources a slot's resource refers to, as the methods pass them: a backend
service its health check (and the client TLS policy `backend_service_apply_client_mtls_policy`
patches in), a URL map the backend service it routes to (any of the three for `patch_url_map`
and `create_alternative_url_map`), a target proxy its URL map, a forwarding rule its target
proxy, `create_grpc_route` the mesh and the backend service, and the endpoint policy the server
TLS and authorization policies. -/
def Slot.refersTo : Slot → List Slot
  | .backendService => [.healthCheck, .clientTlsPolicy]
  | .alternativeBackendService | .affinityBackendService => [.healthCheck]
  | .urlMap | .alternativeUrlMap =>
    [.backendService, .alternativeBackendService, .affinityBackendService]
  | .targetProxy | .targetProxyIpv6 => [.urlMap]
  | .alternativeTargetProxy => [.alternativeUrlMap]
  | .forwardingRule => [.targetProxy]
  | .forwardingRuleIpv6 => [.targetProxyIpv6]
  | .alternativeForwardingRule => [.alternativeTargetProxy]
  | .grpcRoute => [.mesh, .backendService]
  | .endpointPolicy => [.serverTlsPolicy, .authzPolicy]
  | _ => []

/-- In each class's order, a slot comes before every slot of the class it refers to. -/
theorem refersTo_sublist_cleanupOrder (kind : ManagerClass) (t : Slot) :
    (t.declaredBy = .base ∨ t.declaredBy = kind) → ∀ s ∈ t.refersTo,
      (s.declaredBy = .base ∨ s.declaredBy = kind) → List.Sublist [t, s] (cleanupOrder kind) := by
  cases kind <;> cases t <;> decide

/-! ## Issuing deletes -/

section Issues

variable {R₀ : Finset (Collection × String)}
  {cfg : ResourceNaming × ManagerClass × String × String × Bool} {f : Nat → Bool}

/-- From a world satisfying `P` and the invariant, `x` returns in a world satisfying the
invariant, having issued one delete per resource the slots `S` hold, in order, and no other
call, leaving every other slot's resource as it was, and having removed from the remote exactly
the resources it deleted. -/
def Issues (R₀ : Finset (Collection × String))
    (cfg : ResourceNaming × ManagerClass × String × String × Bool) (f : Nat → Bool)
    (P : World → Prop) (S : List Slot) (x : Exec α) : Prop :=
  ∀ w, P w → Inv true R₀ cfg f w → wp x (fun _ w' => Inv true R₀ cfg f w' ∧
    w'.calls = w.calls ++ (S.filterMap w.manager.heldBy).map (fun p => .delete p.1 p.2) ∧
    (∀ s, s ∉ S → w'.manager.heldBy s = w.manager.heldBy s) ∧
    w'.remote = w.remote.filter (· ∉ S.filterMap w.manager.heldBy)) (fun _ => False) w

/-- Deleting one resource removes it from the remote. -/
theorem erase_eq_filter_ne (R : Finset (Collection × String)) (p : Collection × String) :
    R.erase p = R.filter (fun q => ¬ q = p) :=
  (Finset.filter_ne' R p).symm

namespace Issues

variable {P Q : World → Prop} {S T : List Slot}

theorem of_keeps {x : Exec α} (hk : Keeps P (Inv true R₀ cfg f) x)
    (hc : ∀ w, P w → Inv true R₀ cfg f w → wp x (fun _ w' =>
      w'.calls = w.calls ++ (S.filterMap w.manager.heldBy).map (fun p => .delete p.1 p.2) ∧
      (∀ s, s ∉ S → w'.manager.heldBy s = w.manager.heldBy s) ∧
      w'.remote = w.remote.filter (· ∉ S.filterMap w.manager.heldBy)) (fun _ => False) w) :
    Issues R₀ cfg f P S x := fun w hP hI =>
  wp_mono _ _ w (fun _ _ h => h) (fun _ h => h.2) (wp_and (hk w hP hI) (hc w hP hI))

/-- Sequencing over disjoint slots, where `x` establishes the precondition `Q` of what
follows. -/
theorem bind_keep {x : Exec β} {g : β → Exec α} (hx : Issues R₀ cfg f P S x)
    (hQ : ∀ w, P w → Inv true R₀ cfg f w → wp x (fun _ => Q) (fun _ => True) w)
    (hST : ∀ s ∈ T, s ∉ S) (hg : ∀ b, Issues R₀ cfg f Q T (g b)) :
    Issues R₀ cfg f P (S ++ T) (x >>= g) := fun w hP hI => by
  rw [wp_bind]
  refine wp_mono _ _ w (fun b w₁ h₁ => ?_) (fun _ h => h.1) (wp_and (hx w hP hI) (hQ w hP hI))
  -- what follows reads only slots `x` left alone
  have hT : T.filterMap w₁.manager.heldBy = T.filterMap w.manager.heldBy :=
    List.filterMap_congr fun s hs => h₁.1.2.2.1 s (hST s hs)
  refine wp_mono _ _ w₁ (fun _ w₂ h₂ => ⟨h₂.1, ?_, fun s hs => ?_, ?_⟩) (fun _ h => h)
    (hg b w₁ h₁.2 h₁.1.1)
  · rw [h₂.2.1, h₁.1.2.1, hT, List.filterMap_append, List.map_append, List.append_assoc]
  · rw [List.mem_append, not_or] at hs
    exact (h₂.2.2.1 s hs.2).trans (h₁.1.2.2.1 s hs.1)
  · rw [h₂.2.2.2, h₁.1.2.2.2, hT, Erases.filter_filter_not_mem, List.filterMap_append]

theorem bind {x : Exec β} {g : β → Exec α} (hx : Issues R₀ cfg f P S x)
    (hST : ∀ s ∈ T, s ∉ S) (hg : ∀ b, Issues R₀ cfg f (fun _ => True) T (g b)) :
    Issues R₀ cfg f P (S ++ T) (x >>= g) :=
  hx.bind_keep (fun w _ _ => wp_true w x) hST hg

theorem congr {x : Exec α} (h : Issues R₀ cfg f P S x) (hS : S = T) : Issues R₀ cfg f P T x :=
  hS ▸ h

theorem any {x : Exec α} (h : Issues R₀ cfg f (fun _ => True) S x) : Issues R₀ cfg f P S x :=
  fun w _ hI => h w trivial hI

end Issues

/-! ## Each delete -/

variable (hH : Succeeds f)
include hH

theorem deleteResource_issues {slot : Slot} {collection : Collection}
    (hcoll : ∀ b, slot.collection b = collection) (halt : slot ≠ .alternativeUrlMap) :
    Issues R₀ cfg f (fun _ => True) [slot] (deleteResource slot collection slot.baseName false) := by
  refine Issues.of_keeps (deleteResource_keeps false hcoll halt) fun w _ hI => ?_
  simp only [deleteResource, deletionName, wp_bind, wp_getManager, Bool.false_eq_true, if_false]
  cases hr : w.manager.slots slot with
  | none => exact ⟨by simp [heldBy, hr], by simp, by simp [heldBy, hr]⟩
  | some r =>
    simp only [Option.map_some', wp_bind, wp_remoteDelete, hH.nextFails hI.fault_eq,
      Bool.false_eq_true, if_false, wp_storeSlot]
    exact ⟨by simp [heldBy, hr, collectionOf, hcoll],
      fun s hs => heldBy_setSlot_ne _ _ (by simpa using hs),
      by simp [heldBy, hr, collectionOf, hcoll, erase_eq_filter_ne]⟩

/-- Of the two target proxy deletes, the one of the proxy's kind deletes it. -/
theorem deleteTargetProxies_issues :
    Issues R₀ cfg f (fun _ => True) [.targetProxy]
      (deleteTargetHttpProxy false >>= fun _ => deleteTargetGrpcProxy false) := by
  refine Issues.of_keeps (Keeps.bind (deleteTargetHttpProxy_keeps false) fun _ =>
    deleteTargetGrpcProxy_keeps false) fun w _ hI => ?_
  have hf := hH.nextFails hI.fault_eq
  cases hr : w.manager.slots .targetProxy with
  | none =>
    simp only [wp_bind, deleteTargetHttpProxy, deleteTargetGrpcProxy, deletionName, wp_getManager,
      Bool.false_eq_true, if_false, hr, Option.map_none', ite_self, wp_pure]
    exact ⟨by simp [heldBy, hr], by simp, by simp [heldBy, hr]⟩
  | some r =>
    -- the delete of the proxy's kind clears the slot and the flag, and no other slot
    have hframe : ∀ s ∉ [Slot.targetProxy],
        ({ w.manager.setSlot .targetProxy none with targetProxyIsHttp := false } :
          TrafficDirectorManager).heldBy s = w.manager.heldBy s := fun s hs => by
      rw [heldBy_setFlag_ne _ _ (by simpa using hs), heldBy_setSlot_ne _ _ (by simpa using hs)]
    cases hb : w.manager.targetProxyIsHttp
    · simp only [wp_bind, deleteTargetHttpProxy, deleteTargetGrpcProxy, deletionName,
        wp_getManager, Bool.false_eq_true, if_false, hb, hr, Option.map_some', wp_pure,
        wp_remoteDelete, hf, wp_storeSlot, wp_modifyManager]
      exact ⟨by simp [heldBy, hr, collectionOf, Slot.collection, hb], hframe,
        by simp [heldBy, hr, collectionOf, Slot.collection, hb, erase_eq_filter_ne]⟩
    · simp only [wp_bind, deleteTargetHttpProxy, deleteTargetGrpcProxy, deletionName,
        wp_getManager, Bool.false_eq_true, if_false, hb, hr, if_true, Option.map_some',
        wp_remoteDelete, hf, wp_storeSlot, wp_modifyManager, setSlot_slots, Function.update_same,
        Option.map_none', wp_pure]
      exact ⟨by simp [heldBy, hr, collectionOf, Slot.collection, hb], hframe,
        by simp [heldBy, hr, collectionOf, Slot.collection, hb, erase_eq_filter_ne]⟩

/-- A delete and then the rest of a cleanup, the two target proxy deletes leading. -/
theorem Issues.proxies {g : Unit → Exec α} {T : List Slot} (hT : .targetProxy ∉ T)
    (hg : ∀ b, Issues R₀ cfg f (fun _ => True) T (g b)) :
    Issues R₀ cfg f (fun _ => True) (.targetProxy :: T)
      (deleteTargetHttpProxy false >>= fun _ => deleteTargetGrpcProxy false >>= g) := by
  rw [← bind_assoc]
  exact (deleteTargetProxies_issues hH).bind (fun s hs e => hT (List.mem_singleton.1 e ▸ hs)) hg

/-- `delete_alternative_url_map()` after the URL map is gone: it clears `url_map` again. -/
theorem deleteAlternativeUrlMap_issues :
    Issues R₀ cfg f (fun w => w.manager.slots .urlMap = none) [.alternativeUrlMap]
      (deleteAlternativeUrlMap false) := by
  refine Issues.of_keeps (deleteAlternativeUrlMap_keeps false).any fun w hu hI => ?_
  simp only [deleteAlternativeUrlMap, deletionName, wp_bind, wp_getManager, Bool.false_eq_true,
    if_false]
  cases hr : w.manager.slots .alternativeUrlMap with
  | none => exact ⟨by simp [heldBy, hr], by simp, by simp [heldBy, hr]⟩
  | some r =>
    simp only [Option.map_some', wp_bind, wp_remoteDelete, hH.nextFails hI.fault_eq,
      Bool.false_eq_true, if_false, wp_storeSlot]
    exact ⟨by simp [heldBy, hr, collectionOf, Slot.collection],
      fun s _ => congrFun (heldBy_setSlot_of_none _ hu) s,
      by simp [heldBy, hr, collectionOf, Slot.collection, erase_eq_filter_ne]⟩

theorem deleteFirewallRuleOf_issues {slot : Slot}
    (hslot : slot = .firewallRule ∨ slot = .firewallRuleIpv6) :
    Issues R₀ cfg f (fun _ => True) [slot] (deleteFirewallRuleOf slot slot.baseName false) := by
  refine Issues.of_keeps (fun w _ hI => wp_mono _ _ w (fun _ _ h => h.1) (fun _ h => h)
    (deleteFirewallRuleOf_wp false hslot hI)) fun w _ hI => ?_
  simp only [deleteFirewallRuleOf, wp_bind, wp_getManager, Bool.false_eq_true, if_false]
  cases hr : w.manager.slots slot with
  | none => exact ⟨by simp [heldBy, hr], by simp, by simp [heldBy, hr]⟩
  | some r =>
    simp only [wp_bind, wp__deleteFirewallRule, hH.nextFails hI.fault_eq, Bool.false_eq_true,
      if_false, if_true, wp_storeSlot]
    refine ⟨?_, fun s hs => heldBy_setSlot_ne _ _ (by simpa using hs), ?_⟩ <;>
      rcases hslot with rfl | rfl <;> simp [heldBy, hr, collectionOf, Slot.collection, erase_eq_filter_ne]

/-- `delete_firewall_rules()` deletes the firewall rules the manager holds: without
`_ensure_firewall` it holds none. -/
theorem deleteFirewallRules_issues :
    Issues R₀ cfg f (fun _ => True) [.firewallRule, .firewallRuleIpv6]
      (deleteFirewallRules false) := fun w _ hI => by
  rw [deleteFirewallRules, wp_bind, wp_getManager]
  cases he : w.manager.ensureFirewall
  · have hnone : ∀ s, s = .firewallRule ∨ s = .firewallRuleIpv6 → w.manager.heldBy s = none :=
      fun s hs => by
        cases hr : w.manager.slots s with
        | none => simp [heldBy, hr]
        | some r =>
          have := hI.firewall_ensured hH r (by rcases hs with rfl | rfl <;> simp [hr])
          simp [he] at this
    exact ⟨hI, by simp [hnone], by simp, by simp [hnone]⟩
  · -- both deletes succeed, so both slots are `Absent` when the flag is reset
    have hfw := fun {slot : Slot} (hslot : slot = .firewallRule ∨ slot = .firewallRuleIpv6)
        (w : World) (hI : Inv true R₀ cfg f w) =>
      wp_mono _ _ w (fun _ _ h => h.2) (fun _ _ => trivial) (deleteFirewallRuleOf_wp false hslot hI)
    have hoff : Issues R₀ cfg f (fun w => w.manager.slots .firewallRule = none ∧
        w.manager.slots .firewallRuleIpv6 = none) [] (modifyManager fun m =>
          { m with ensureFirewall := false }) := fun w h hI => by
      rw [wp_modifyManager]
      exact ⟨hI.setEnsureFalse fun _ => h, by simp, fun _ _ => rfl, by simp⟩
    exact ((deleteFirewallRuleOf_issues hH (.inl rfl)).bind_keep
      (fun w _ hI => wp_mono _ _ w (fun _ _ h => h.1 hH) (fun _ _ => trivial) (hfw (.inl rfl) w hI))
      (by decide) fun _ => (deleteFirewallRuleOf_issues hH (.inr rfl)).any.bind_keep
      (fun w h hI => wp_mono _ _ w (fun _ _ h' => ⟨(h'.2 _ (by decide)).trans h, h'.1 hH⟩)
        (fun _ _ => trivial) (hfw (.inr rfl) w hI)) (by decide) fun _ => hoff) w trivial hI

/-- The IPv6 deletes: without dual stack the manager holds no IPv6 resource. -/
theorem deleteIpv6_issues :
    Issues R₀ cfg f (fun _ => True) [.forwardingRuleIpv6, .targetProxyIpv6] (do
      if (← TrafficDirector.getManager).enableDualstack then
        deleteForwardingRuleIpv6 false
        deleteTargetProxyIpv6 false) := fun w _ hI => by
  rw [wp_bind, wp_getManager, wp_ite]
  split
  · exact ((deleteResource_issues hH (fun _ => rfl) (by decide)).bind (by decide) fun _ =>
      deleteResource_issues hH (fun _ => rfl) (by decide)) w trivial hI
  · rename_i hd
    obtain ⟨h1, h2⟩ := hI.ipv6_gated rfl (by simpa using hd)
    exact ⟨hI, by simp [heldBy, h1, h2], by simp, by simp [heldBy, h1, h2]⟩


/-! ## Each class's cleanup -/

theorem cleanup_issues :
    Issues R₀ cfg f (fun _ => True) (cleanupOrder .base) (TrafficDirectorManager.cleanup false) :=
  .congr (.bind (deleteFirewallRules_issues hH) (by decide) fun _ =>
    .bind (deleteResource_issues hH (fun _ => rfl) (by decide)) (by decide) fun _ =>
    .bind (deleteResource_issues hH (fun _ => rfl) (by decide)) (by decide) fun _ =>
    Issues.proxies hH (by decide) fun _ =>
    .bind (deleteIpv6_issues hH) (by decide) fun _ =>
    .bind (deleteResource_issues hH (fun _ => rfl) (by decide)) (by decide) fun _ =>
    .bind_keep (deleteResource_issues hH (fun _ => rfl) (by decide))
      ((deleteResource_clears hH (fun _ => rfl) (by decide)).absent_after
        (List.mem_singleton_self _)) (by decide) fun _ =>
    .bind (deleteAlternativeUrlMap_issues hH) (by decide) fun _ =>
    .bind (deleteResource_issues hH (fun _ => rfl) (by decide)) (by decide) fun _ =>
    .bind (deleteResource_issues hH (fun _ => rfl) (by decide)) (by decide) fun _ =>
    .bind (deleteResource_issues hH (fun _ => rfl) (by decide)) (by decide) fun _ =>
    deleteResource_issues hH (fun _ => rfl) (by decide)) (by decide)

theorem cleanupOf_issues (kind : ManagerClass) :
    Issues R₀ cfg f (fun _ => True) (cleanupOrder kind) (cleanupOf kind false) := by
  cases kind
  · exact cleanup_issues hH
  · exact .congr (.bind (deleteResource_issues hH (fun _ => rfl) (by decide)) (by decide) fun _ =>
      .bind (deleteResource_issues hH (fun _ => rfl) (by decide)) (by decide) fun _ =>
      .bind (deleteResource_issues hH (fun _ => rfl) (by decide)) (by decide) fun _ =>
      cleanup_issues hH) (by decide)
  · exact .congr (.bind (cleanup_issues hH) (by decide) fun _ =>
      .bind (deleteResource_issues hH (fun _ => rfl) (by decide)) (by decide) fun _ =>
      .bind (deleteResource_issues hH (fun _ => rfl) (by decide)) (by decide) fun _ =>
      .bind (deleteResource_issues hH (fun _ => rfl) (by decide)) (by decide) fun _ =>
      deleteResource_issues hH (fun _ => rfl) (by decide)) (by decide)

/-- The public `cleanup()` keeps the invariant, issues the deletes `cleanupDeletions` and
nothing else, and removes exactly those resources from the remote. -/
theorem Op.cleanup_removes {w : World} (hI : Inv true R₀ cfg f w) :
    wp (Op.cleanup false).run (fun _ w' => Inv true R₀ cfg f w' ∧
      w'.calls = w.calls ++ (cleanupDeletions w.manager).map (fun p => .delete p.1 p.2) ∧
      w'.remote = w.remote.filter (· ∉ cleanupDeletions w.manager)) (fun _ => False) w := by
  show wp (do cleanupOf (← TrafficDirector.getManager).kind false) _ _ w
  rw [wp_bind, wp_getManager]
  exact wp_mono _ _ w (fun _ _ h => ⟨h.1, h.2.1, h.2.2.2⟩) (fun _ h => h)
    (cleanupOf_issues hH w.manager.kind w trivial hI)

/-- The public `cleanup()` issues the deletes `cleanupDeletions`, and nothing else. -/
theorem Op.cleanup_issues {w : World} (hI : Inv true R₀ cfg f w) :
    wp (Op.cleanup false).run (fun _ w' =>
      w'.calls = w.calls ++ (cleanupDeletions w.manager).map fun p => .delete p.1 p.2)
      (fun _ => False) w :=
  wp_mono _ _ w (fun _ _ h => h.2.1) (fun _ h => h) (Op.cleanup_removes hH hI)

end Issues

/-! ## Referring resources go first -/

/-- **`cleanup()` deletes every resource after the ones that refer to it.** On every allowed run
from a world whose slots are all `Absent`, where no call fails, `cleanup()` returns, having issued
one delete per resource the manager holds and no other call, in the order of `cleanupOrder`;
and when the resource of slot `t` refers to that of slot `s`, the delete of `t`'s comes
first. -/
theorem cleanup_deletes_referrers_first {w₀ w : World} (h₀ : ∀ slot, w₀.manager.slots slot = none)
    (h : Reachable Allowed w₀ w) (hH : Succeeds w₀.fault) :
    ∃ w', (Op.cleanup false).run w = .ok () w' ∧
      w'.calls = w.calls ++ (cleanupDeletions w.manager).map (fun p => .delete p.1 p.2) ∧
      ∀ t s p q, s ∈ t.refersTo → w.manager.heldBy t = some p → w.manager.heldBy s = some q →
        List.Sublist [Call.delete p.1 p.2, Call.delete q.1 q.2] (w'.calls.drop w.calls.length) := by
  have hI := Reachable.inv h₀ h
  obtain ⟨w', hw, hcalls⟩ := ok_unit_of_wp (Op.cleanup_issues hH hI)
  refine ⟨w', hw, hcalls, fun t s p q hts hp hq => ?_⟩
  -- both slots are of the manager's class, so the order has `t` before `s`
  have hcls : ∀ {u x}, w.manager.heldBy u = some x →
      u.declaredBy = .base ∨ u.declaredBy = w.manager.kind := fun hx => by
    obtain ⟨r, hr, -⟩ := heldBy_eq_some.1 hx
    exact hI.class_slots _ r hr
  have hsub := (((refersTo_sublist_cleanupOrder _ t (hcls hp) s hts (hcls hq)).filterMap
    w.manager.heldBy).map fun p => Call.delete p.1 p.2)
  rw [hcalls, List.drop_left]
  simpa [hp, hq] using hsub

/-- After a GRPC setup from construction, with no failing call, `cleanup()` deletes the setup's
resources referring ones first. -/
theorem cleanup_deletes_referrers_first_after_setup :
    let w₀ := World.init (TrafficDirectorManager.init .base "project" "psm" (some "a1")) ∅
      fun _ => false
    let w := finalWorld (Op.setupForGrpc "svc" 8080 (some .GRPC) none).run w₀
    Reachable Allowed w₀ w ∧ ∃ w', (Op.cleanup false).run w = .ok () w' ∧
      w'.calls = w.calls ++ (cleanupDeletions w.manager).map (fun p => .delete p.1 p.2) ∧
      ∀ t s p q, s ∈ t.refersTo → w.manager.heldBy t = some p → w.manager.heldBy s = some q →
        List.Sublist [Call.delete p.1 p.2, Call.delete q.1 q.2] (w'.calls.drop w.calls.length) :=
  have h := Reachable.step (Op.setupForGrpc "svc" 8080 (some .GRPC) none) .init
    ⟨fun _ _ => rfl, by rintro (h | ⟨_, h⟩) <;> cases h⟩
  ⟨h, cleanup_deletes_referrers_first (fun _ => rfl) h fun _ => rfl⟩

/-! ## Undoing `setup_for_grpc` -/

/-- Keeping the slots of `T`, each sent to `g`. -/
theorem filterMap_ite_mem {β : Type} (g : Slot → β) (T l : List Slot) :
    l.filterMap (fun s => if s ∈ T then some (g s) else none) = (l.filter (· ∈ T)).map g := by
  induction l with
  | nil => rfl
  | cons s l ih => by_cases hs : s ∈ T <;> simp [hs, ih]

/-- Of the slots `setup_for_grpc` fills, every class's `cleanup()` deletes all, and in their
reverse order exactly without dual stack: it takes the IPv4 forwarding rule and proxy before the
IPv6 ones, which setup fills after them. -/
theorem cleanupOrder_filter_setupForGrpcSlots (kind : ManagerClass) (d : Bool) :
    List.Perm ((cleanupOrder kind).filter (· ∈ setupForGrpcSlots d)) (setupForGrpcSlots d) ∧
      ((cleanupOrder kind).filter (· ∈ setupForGrpcSlots d) = (setupForGrpcSlots d).reverse ↔
        d = false) ∧
      (d = true →
        List.Sublist [.targetProxy, .forwardingRule, .targetProxyIpv6, .forwardingRuleIpv6]
          (setupForGrpcSlots d) ∧
        List.Sublist [.forwardingRule, .targetProxy, .forwardingRuleIpv6, .targetProxyIpv6]
          ((cleanupOrder kind).filter (· ∈ setupForGrpcSlots d))) := by
  cases kind <;> cases d <;> decide

/-- **`cleanup()` undoes `setup_for_grpc` in reverse exactly without dual stack.** On every
allowed run from construction where no call fails, from a world where every slot is `Absent`,
`setup_for_grpc` with a set backend protocol and then `cleanup()` both return. Every call setup
issues is a create and every call cleanup issues a delete; cleanup deletes exactly the resources
setup created, and in the reverse order of their creation exactly when `enable_dualstack` is off.
Under dual stack the IPv4 forwarding rule and target proxy are deleted before the IPv6 ones,
which were created after them. -/
theorem cleanup_reverses_setupForGrpc_iff_single_stack {w₀ w : World}
    (h₀ : ∀ slot, w₀.manager.slots slot = none) (h : Reachable Allowed w₀ w)
    (hH : Succeeds w₀.fault) (hempty : ∀ s, w.manager.slots s = none) (serviceHost : String)
    (servicePort : Int) (protocol : Option BackendServiceProtocol)
    (hp : protocol.getD .GRPC ≠ .UNSET) (healthCheckPort : Option Int) :
    ∃ (w₁ w₂ : World) (created deleted : List (Collection × String)),
      (Op.setupForGrpc serviceHost servicePort protocol healthCheckPort).run w = .ok () w₁ ∧
      (Op.cleanup false).run w₁ = .ok () w₂ ∧
      (w₁.calls.drop w.calls.length).map Call.created = created.map some ∧
      w₂.calls = w₁.calls ++ deleted.map (fun p => .delete p.1 p.2) ∧
      List.Perm deleted created ∧
      (deleted = created.reverse ↔ w.manager.enableDualstack = false) ∧
      (w.manager.enableDualstack = true →
        let g := fun s => (w₁.manager.collectionOf s, w₁.manager.canonicalName s)
        List.Sublist [g .targetProxy, g .forwardingRule, g .targetProxyIpv6, g .forwardingRuleIpv6]
          created ∧
        List.Sublist [g .forwardingRule, g .targetProxy, g .forwardingRuleIpv6, g .targetProxyIpv6]
          deleted) := by
  have hI := Reachable.inv h₀ h
  have hallowed : Allowed w (.setupForGrpc serviceHost servicePort protocol healthCheckPort) :=
    ⟨fun s _ => hempty s, by rintro (h | ⟨_, h⟩) <;> cases h⟩
  obtain ⟨⟨⟩, w₁, hx₁, hF, hI₁⟩ := ok_of_wp (wp_mono _ _ w (fun _ _ h => h) (fun _ h => h.1)
    (wp_and (setupForGrpc_fills serviceHost servicePort protocol hp healthCheckPort _ w
      (hI.fault_eq ▸ hH) ⟨hempty _, rfl⟩) (Op.run_keeps_allowed _ w hallowed hI)))
  obtain ⟨w₂, hx₂, hcalls⟩ := ok_unit_of_wp (Op.cleanup_issues hH hI₁)
  obtain ⟨L, hL, hLc⟩ := hF.creates
  let S := setupForGrpcSlots w.manager.enableDualstack
  let g : Slot → Collection × String := fun s =>
    (w₁.manager.collectionOf s, w₁.manager.canonicalName s)
  -- after setup a slot holds its canonical resource exactly when setup filled it
  have hheld : w₁.manager.heldBy = fun s => if s ∈ S then some (g s) else none := by
    funext s
    split
    · obtain ⟨c, hc⟩ := hF.filled s ‹_›
      obtain ⟨r, -, he⟩ := heldBy_eq_some.1 hc
      rw [hc, (Prod.mk.inj he).1]
    · rw [hF.frame s ‹_›]
      simp [heldBy, hempty]
  have hg : Function.Injective g := fun _ _ e =>
    w₁.manager.canonicalName_injective (congrArg Prod.snd e)
  obtain ⟨hperm, hrev, hdual⟩ :=
    cleanupOrder_filter_setupForGrpcSlots w₁.manager.kind w.manager.enableDualstack
  refine ⟨w₁, w₂, S.map g, ((cleanupOrder w₁.manager.kind).filter (· ∈ S)).map g, hx₁, hx₂,
    ?_, ?_, hperm.map g, ?_, fun hd => ⟨(hdual hd).1.map g, (hdual hd).2.map g⟩⟩
  · rw [hL, List.drop_left, hLc, hheld, filterMap_ite_mem,
      List.filter_eq_self.2 fun s hs => decide_eq_true hs]
  · rw [hcalls, cleanupDeletions, hheld, filterMap_ite_mem]
  · rw [← List.map_reverse, (List.map_injective_iff.2 hg).eq_iff, hrev]

/-! ## The alternative URL map's delete -/

/-- A manager holding nothing but an alternative URL map deletes that map only. -/
theorem cleanupDeletions_of_only_alternativeUrlMap {m : TrafficDirectorManager}
    (h : ∀ s, s ≠ .alternativeUrlMap → m.heldBy s = none) :
    cleanupDeletions m = (m.heldBy .alternativeUrlMap).toList := by
  have hone : (cleanupOrder m.kind).filter (· ∈ [Slot.alternativeUrlMap]) = [.alternativeUrlMap] := by
    cases m.kind <;> decide
  cases hp : m.heldBy .alternativeUrlMap with
  | none =>
    refine List.filterMap_eq_nil_iff.2 fun s _ => ?_
    by_cases e : s = .alternativeUrlMap
    · exact e ▸ hp
    · exact h s e
  | some p =>
    have hheld : m.heldBy = fun s => if s ∈ [Slot.alternativeUrlMap] then some p else none := by
      funext s
      by_cases e : s = .alternativeUrlMap
      · simp [e, hp]
      · simp [e, h s e]
    rw [cleanupDeletions, hheld, filterMap_ite_mem (fun _ => p), hone]
    rfl

/-- **`cleanup()` leaves `alternative_url_map` stale, and the next `cleanup()` deletes its URL map
again.** On every allowed run from a world whose slots are all `Absent`, where no call fails,
with `alternative_url_map` holding a URL map: `cleanup()` returns, having removed that map from
the remote and emptied every other slot, while `alternative_url_map` still holds it. A second
`cleanup()` then returns too, having issued a single call, a delete of that map, which is no
longer on the remote, and left the remote as it was. -/
theorem cleanup_repeats_alternative_url_map_delete {w₀ w : World}
    (h₀ : ∀ slot, w₀.manager.slots slot = none) (h : Reachable Allowed w₀ w)
    (hH : Succeeds w₀.fault) {r : GcpResource} (hr : w.manager.slots .alternativeUrlMap = some r) :
    ∃ w₁ w₂, (Op.cleanup false).run w = .ok () w₁ ∧ (Op.cleanup false).run w₁ = .ok () w₂ ∧
      (Collection.urlMaps, r.name) ∉ w₁.remote ∧ w₁.manager.slots .alternativeUrlMap = some r ∧
      (∀ s, s ≠ .alternativeUrlMap → w₁.manager.slots s = none) ∧
      w₂.calls = w₁.calls ++ [.delete .urlMaps r.name] ∧ w₂.remote = w₁.remote := by
  have hI := Reachable.inv h₀ h
  obtain ⟨⟨⟩, w₁, hx₁, ⟨hI₁, -, hrem₁⟩, -, halt, hdel⟩ := ok_of_wp (wp_mono _ _ w
    (fun _ _ h => h) (fun _ h => h.1)
    (wp_and (Op.cleanup_removes hH hI) (Op.cleanup_deletes_all_but_alternativeUrlMap hH hI)))
  have halt₁ : w₁.manager.slots .alternativeUrlMap = some r := halt.trans hr
  have hp : ∀ m : TrafficDirectorManager, m.slots .alternativeUrlMap = some r →
      m.heldBy .alternativeUrlMap = some (.urlMaps, r.name) := fun m hm => by
    simp [heldBy, hm, collectionOf, Slot.collection]
  -- the first cleanup deleted the map: `alternative_url_map` comes in every class's order
  have hgone : (Collection.urlMaps, r.name) ∉ w₁.remote := by
    rw [hrem₁, Finset.mem_filter, not_and, not_not]
    exact fun _ => List.mem_filterMap.2 ⟨.alternativeUrlMap,
      by cases w.manager.kind <;> decide, hp _ hr⟩
  -- so the second deletes that map alone
  have hdels : cleanupDeletions w₁.manager = [(.urlMaps, r.name)] := by
    rw [cleanupDeletions_of_only_alternativeUrlMap fun s hs => (hdel s hs).1, hp _ halt₁]
    rfl
  obtain ⟨w₂, hx₂, -, hcalls₂, hrem₂⟩ := ok_unit_of_wp (Op.cleanup_removes hH hI₁)
  refine ⟨w₁, w₂, hx₁, hx₂, hgone, halt₁, fun s hs => by simpa [heldBy] using (hdel s hs).1,
    by rw [hcalls₂, hdels]; rfl, ?_⟩
  rw [hrem₂, hdels]
  exact Finset.filter_true_of_mem fun q hq e => hgone (List.mem_singleton.1 e ▸ hq)

/-- A health check, an alternative backend service and its URL map, cleaned up twice: the second
cleanup deletes the URL map again. -/
theorem cleanup_repeats_alternative_url_map_delete_after_setup :
    let w₀ := World.init (TrafficDirectorManager.init .base "project" "psm" (some "a1")) ∅
      fun _ => false
    let w := finalWorld (Op.createAlternativeUrlMap "svc" 8080 none).run
      (finalWorld (Op.createAlternativeBackendService (some .GRPC)).run
        (finalWorld (Op.createHealthCheck (some .GRPC) none).run w₀))
    ∃ w₁ w₂, (Op.cleanup false).run w = .ok () w₁ ∧ (Op.cleanup false).run w₁ = .ok () w₂ ∧
      w₂.calls = w₁.calls ++ [.delete .urlMaps "psm-url-map-alt-a1"] := by
  intro w₀ w
  have h : Reachable Allowed w₀ w :=
    .step _ (.step _ (.step _ .init ⟨fun _ _ => rfl, by rintro (h | ⟨_, h⟩) <;> cases h⟩)
      ⟨by unfold NoCreateIntoPresent; decide, by rintro (h | ⟨_, h⟩) <;> cases h⟩)
      ⟨by unfold NoCreateIntoPresent; decide, by rintro (h | ⟨_, h⟩) <;> cases h⟩
  have hr : w.manager.slots .alternativeUrlMap =
      some (Collection.urlMaps.handle "psm-url-map-alt-a1") := by decide
  obtain ⟨w₁, w₂, hx₁, hx₂, -, -, -, hcalls, -⟩ :=
    cleanup_repeats_alternative_url_map_delete (fun _ => rfl) h (fun _ => rfl) hr
  exact ⟨w₁, w₂, hx₁, hx₂, hcalls⟩

/-- No number of unforced cleanups deletes a resource no slot holds, proxies apart. -/
theorem cleanups_keep_unheld {p : Collection × String}
    (hp : p.1 ≠ .targetGrpcProxies ∧ p.1 ≠ .targetHttpProxies) :
    ∀ (n : Nat) {w : World}, Unheld p w → Unheld p (runOps (List.replicate n (.cleanup false)) w)
  | 0, _, h => h
  | n + 1, _, h => cleanups_keep_unheld hp n ((Op.cleanup_unheld hp).finalWorld trivial h)

/-- **`delete_alternative_url_map()` orphans the URL map.** On every allowed run from a world whose
slots are all `Absent`, where no call fails, with `url_map` and `alternative_url_map` holding two
different URL maps: `delete_alternative_url_map()` returns, having deleted the alternative map
and cleared `url_map` and nothing else; a `cleanup()` after it returns too, and the URL map is
still on the remote, held by no slot; and no number of later `cleanup()` calls deletes it. -/
theorem deleteAlternativeUrlMap_orphans_urlMap {w₀ w : World}
    (h₀ : ∀ slot, w₀.manager.slots slot = none) (h : Reachable Allowed w₀ w)
    (hH : Succeeds w₀.fault) {urlMap alternativeUrlMap : GcpResource}
    (hu : w.manager.slots .urlMap = some urlMap)
    (ha : w.manager.slots .alternativeUrlMap = some alternativeUrlMap)
    (hne : alternativeUrlMap.name ≠ urlMap.name) :
    ∃ w₁ w₂, (Op.deleteAlternativeUrlMap false).run w = .ok () w₁ ∧
      w₁.manager.slots = Function.update w.manager.slots .urlMap none ∧
      w₁.remote = w.remote.erase (.urlMaps, alternativeUrlMap.name) ∧
      (Op.cleanup false).run w₁ = .ok () w₂ ∧ (Collection.urlMaps, urlMap.name) ∈ w₂.remote ∧
      (∀ s, w₂.manager.heldBy s ≠ some (.urlMaps, urlMap.name)) ∧
      ∀ n, (Collection.urlMaps, urlMap.name) ∈
        (runOps (List.replicate n (.cleanup false)) w₂).remote := by
  have hI := Reachable.inv h₀ h
  obtain ⟨w₁, hx₁, hslots₁, hrem₁⟩ :=
    deleteAlternativeUrlMap_clears_urlMap w ha (hH.nextFails hI.fault_eq)
  have h₁ : Reachable Allowed w₀ w₁ := by
    have := h.step (.deleteAlternativeUrlMap false)
      ⟨fun _ h => (by cases h), by rintro (h | ⟨_, h⟩) <;> cases h⟩
    rwa [finalWorld, show (Op.deleteAlternativeUrlMap false).run w = _ from hx₁] at this
  -- after the delete no slot holds the URL map: `url_map` is cleared, and the alternative map
  -- has another name
  have hfree : ∀ s, w₁.manager.heldBy s ≠ some (.urlMaps, urlMap.name) := fun s hs => by
    by_cases e₁ : s = .urlMap
    · subst e₁
      simp [heldBy, hslots₁] at hs
    by_cases e₂ : s = .alternativeUrlMap
    · subst e₂
      simp [heldBy, hslots₁, ha, collectionOf, Slot.collection] at hs
      exact hne hs
    · exact RunInvariant.heldBy_fst_ne_urlMaps e₁ e₂ hs rfl
  have hmem : (Collection.urlMaps, urlMap.name) ∈ w₁.remote := by
    rw [hrem₁]
    exact Finset.mem_erase.2 ⟨fun e => hne (congrArg Prod.snd e).symm,
      hI.held_exists .urlMap _ (by decide) (by simp [heldBy, hu, collectionOf, Slot.collection])⟩
  have hp : Collection.urlMaps ≠ .targetGrpcProxies ∧ Collection.urlMaps ≠ .targetHttpProxies :=
    ⟨by decide, by decide⟩
  obtain ⟨w₂, hx₂, -⟩ := ok_unit_of_wp (Op.cleanup_issues hH (Reachable.inv h₀ h₁))
  have hU₂ : Unheld (.urlMaps, urlMap.name) w₂ := by
    have := (Op.cleanup_unheld hp).finalWorld trivial ⟨hmem, hfree⟩
    rwa [finalWorld, hx₂] at this
  exact ⟨w₁, w₂, hx₁, hslots₁, hrem₁, hx₂, hU₂.1, hU₂.2,
    fun n => (cleanups_keep_unheld hp n hU₂).1⟩

/-- After a GRPC setup and the alternative backend service and URL map, deleting the alternative
URL map and cleaning up leaves the setup's URL map on the remote. -/
theorem deleteAlternativeUrlMap_orphans_urlMap_after_setup :
    let w₀ := World.init (TrafficDirectorManager.init .base "project" "psm" (some "a1")) ∅
      fun _ => false
    let w := finalWorld (Op.createAlternativeUrlMap "svc" 8080 none).run
      (finalWorld (Op.createAlternativeBackendService (some .GRPC)).run
        (finalWorld (Op.setupForGrpc "svc" 8080 (some .GRPC) none).run w₀))
    ∃ w₁ w₂, (Op.deleteAlternativeUrlMap false).run w = .ok () w₁ ∧
      (Op.cleanup false).run w₁ = .ok () w₂ ∧ (Collection.urlMaps, "psm-url-map-a1") ∈ w₂.remote := by
  intro w₀ w
  have h : Reachable Allowed w₀ w :=
    .step _ (.step _ (.step _ .init ⟨fun _ _ => rfl, by rintro (h | ⟨_, h⟩) <;> cases h⟩)
      ⟨by unfold NoCreateIntoPresent; decide, by rintro (h | ⟨_, h⟩) <;> cases h⟩)
      ⟨by unfold NoCreateIntoPresent; decide, by rintro (h | ⟨_, h⟩) <;> cases h⟩
  have hu : w.manager.slots .urlMap = some (Collection.urlMaps.handle "psm-url-map-a1") := by
    decide
  have ha : w.manager.slots .alternativeUrlMap =
      some (Collection.urlMaps.handle "psm-url-map-alt-a1") := by decide
  obtain ⟨w₁, w₂, hx₁, -, -, hx₂, hmem, -⟩ :=
    deleteAlternativeUrlMap_orphans_urlMap (fun _ => rfl) h (fun _ => rfl) hu ha (by decide)
  exact ⟨w₁, w₂, hx₁, hx₂, hmem⟩

/-- A dual-stack setup from construction and its cleanup: the two are not mirror images. -/
theorem cleanup_reverses_setupForGrpc_dualstack :
    let w₀ := World.init
      (TrafficDirectorManager.init .base "project" "psm" (some "a1") "default" true) ∅
      fun _ => false
    ∃ (w₁ w₂ : World) (created deleted : List (Collection × String)),
      (Op.setupForGrpc "svc" 8080 (some .GRPC) none).run w₀ = .ok () w₁ ∧
      (Op.cleanup false).run w₁ = .ok () w₂ ∧
      (w₁.calls.drop w₀.calls.length).map Call.created = created.map some ∧
      w₂.calls = w₁.calls ++ deleted.map (fun p => .delete p.1 p.2) ∧
      List.Perm deleted created ∧
      (deleted = created.reverse ↔ w₀.manager.enableDualstack = false) ∧
      (w₀.manager.enableDualstack = true →
        let g := fun s => (w₁.manager.collectionOf s, w₁.manager.canonicalName s)
        List.Sublist [g .targetProxy, g .forwardingRule, g .targetProxyIpv6, g .forwardingRuleIpv6]
          created ∧
        List.Sublist [g .forwardingRule, g .targetProxy, g .forwardingRuleIpv6, g .targetProxyIpv6]
          deleted) :=
  cleanup_reverses_setupForGrpc_iff_single_stack (fun _ => rfl) .init (fun _ => rfl)
    (fun _ => rfl) "svc" 8080 (some .GRPC) (by decide) none

end TrafficDirector
