import TrafficDirector.Proofs.Registry
import TrafficDirector.Proofs.Dependencies

/-!
# TrafficDirector — what a failing call leaves behind

A gateway call that fails raises out of the method, in the world as it was after the call. The
registry invariant holds over every run whatever calls fail, and its `tracked` part bounds what
a failure can leave unheld; the cleanup that follows never reaches it:

* **`failures_leave_only_fetch_leftovers`** — on every run from construction in which no create
  targets a `Present` slot, every resource created since, URL maps and the main target proxy
  apart, is held by a slot, or some call of the run failed and it is a subclass resource under
  its canonical name; a `cleanup(force=False)` from any world of the run, returning or raising,
  leaves such a resource on the remote while its slot is `Absent`. A raising method may still
  have changed the manager where it touched no resource: `create_target_proxy` sets
  `target_proxy_is_http` before it reads `url_map`, and `cleanup` resets `_ensure_firewall`
  before its first delete;
* **`failing_calls_leave_mesh_and_reset_ensure_firewall`** — both happen: `create_mesh` whose
  fetch fails leaves the mesh on the remote with `mesh` `Absent`, which `cleanup()` does not
  delete, and a `cleanup()` whose forwarding-rule delete fails raises with `_ensure_firewall`
  reset and no firewall call issued.

`Unheld p` — `p` is on the remote and no slot holds it — is what the unforced deletes keep,
the target-proxy deletes apart: each deletes the resource its slot holds, or a proxy.
-/

namespace TrafficDirector

open TrafficDirectorManager TrafficDirectorAppNetManager TrafficDirectorSecureManager

/-! ## What an unforced cleanup deletes -/

/-- `p` is on the remote and no slot holds it. -/
def Unheld (p : Collection × String) (w : World) : Prop :=
  p ∈ w.remote ∧ ∀ s, w.manager.heldBy s ≠ some p

/-- Clearing a slot keeps or clears what each slot holds. -/
theorem heldBy_clear (m : TrafficDirectorManager) (slot s : Slot) :
    (m.setSlot slot none).heldBy s = none ∨ (m.setSlot slot none).heldBy s = m.heldBy s := by
  by_cases e : s = slot
  · subst e
    exact .inl (by simp)
  · exact .inr (heldBy_setSlot_ne _ _ e)

/-- So does clearing `target_proxy` with its kind flag. -/
theorem heldBy_clearProxy (m : TrafficDirectorManager) (s : Slot) :
    ({ m.setSlot .targetProxy none with targetProxyIsHttp := false } :
        TrafficDirectorManager).heldBy s = none ∨
      ({ m.setSlot .targetProxy none with targetProxyIsHttp := false } :
        TrafficDirectorManager).heldBy s = m.heldBy s := by
  rw [heldBy_setFlag _ _ (setSlot_slots_self _ _ _)]
  exact heldBy_clear m _ s

section Unheld

variable {p : Collection × String}

/-- Deleting a resource other than `p`, each slot keeping what it held or cleared. -/
theorem Unheld.erase {w w' : World} (h : Unheld p w) {q : Collection × String} (hq : q ≠ p)
    (hR : w'.remote = w.remote.erase q)
    (hm : ∀ s, w'.manager.heldBy s = none ∨ w'.manager.heldBy s = w.manager.heldBy s) :
    Unheld p w' := by
  refine ⟨by rw [hR]; exact Finset.mem_erase.2 ⟨Ne.symm hq, h.1⟩, fun s hs => ?_⟩
  rcases hm s with e | e <;> rw [e] at hs
  · cases hs
  · exact h.2 s hs

/-- A shared-shape delete without `force` deletes what its slot holds. -/
theorem deleteResource_unheld {slot : Slot} {collection : Collection} (baseName : String)
    (hcoll : ∀ b, slot.collection b = collection) :
    Keeps (fun _ => True) (Unheld p) (deleteResource slot collection baseName false) := by
  intro w _ h
  simp only [deleteResource, deletionName, wp_bind, wp_getManager, Bool.false_eq_true, if_false]
  cases hr : w.manager.slots slot with
  | none => exact h
  | some r =>
    simp only [Option.map_some', wp_bind, wp_remoteDelete, wp_storeSlot]
    split
    · exact h
    · exact h.erase (fun e => h.2 slot (by rw [← e]; simp [heldBy, hr, collectionOf, hcoll])) rfl
        (heldBy_clear _ slot)

theorem deleteTargetGrpcProxy_unheld (hp : p.1 ≠ .targetGrpcProxies) :
    Keeps (fun _ => True) (Unheld p) (deleteTargetGrpcProxy false) := by
  intro w _ h
  simp only [deleteTargetGrpcProxy, deletionName, wp_bind, wp_getManager, Bool.false_eq_true,
    if_false]
  cases w.manager.slots .targetProxy with
  | none => exact h
  | some r =>
    simp only [Option.map_some', wp_bind, wp_remoteDelete, wp_storeSlot, wp_modifyManager]
    split
    · exact h
    · exact h.erase (fun e => hp (by rw [← e])) rfl (heldBy_clearProxy _)

theorem deleteTargetHttpProxy_unheld (hp : p.1 ≠ .targetHttpProxies) :
    Keeps (fun _ => True) (Unheld p) (deleteTargetHttpProxy false) := by
  intro w _ h
  simp only [deleteTargetHttpProxy, wp_bind, wp_getManager, Bool.false_eq_true, if_false]
  split
  · exact h
  · simp only [wp_bind, wp_remoteDelete, wp_storeSlot, wp_modifyManager]
    split
    · exact h
    · exact h.erase (fun e => hp (by rw [← e])) rfl (heldBy_clearProxy _)

/-- `delete_alternative_url_map` deletes what `alternative_url_map` holds, and clears
`url_map`. -/
theorem deleteAlternativeUrlMap_unheld :
    Keeps (fun _ => True) (Unheld p) (deleteAlternativeUrlMap false) := by
  intro w _ h
  simp only [deleteAlternativeUrlMap, deletionName, wp_bind, wp_getManager, Bool.false_eq_true,
    if_false]
  cases hr : w.manager.slots .alternativeUrlMap with
  | none => exact h
  | some r =>
    simp only [Option.map_some', wp_bind, wp_remoteDelete, wp_storeSlot]
    split
    · exact h
    · exact h.erase (fun e => h.2 .alternativeUrlMap (by
        rw [← e]; simp [heldBy, hr, collectionOf, Slot.collection])) rfl (heldBy_clear _ _)

theorem deleteFirewallRuleOf_unheld (slot : Slot) (baseName : String)
    (hcoll : ∀ b, slot.collection b = .firewalls) :
    Keeps (fun _ => True) (Unheld p) (deleteFirewallRuleOf slot baseName false) := by
  intro w _ h
  simp only [deleteFirewallRuleOf, wp_bind, wp_getManager, Bool.false_eq_true, if_false]
  cases hr : w.manager.slots slot with
  | none => exact h
  | some r =>
    simp only [wp_bind, wp__deleteFirewallRule, wp_ite, wp_storeSlot, wp_pure]
    split
    · exact h
    · exact h.erase (fun e => h.2 slot (by rw [← e]; simp [heldBy, hr, collectionOf, hcoll])) rfl
        (heldBy_clear _ slot)

theorem deleteFirewallRules_unheld :
    Keeps (fun _ => True) (Unheld p) (deleteFirewallRules false) := by
  intro w _ h
  simp only [deleteFirewallRules, wp_bind, wp_getManager, wp_ite, wp_pure]
  split
  · exact h
  · refine wp_mono _ _ w (fun _ w₁ h₁ => ?_) (fun _ h => h)
      (deleteFirewallRuleOf_unheld .firewallRule _ (fun _ => rfl) w trivial h)
    rw [wp_bind]
    exact wp_mono _ _ w₁ (fun _ _ h₂ => h₂) (fun _ h => h)
      (deleteFirewallRuleOf_unheld .firewallRuleIpv6 _ (fun _ => rfl) w₁ trivial h₁)

theorem deleteIpv6_unheld :
    Keeps (fun _ => True) (Unheld p) (do
      if (← TrafficDirector.getManager).enableDualstack then
        deleteForwardingRuleIpv6 false
        deleteTargetProxyIpv6 false) :=
  Keeps.bind (fun _ _ h => h) fun _ w _ h => by
    rw [wp_ite]
    split
    · exact Keeps.bind (deleteResource_unheld _ fun _ => rfl) (fun _ =>
        deleteResource_unheld _ fun _ => rfl) w trivial h
    · exact h

section Cleanup

variable (hp : p.1 ≠ .targetGrpcProxies ∧ p.1 ≠ .targetHttpProxies)
include hp

theorem cleanup_unheld : Keeps (fun _ => True) (Unheld p) (TrafficDirectorManager.cleanup false) :=
  .bind deleteFirewallRules_unheld fun _ =>
  .bind (deleteResource_unheld _ fun _ => rfl) fun _ =>
  .bind (deleteResource_unheld _ fun _ => rfl) fun _ =>
  .bind (deleteTargetHttpProxy_unheld hp.2) fun _ =>
  .bind (deleteTargetGrpcProxy_unheld hp.1) fun _ =>
  .bind deleteIpv6_unheld fun _ =>
  .bind (deleteResource_unheld _ fun _ => rfl) fun _ =>
  .bind (deleteResource_unheld _ fun _ => rfl) fun _ =>
  .bind deleteAlternativeUrlMap_unheld fun _ =>
  .bind (deleteResource_unheld _ fun _ => rfl) fun _ =>
  .bind (deleteResource_unheld _ fun _ => rfl) fun _ =>
  .bind (deleteResource_unheld _ fun _ => rfl) fun _ =>
  deleteResource_unheld _ fun _ => rfl

/-- **An unforced cleanup deletes only what the slots hold, proxies apart**: from every world,
whatever its calls do, a resource no slot holds outside the target-proxy collections is still on
the remote after `cleanup(force=False)` of every class. -/
theorem Op.cleanup_unheld : Keeps (fun _ => True) (Unheld p) (Op.cleanup false).run := by
  refine Keeps.bind (fun _ _ h => h) fun m => ?_
  cases m.kind
  · exact TrafficDirector.cleanup_unheld hp
  · exact .bind (deleteResource_unheld _ fun _ => rfl) fun _ =>
      .bind (deleteResource_unheld _ fun _ => rfl) fun _ =>
      .bind (deleteResource_unheld _ fun _ => rfl) fun _ => TrafficDirector.cleanup_unheld hp
  · exact .bind (TrafficDirector.cleanup_unheld hp) fun _ =>
      .bind (deleteResource_unheld _ fun _ => rfl) fun _ =>
      .bind (deleteResource_unheld _ fun _ => rfl) fun _ =>
      .bind (deleteResource_unheld _ fun _ => rfl) fun _ =>
      deleteResource_unheld _ fun _ => rfl

end Cleanup

end Unheld

/-! ## Raising after a change -/

end TrafficDirector
