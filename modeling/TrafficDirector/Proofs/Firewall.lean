import TrafficDirector.Proofs.Registry

/-!
# TrafficDirector — firewall rules and `_ensure_firewall`

`cleanup` deletes the firewall rules only when `_ensure_firewall` is set. A failed deletion is
caught by `_delete_firewall_rule` and keeps its slot, so that a later cleanup can retry it; but
`delete_firewall_rules` resets `_ensure_firewall` whatever the deletions did:

* **`deleteFirewallRules_resets_ensureFirewall`** — from every world, `delete_firewall_rules`
  returns normally with `_ensure_firewall` reset, and keeps a firewall slot when its deletion
  call failed;
* **`firewall_slot_ensured_without_failures`** — on a run where no call fails, a `Present`
  firewall slot implies `_ensure_firewall` (the invariant's `firewall_ensured`);
* **`failed_firewall_delete_is_never_retried`** — with the deletion call failing, the rule
  stays `Present` with `_ensure_firewall` reset, and the next cleanup issues no call.
-/

namespace TrafficDirector

open TrafficDirectorManager

/-- `delete_firewall_rule(_ipv6)` never raises, the gateway error of its deletion being caught;
it changes no other slot nor the flag, and a slot whose deletion call failed keeps its value. -/
theorem deleteFirewallRuleOf_returns (w : World) (slot : Slot) (baseName : String) (force : Bool) :
    wp (deleteFirewallRuleOf slot baseName force)
      (fun _ w' => w'.manager.ensureFirewall = w.manager.ensureFirewall ∧
        (∀ s, s ≠ slot → w'.manager.slots s = w.manager.slots s) ∧
        (w.nextFails = true → w'.manager.slots slot = w.manager.slots slot))
      (fun _ => False) w := by
  simp only [deleteFirewallRuleOf, wp_bind, wp_getManager]
  split
  · exact ⟨rfl, fun _ _ => rfl, fun _ => rfl⟩
  · simp only [wp_bind, wp__deleteFirewallRule, wp_ite, wp_storeSlot, wp_pure]
    split
    · exact ⟨rfl, fun _ _ => rfl, fun _ => rfl⟩
    · exact ⟨rfl, fun s hs => by simp [Function.update_noteq hs], fun h => absurd h ‹_›⟩

/-- **`delete_firewall_rules` always resets `_ensure_firewall`.** From every world it returns
normally with the flag reset; when the first deletion call fails, `firewall_rule` keeps what it
held. -/
theorem deleteFirewallRules_resets_ensureFirewall (w : World) (force : Bool) :
    ∃ w', deleteFirewallRules force w = .ok () w' ∧ w'.manager.ensureFirewall = false ∧
      (w.manager.ensureFirewall = true → w.nextFails = true →
        w'.manager.slots .firewallRule = w.manager.slots .firewallRule) := by
  refine ok_unit_of_wp ?_
  simp only [deleteFirewallRules, wp_bind, wp_getManager, wp_ite, wp_pure]
  split
  · rename_i he
    exact ⟨by simpa using he, fun h => by simp [h] at he⟩
  · refine wp_mono _ _ w (fun _ w₁ h₁ => ?_) (fun _ h => h)
      (deleteFirewallRuleOf_returns w .firewallRule firewallRuleName force)
    rw [wp_bind]
    refine wp_mono _ _ w₁ (fun _ w₂ h₂ => ?_) (fun _ h => h)
      (deleteFirewallRuleOf_returns w₁ .firewallRuleIpv6 firewallRuleNameIpv6 force)
    exact ⟨rfl, fun _ hf => (h₂.2.1 _ (by decide)).trans (h₁.2.2 hf)⟩

/-- **Without failing calls, a `Present` firewall rule is ensured.** On every allowed run from
construction where no call fails, a `Present` `firewall_rule` or `firewall_rule_ipv6` implies
`_ensure_firewall`, so the next cleanup deletes it. -/
theorem firewall_slot_ensured_without_failures {kind : ManagerClass}
    {project resourcePrefix network : String} {resourceSuffix : Option String}
    {enableDualstack : Bool} {R₀ : Finset (Collection × String)} {fault : Nat → Bool} {w : World}
    (h : Reachable Allowed (World.init (TrafficDirectorManager.init kind project resourcePrefix
      resourceSuffix network enableDualstack) R₀ fault) w)
    (hH : ∀ n, fault n = false) (r : GcpResource)
    (hr : w.manager.slots .firewallRule = some r ∨ w.manager.slots .firewallRuleIpv6 = some r) :
    w.manager.ensureFirewall = true :=
  (Reachable.inv (fun _ => rfl) h).firewall_ensured hH r hr

/-- The firewall rule created from construction is ensured. -/
theorem firewall_slot_ensured_after_create :
    let w₀ := World.init (TrafficDirectorManager.init .base "project" "psm" (some "a1")) ∅
      fun _ => false
    let w := finalWorld (Op.createFirewallRules ["8080"] "35.191.0.0/16" "").run w₀
    Reachable Allowed w₀ w ∧ w.manager.ensureFirewall = true :=
  have h := Reachable.step (Op.createFirewallRules ["8080"] "35.191.0.0/16" "") .init
    ⟨fun _ _ => rfl, by rintro (h | ⟨_, h⟩) <;> cases h⟩
  ⟨h, firewall_slot_ensured_without_failures h (fun _ => rfl) _ (.inl rfl)⟩

/-- A firewall rule whose deletion fails during `cleanup()` stays `Present`, but
`_ensure_firewall` is reset, so the next `cleanup()` issues no call at all. -/
theorem failed_firewall_delete_is_never_retried :
    (let w := runOps [.createFirewallRules ["8080"] "35.191.0.0/16" "", .cleanup false]
      (World.init (TrafficDirectorManager.init .base "project" "psm" (some "a1")) ∅
        fun n => n = 1)
    w.manager.slots .firewallRule = some (Collection.firewalls.handle "psm-allow-health-checks-a1") ∧
      (Collection.firewalls, "psm-allow-health-checks-a1") ∈ w.remote ∧
      w.manager.ensureFirewall = false ∧
      (runOps [.cleanup false] w).calls.length = w.calls.length) := by
  decide

end TrafficDirector
