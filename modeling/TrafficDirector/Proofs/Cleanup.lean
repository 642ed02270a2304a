import TrafficDirector.Proofs.Firewall

/-!
# TrafficDirector — what `cleanup` deletes

`delete_alternative_url_map` deletes the alternative URL map and then clears `url_map`, not
`alternative_url_map`. No other method clears `alternative_url_map`, so:

* **`cleanup_never_clears_alternativeUrlMap`** — from every world, whatever calls fail and with
  or without `force`, the `cleanup` of every class leaves `alternative_url_map` as it found it;
* **`cleanup_leaves_stale_alternative_url_map`** — after a cleanup that deleted the alternative
  URL map, its slot still holds it, and the next cleanup issues a deletion for it again;
* **`cleanup_empties_all_but_alternativeUrlMap`** — otherwise cleanup does its job: on a run
  where no call fails it returns, deletes only, and leaves every other slot `Absent` with the
  resource it held gone from the remote.

Each delete method changes only its own slot (`delete_alternative_url_map` changes `url_map`);
the frame lemmas say so, whatever the gateway does. The clearing lemmas say what each delete
removes when its call succeeds, and compose along the cleanup's sequence.
-/

namespace TrafficDirector

open TrafficDirectorManager

variable {α β : Type}

/-- `x` leaves slot `s` as it found it, whether it returns or raises. -/
def Frames (s : Slot) (x : Exec α) : Prop :=
  ∀ v, Keeps (fun _ => True) (fun w => w.manager.slots s = v) x

namespace Frames

variable {s : Slot}

theorem bind {x : Exec β} {f : β → Exec α} (hx : Frames s x) (hf : ∀ b, Frames s (f b)) :
    Frames s (x >>= f) := fun v => Keeps.bind (hx v) fun b => hf b v

theorem getManager : Frames s getManager := fun _ _ _ h => h

end Frames

/-! ## Each delete changes its own slot only -/

section Deletes

variable {s : Slot} (force : Bool)

theorem deleteResource_frames {slot : Slot} (hs : s ≠ slot) (collection : Collection)
    (baseName : String) : Frames s (deleteResource slot collection baseName force) := by
  intro v w _ h
  simp only [deleteResource, wp_bind, wp_getManager]
  split
  · exact h
  · simp only [wp_bind, wp_remoteDelete, wp_storeSlot]
    split <;> simp [Function.update_noteq hs, h]

theorem deleteTargetGrpcProxy_frames (hs : s ≠ .targetProxy) :
    Frames s (deleteTargetGrpcProxy force) := by
  intro v w _ h
  simp only [deleteTargetGrpcProxy, wp_bind, wp_getManager]
  split
  · exact h
  · simp only [wp_bind, wp_remoteDelete, wp_storeSlot, wp_modifyManager]
    split <;> simp [Function.update_noteq hs, h]

theorem deleteTargetHttpProxy_frames (hs : s ≠ .targetProxy) :
    Frames s (deleteTargetHttpProxy force) := by
  intro v w _ h
  simp only [deleteTargetHttpProxy, wp_bind, wp_getManager]
  split
  · exact h
  · simp only [wp_bind, wp_remoteDelete, wp_storeSlot, wp_modifyManager]
    split <;> simp [Function.update_noteq hs, h]

/-- `delete_alternative_url_map` changes `url_map` only. -/
theorem deleteAlternativeUrlMap_frames (hs : s ≠ .urlMap) :
    Frames s (deleteAlternativeUrlMap force) := by
  intro v w _ h
  simp only [deleteAlternativeUrlMap, wp_bind, wp_getManager]
  split
  · exact h
  · simp only [wp_bind, wp_remoteDelete, wp_storeSlot]
    split <;> simp [Function.update_noteq hs, h]

theorem deleteFirewallRuleOf_frames {slot : Slot} (hs : s ≠ slot) (baseName : String) :
    Frames s (deleteFirewallRuleOf slot baseName force) := fun _ w _ h =>
  wp_mono _ _ w (fun _ _ h' => (h'.2.1 s hs).trans h) (fun _ h => h.elim)
    (deleteFirewallRuleOf_returns w slot baseName force)

theorem deleteFirewallRules_frames (hs : s ≠ .firewallRule ∧ s ≠ .firewallRuleIpv6) :
    Frames s (deleteFirewallRules force) := by
  intro v w _ h
  simp only [deleteFirewallRules, wp_bind, wp_getManager, wp_ite, wp_pure]
  split
  · exact h
  · refine wp_mono _ _ w (fun _ w₁ h₁ => ?_) (fun _ h => h)
      (deleteFirewallRuleOf_frames force hs.1 firewallRuleName v w trivial h)
    rw [wp_bind]
    exact wp_mono _ _ w₁ (fun _ _ h₂ => h₂) (fun _ h => h)
      (deleteFirewallRuleOf_frames force hs.2 firewallRuleNameIpv6 v w₁ trivial h₁)

theorem deleteIpv6_frames (hs : s ≠ .forwardingRuleIpv6 ∧ s ≠ .targetProxyIpv6) :
    Frames s (do
      if (← TrafficDirector.getManager).enableDualstack then
        deleteForwardingRuleIpv6 force
        deleteTargetProxyIpv6 force) :=
  Frames.bind Frames.getManager fun _ v w _ h => by
    rw [wp_ite]
    split
    · exact Frames.bind (deleteResource_frames force hs.1 _ _)
        (fun _ => deleteResource_frames force hs.2 _ _) v w trivial h
    · exact h

end Deletes

/-! ## `alternative_url_map` across cleanup -/

/-- `delete_alternative_url_map()` of a `Present` alternative URL map, its call succeeding,
deletes that URL map from the remote and clears `url_map`; `alternative_url_map` keeps holding
the deleted map. -/
theorem deleteAlternativeUrlMap_clears_urlMap (w : World) {r : GcpResource}
    (hr : w.manager.slots .alternativeUrlMap = some r) (hf : w.nextFails = false) :
    ∃ w', deleteAlternativeUrlMap false w = .ok () w' ∧
      w'.manager.slots = Function.update w.manager.slots .urlMap none ∧
      w'.remote = w.remote.erase (.urlMaps, r.name) :=
  ok_unit_of_wp (P := fun w' => w'.manager.slots = _ ∧ w'.remote = _) (by
    simp only [deleteAlternativeUrlMap, deletionName, wp_bind, wp_getManager, hr, Option.map_some',
      Bool.false_eq_true, if_false, wp_remoteDelete, hf, wp_storeSlot, setSlot_slots,
      World.record_manager, and_self])

theorem cleanup_frames (force : Bool) :
    Frames .alternativeUrlMap (TrafficDirectorManager.cleanup force) :=
  .bind (deleteFirewallRules_frames force (by decide)) fun _ =>
  .bind (deleteResource_frames force (by decide) _ _) fun _ =>
  .bind (deleteResource_frames force (by decide) _ _) fun _ =>
  .bind (deleteTargetHttpProxy_frames force (by decide)) fun _ =>
  .bind (deleteTargetGrpcProxy_frames force (by decide)) fun _ =>
  .bind (deleteIpv6_frames force (by decide)) fun _ =>
  .bind (deleteResource_frames force (by decide) _ _) fun _ =>
  .bind (deleteResource_frames force (by decide) _ _) fun _ =>
  .bind (deleteAlternativeUrlMap_frames force (by decide)) fun _ =>
  .bind (deleteResource_frames force (by decide) _ _) fun _ =>
  .bind (deleteResource_frames force (by decide) _ _) fun _ =>
  .bind (deleteResource_frames force (by decide) _ _) fun _ =>
  deleteResource_frames force (by decide) _ _

theorem cleanupOf_frames (cls : ManagerClass) (force : Bool) :
    Frames .alternativeUrlMap (cleanupOf cls force) := by
  cases cls
  · exact cleanup_frames force
  · exact .bind (deleteResource_frames force (by decide) _ _) fun _ =>
      .bind (deleteResource_frames force (by decide) _ _) fun _ =>
      .bind (deleteResource_frames force (by decide) _ _) fun _ => cleanup_frames force
  · exact .bind (cleanup_frames force) fun _ =>
      .bind (deleteResource_frames force (by decide) _ _) fun _ =>
      .bind (deleteResource_frames force (by decide) _ _) fun _ =>
      .bind (deleteResource_frames force (by decide) _ _) fun _ =>
      deleteResource_frames force (by decide) _ _

/-- **No cleanup clears `alternative_url_map`.** From every world, whatever calls fail, the
`cleanup` of the manager's class leaves `alternative_url_map` as it was. -/
theorem cleanup_never_clears_alternativeUrlMap (force : Bool) (w : World) :
    (finalWorld (Op.cleanup force).run w).manager.slots .alternativeUrlMap =
      w.manager.slots .alternativeUrlMap :=
  Keeps.finalWorld ((Frames.bind Frames.getManager fun m => cleanupOf_frames m.kind force)
    (w.manager.slots .alternativeUrlMap)) trivial rfl

/-! ## What cleanup deletes when no call fails

`Clears I P S x`: from a world satisfying `P` and the invariant `I`, `x` returns, keeps `I`, and
deletes the slots `S` — each is `Absent` afterwards and the resource it held is gone from the
remote — while every other slot keeps what it held or is deleted too. Sequencing concatenates
the deleted slots, so each class's cleanup clears the slots of its `cleanupSlots`. -/

/-- Slot `s` is `Absent` in `w'`, and the resource it held in `w` is gone from the remote. -/
def Deleted (s : Slot) (w w' : World) : Prop :=
  w'.manager.heldBy s = none ∧ ∀ p, w.manager.heldBy s = some p → p ∉ w'.remote

/-- Slot `s` kept what it held from `w` to `w'`, or was `Deleted`. -/
def Kept (s : Slot) (w w' : World) : Prop :=
  w'.manager.heldBy s = w.manager.heldBy s ∨ Deleted s w w'

/-- From `w` to `w'` the remote only shrank, losing no resource that no slot held, every slot
was kept or deleted, and the slots `S` were deleted. -/
structure Cleared (S : List Slot) (w w' : World) : Prop where
  shrinks : w'.remote ⊆ w.remote
  spares : ∀ p ∈ w.remote, ¬ w.manager.Held p → p ∈ w'.remote
  kept : ∀ s, Kept s w w'
  deleted : ∀ s ∈ S, Deleted s w w'

section Cleared

variable {s : Slot} {w w₁ w₂ : World}

theorem Deleted.then (d : Deleted s w w₁) (h : Kept s w₁ w₂) (hsub : w₂.remote ⊆ w₁.remote) :
    Deleted s w w₂ :=
  ⟨h.elim (fun e => e.trans d.1) And.left, fun p hp hm => d.2 p hp (hsub hm)⟩

theorem Kept.then_deleted (h : Kept s w w₁) (d : Deleted s w₁ w₂) (hsub : w₂.remote ⊆ w₁.remote) :
    Deleted s w w₂ :=
  h.elim (fun e => ⟨d.1, fun p hp => d.2 p (e ▸ hp)⟩) fun d₁ => d₁.then (.inr d) hsub

theorem Kept.trans (h₁ : Kept s w w₁) (h₂ : Kept s w₁ w₂) (hsub : w₂.remote ⊆ w₁.remote) :
    Kept s w w₂ :=
  h₂.elim (fun e₂ => h₁.elim (fun e₁ => .inl (e₂.trans e₁)) fun d₁ => .inr (d₁.then (.inl e₂) hsub))
    fun d₂ => .inr (h₁.then_deleted d₂ hsub)

/-- A slot that was kept or deleted holds nothing it did not hold before. -/
theorem Kept.held {p : Collection × String} (h : Kept s w w₁) (hp : w₁.manager.heldBy s = some p) :
    w.manager.heldBy s = some p :=
  h.elim (fun e => e ▸ hp) fun d => absurd (d.1 ▸ hp) (by simp)

theorem Cleared.trans {S T : List Slot} (h₁ : Cleared S w w₁) (h₂ : Cleared T w₁ w₂) :
    Cleared (S ++ T) w w₂ where
  shrinks := h₂.shrinks.trans h₁.shrinks
  spares p hp hu := h₂.spares p (h₁.spares p hp hu) fun ⟨s, hs⟩ => hu ⟨s, (h₁.kept s).held hs⟩
  kept s := (h₁.kept s).trans (h₂.kept s) h₂.shrinks
  deleted s hs := (List.mem_append.1 hs).elim
    (fun hs => (h₁.deleted s hs).then (h₂.kept s) h₂.shrinks)
    fun hs => (h₁.kept s).then_deleted (h₂.deleted s hs) h₂.shrinks

theorem Cleared.mono {S T : List Slot} (h : Cleared S w w₁) (hT : ∀ s ∈ T, s ∈ S) :
    Cleared T w w₁ :=
  ⟨h.shrinks, h.spares, h.kept, fun s hs => h.deleted s (hT s hs)⟩

/-- Nothing held changes and the remote only shrinks, by resources some slot holds, the slots
`S` being `Absent` already. -/
theorem Cleared.of_absent {S : List Slot} (hS : ∀ s ∈ S, w.manager.heldBy s = none)
    (hm : w₁.manager.heldBy = w.manager.heldBy) (hR : w₁.remote ⊆ w.remote)
    (hsp : ∀ p ∈ w.remote, ¬ w.manager.Held p → p ∈ w₁.remote) : Cleared S w w₁ where
  shrinks := hR
  spares := hsp
  kept s := .inl (congrFun hm s)
  deleted s hs := ⟨(congrFun hm s).trans (hS s hs), fun p hp => by simp [hS s hs] at hp⟩

/-- Nothing changed. -/
theorem Cleared.refl : Cleared [] w w :=
  .of_absent (fun _ h => absurd h (List.not_mem_nil _)) rfl subset_rfl fun _ h _ => h

/-- The resource of `slot` deleted and the slot cleared. -/
theorem Cleared.clear {slot : Slot} {r : GcpResource} (hr : w.manager.slots slot = some r)
    (hm : w₁.manager.heldBy = (w.manager.setSlot slot none).heldBy)
    (hR : w₁.remote = w.remote.erase (w.manager.collectionOf slot, r.name)) :
    Cleared [slot] w w₁ := by
  have hdel : Deleted slot w w₁ := ⟨by rw [hm]; simp, fun p hp => by
    simp only [heldBy, hr, Option.map_some', Option.some.injEq] at hp
    rw [hR, ← hp]
    exact Finset.not_mem_erase _ _⟩
  refine ⟨hR ▸ Finset.erase_subset _ _, fun p hp hu => ?_, fun s => ?_,
    fun s hs => List.mem_singleton.1 hs ▸ hdel⟩
  · rw [hR]
    exact Finset.mem_erase.2 ⟨fun e => hu ⟨slot, by simp [heldBy, hr, e]⟩, hp⟩
  by_cases e : s = slot
  · exact e ▸ .inr hdel
  · exact .inl (by rw [hm, heldBy_setSlot_ne _ _ e])

end Cleared

/-- From a world satisfying `P` and `I`, `x` returns in a world satisfying `I`, having deleted
the slots `S`. -/
def Clears (I P : World → Prop) (S : List Slot) (x : Exec α) : Prop :=
  ∀ w, P w → I w → wp x (fun _ w' => I w' ∧ Cleared S w w') (fun _ => False) w

namespace Clears

variable {I P Q : World → Prop} {S T : List Slot}

theorem of_keeps {x : Exec α} (hk : Keeps P I x)
    (hc : ∀ w, P w → I w → wp x (fun _ w' => Cleared S w w') (fun _ => False) w) :
    Clears I P S x := fun w hP hI =>
  wp_mono _ _ w (fun _ _ h => h) (fun _ h => h.2) (wp_and (hk w hP hI) (hc w hP hI))

/-- Sequencing, where `x` establishes the precondition `Q` of what follows. -/
theorem bind {x : Exec β} {f : β → Exec α} (hx : Clears I P S x)
    (hQ : ∀ w, P w → I w → wp x (fun _ => Q) (fun _ => True) w) (hf : ∀ b, Clears I Q T (f b)) :
    Clears I P (S ++ T) (x >>= f) := fun w hP hI => by
  rw [wp_bind]
  refine wp_mono _ _ w (fun b w₁ h₁ => ?_) (fun _ h => h.1) (wp_and (hx w hP hI) (hQ w hP hI))
  exact wp_mono _ _ w₁ (fun _ _ h₂ => ⟨h₂.1, h₁.1.2.trans h₂.2⟩) (fun _ h => h)
    (hf b w₁ h₁.2 h₁.1.1)

theorem seq {x : Exec β} {f : β → Exec α} (hx : Clears I P S x)
    (hf : ∀ b, Clears I (fun _ => True) T (f b)) : Clears I P (S ++ T) (x >>= f) :=
  hx.bind (fun w hP hI => wp_mono _ _ w (fun _ _ _ => trivial) (fun _ _ => trivial) (hx w hP hI)) hf

/-- A deleted slot is `Absent` afterwards. -/
theorem absent_after {x : Exec α} (hx : Clears I P S x) {s : Slot} (hs : s ∈ S) (w : World)
    (hP : P w) (hI : I w) : wp x (fun _ w' => w'.manager.slots s = none) (fun _ => True) w :=
  wp_mono _ _ w (fun _ _ h => by simpa [heldBy] using (h.2.deleted s hs).1) (fun _ _ => trivial)
    (hx w hP hI)

theorem mono {x : Exec α} (hx : Clears I P S x) (hT : ∀ s ∈ T, s ∈ S) : Clears I P T x :=
  fun w hP hI => wp_mono _ _ w (fun _ _ h => ⟨h.1, h.2.mono hT⟩) (fun _ h => h) (hx w hP hI)

end Clears

section Deletes

variable {R₀ : Finset (Collection × String)}
  {cfg : ResourceNaming × ManagerClass × String × String × Bool} {f : Nat → Bool}

theorem deleteResource_clears (hH : Succeeds f) {slot : Slot} {collection : Collection}
    (hcoll : ∀ b, slot.collection b = collection) (halt : slot ≠ .alternativeUrlMap) :
    Clears (Inv true R₀ cfg f) (fun _ => True) [slot]
      (deleteResource slot collection slot.baseName false) := by
  refine Clears.of_keeps (deleteResource_keeps false hcoll halt) fun w _ hI => ?_
  simp only [deleteResource, deletionName, wp_bind, wp_getManager, Bool.false_eq_true, if_false]
  cases hr : w.manager.slots slot with
  | none => exact Cleared.of_absent (by simp [heldBy, hr]) rfl subset_rfl fun _ h _ => h
  | some r =>
    simp only [Option.map_some', wp_bind, wp_remoteDelete, hH.nextFails hI.fault_eq,
      Bool.false_eq_true, if_false, wp_storeSlot]
    refine Cleared.clear hr ?_ ?_
    · rfl
    · simp [collectionOf, hcoll]

theorem deleteTargetHttpProxy_clears (hH : Succeeds f) :
    Clears (Inv true R₀ cfg f) (fun _ => True) [] (deleteTargetHttpProxy false) := by
  refine Clears.of_keeps (deleteTargetHttpProxy_keeps false) fun w _ hI => ?_
  simp only [deleteTargetHttpProxy, wp_bind, wp_getManager, Bool.false_eq_true, if_false]
  cases hb : w.manager.targetProxyIsHttp
  · exact Cleared.refl
  · cases hr : w.manager.slots .targetProxy with
    | none => exact Cleared.refl
    | some r =>
      simp only [if_true, Option.map_some', wp_remoteDelete, hH.nextFails hI.fault_eq,
        Bool.false_eq_true, if_false, wp_storeSlot, wp_bind, wp_modifyManager]
      refine (Cleared.clear hr ?_ ?_).mono fun _ h => absurd h (List.not_mem_nil _)
      · exact heldBy_setFlag _ _ (by simp)
      · simp [collectionOf, Slot.collection, hb]

/-- Without `force`, `delete_target_http_proxy` leaves an HTTP `target_proxy` `Absent`. -/
theorem deleteTargetHttpProxy_leaves_grpc (w : World) :
    wp (deleteTargetHttpProxy false) (fun _ w' => w'.manager.targetProxyIsHttp = true →
      w'.manager.slots .targetProxy = none) (fun _ => True) w := by
  simp only [deleteTargetHttpProxy, wp_bind, wp_getManager, Bool.false_eq_true, if_false]
  cases hb : w.manager.targetProxyIsHttp
  · exact fun h => absurd (hb.symm.trans h) (by decide)
  · cases hr : w.manager.slots .targetProxy with
    | none => exact fun _ => hr
    | some r =>
      simp only [if_true, Option.map_some', wp_remoteDelete, wp_storeSlot, wp_bind,
        wp_modifyManager]
      split <;> simp

theorem deleteTargetGrpcProxy_clears (hH : Succeeds f) :
    Clears (Inv true R₀ cfg f) (fun w => w.manager.targetProxyIsHttp = true →
      w.manager.slots .targetProxy = none) [.targetProxy] (deleteTargetGrpcProxy false) := by
  refine Clears.of_keeps (deleteTargetGrpcProxy_keeps false).any
    fun w hP hI => ?_
  simp only [deleteTargetGrpcProxy, deletionName, wp_bind, wp_getManager, Bool.false_eq_true,
    if_false]
  cases hr : w.manager.slots .targetProxy with
  | none => exact Cleared.of_absent (by simp [heldBy, hr]) rfl subset_rfl fun _ h _ => h
  | some r =>
    have hb : w.manager.targetProxyIsHttp = false := by
      cases hb : w.manager.targetProxyIsHttp
      · rfl
      · simp [hP hb] at hr
    simp only [Option.map_some', wp_remoteDelete, hH.nextFails hI.fault_eq, Bool.false_eq_true,
      if_false, wp_storeSlot, wp_bind, wp_modifyManager]
    refine Cleared.clear hr ?_ ?_
    · exact heldBy_setFlag _ _ (by simp)
    · simp [collectionOf, Slot.collection, hb]

/-- After `url_map` is `Absent`, `delete_alternative_url_map` changes no slot's resource. -/
theorem deleteAlternativeUrlMap_clears (hH : Succeeds f) :
    Clears (Inv true R₀ cfg f) (fun w => w.manager.slots .urlMap = none) []
      (deleteAlternativeUrlMap false) := by
  refine Clears.of_keeps (deleteAlternativeUrlMap_keeps false).any
    fun w hP hI => ?_
  simp only [deleteAlternativeUrlMap, deletionName, wp_bind, wp_getManager, Bool.false_eq_true,
    if_false]
  cases hr : w.manager.slots .alternativeUrlMap with
  | none => exact Cleared.refl
  | some r =>
    simp only [Option.map_some', wp_bind, wp_remoteDelete, hH.nextFails hI.fault_eq,
      Bool.false_eq_true, if_false, wp_storeSlot]
    -- the deleted map is the one `alternative_url_map` holds
    refine Cleared.of_absent (fun _ h => absurd h (List.not_mem_nil _))
      (heldBy_setSlot_of_none _ hP) (Finset.erase_subset _ _) fun p hp hu => ?_
    exact Finset.mem_erase.2 ⟨fun e => hu ⟨.alternativeUrlMap, by simp [heldBy, hr, e]; rfl⟩, hp⟩

/-- `delete_firewall_rule(_ipv6)` whose call succeeds clears its slot. -/
theorem deleteFirewallRuleOf_cleared {w : World} (hf : w.nextFails = false) {slot : Slot}
    (hslot : slot = .firewallRule ∨ slot = .firewallRuleIpv6) :
    wp (deleteFirewallRuleOf slot slot.baseName false)
      (fun _ w' => Cleared [slot] w w' ∧ w'.fault = w.fault) (fun _ => False) w := by
  simp only [deleteFirewallRuleOf, wp_bind, wp_getManager, Bool.false_eq_true, if_false]
  cases hr : w.manager.slots slot with
  | none => exact ⟨Cleared.of_absent (by simp [heldBy, hr]) rfl subset_rfl fun _ h _ => h, rfl⟩
  | some r =>
    simp only [wp_bind, wp__deleteFirewallRule, hf, Bool.false_eq_true, if_false, if_true,
      wp_storeSlot]
    refine ⟨Cleared.clear hr ?_ ?_, rfl⟩
    · rfl
    · rcases hslot with rfl | rfl <;> rfl

theorem deleteFirewallRules_clears (hH : Succeeds f) :
    Clears (Inv true R₀ cfg f) (fun _ => True) [.firewallRule, .firewallRuleIpv6]
      (deleteFirewallRules false) := by
  refine Clears.of_keeps (deleteFirewallRules_keeps false) fun w _ hI => ?_
  simp only [deleteFirewallRules, wp_bind, wp_getManager, wp_ite, wp_pure]
  split
  · rename_i he
    have hoff : w.manager.ensureFirewall = false := by simpa using he
    refine Cleared.of_absent (fun s hs => ?_) rfl subset_rfl fun _ h _ => h
    cases hr : w.manager.slots s with
    | none => simp [heldBy, hr]
    | some r =>
      have := hI.firewall_ensured hH r (by simp at hs; rcases hs with rfl | rfl <;> simp [hr])
      simp [hoff] at this
  · have hf₀ := hH.nextFails hI.fault_eq
    refine wp_mono _ _ w (fun _ w₁ h₁ => ?_) (fun _ h => h)
      (deleteFirewallRuleOf_cleared hf₀ (.inl rfl))
    rw [wp_bind]
    refine wp_mono _ _ w₁ (fun _ w₂ h₂ => ?_) (fun _ h => h)
      (deleteFirewallRuleOf_cleared (hH.nextFails (h₁.2.trans hI.fault_eq)) (.inr rfl))
    exact (h₁.1.trans h₂.1).trans (Cleared.of_absent (S := []) (fun _ h => absurd h
      (List.not_mem_nil _)) rfl subset_rfl fun _ h _ => h)

theorem deleteIpv6_clears (hH : Succeeds f) :
    Clears (Inv true R₀ cfg f) (fun _ => True) [.forwardingRuleIpv6, .targetProxyIpv6] (do
      if (← TrafficDirector.getManager).enableDualstack then
        deleteForwardingRuleIpv6 false
        deleteTargetProxyIpv6 false) := fun w _ hI => by
  rw [wp_bind, wp_getManager, wp_ite]
  split
  · exact Clears.seq (deleteResource_clears hH (fun _ => rfl) (by decide))
      (fun _ => deleteResource_clears hH (fun _ => rfl) (by decide)) w trivial hI
  · rename_i hd
    obtain ⟨h1, h2⟩ := hI.ipv6_gated rfl (by simpa using hd)
    exact ⟨hI, Cleared.of_absent (by simp [heldBy, h1, h2]) rfl subset_rfl fun _ h _ => h⟩

end Deletes

/-- The slots each class's `cleanup` deletes, in its order: every slot of the class but
`alternative_url_map`. -/
def cleanupSlots (kind : ManagerClass) : List Slot :=
  let base := [.firewallRule, .firewallRuleIpv6, .forwardingRule, .alternativeForwardingRule,
    .targetProxy, .forwardingRuleIpv6, .targetProxyIpv6, .alternativeTargetProxy, .urlMap,
    .backendService, .alternativeBackendService, .affinityBackendService, .healthCheck]
  match kind with
  | .base => base
  | .appNet => [.httpRoute, .grpcRoute, .mesh] ++ base
  | .secure => base ++ [.endpointPolicy, .serverTlsPolicy, .clientTlsPolicy, .authzPolicy]

theorem mem_cleanupSlots : ∀ (kind : ManagerClass) (s : Slot), s ≠ .alternativeUrlMap →
    s.declaredBy = .base ∨ s.declaredBy = kind → s ∈ cleanupSlots kind := by
  intro kind s
  cases kind <;> cases s <;> decide

section Cleanups

variable {R₀ : Finset (Collection × String)}
  {cfg : ResourceNaming × ManagerClass × String × String × Bool} {f : Nat → Bool}

theorem cleanup_clears (hH : Succeeds f) :
    Clears (Inv true R₀ cfg f) (fun _ => True) (cleanupSlots .base)
      (TrafficDirectorManager.cleanup false) := by
  apply Clears.mono
  · exact .seq (deleteFirewallRules_clears hH) fun _ =>
      .seq (deleteResource_clears hH (fun _ => rfl) (by decide)) fun _ =>
      .seq (deleteResource_clears hH (fun _ => rfl) (by decide)) fun _ =>
      .bind (deleteTargetHttpProxy_clears hH) (fun w _ _ => deleteTargetHttpProxy_leaves_grpc w)
        fun _ =>
      .seq (deleteTargetGrpcProxy_clears hH) fun _ =>
      .seq (deleteIpv6_clears hH) fun _ =>
      .seq (deleteResource_clears hH (fun _ => rfl) (by decide)) fun _ =>
      .bind (deleteResource_clears hH (fun _ => rfl) (by decide))
        ((deleteResource_clears hH (fun _ => rfl) (by decide)).absent_after
          (List.mem_singleton_self _)) fun _ =>
      .seq (deleteAlternativeUrlMap_clears hH) fun _ =>
      .seq (deleteResource_clears hH (fun _ => rfl) (by decide)) fun _ =>
      .seq (deleteResource_clears hH (fun _ => rfl) (by decide)) fun _ =>
      .seq (deleteResource_clears hH (fun _ => rfl) (by decide)) fun _ =>
      deleteResource_clears hH (fun _ => rfl) (by decide)
  · decide

theorem cleanupOf_clears (hH : Succeeds f) (kind : ManagerClass) :
    Clears (Inv true R₀ cfg f) (fun _ => True) (cleanupSlots kind) (cleanupOf kind false) := by
  cases kind
  · exact cleanup_clears hH
  · apply Clears.mono
    · exact .seq (deleteResource_clears hH (fun _ => rfl) (by decide)) fun _ =>
        .seq (deleteResource_clears hH (fun _ => rfl) (by decide)) fun _ =>
        .seq (deleteResource_clears hH (fun _ => rfl) (by decide)) fun _ => cleanup_clears hH
    · decide
  · apply Clears.mono
    · exact .seq (cleanup_clears hH) fun _ =>
        .seq (deleteResource_clears hH (fun _ => rfl) (by decide)) fun _ =>
        .seq (deleteResource_clears hH (fun _ => rfl) (by decide)) fun _ =>
        .seq (deleteResource_clears hH (fun _ => rfl) (by decide)) fun _ =>
        deleteResource_clears hH (fun _ => rfl) (by decide)
    · decide

/-- The public `cleanup()` of a world satisfying the invariant clears its class's slots. -/
theorem Op.cleanup_clears (hH : Succeeds f) {w : World} (hI : Inv true R₀ cfg f w) :
    wp (Op.cleanup false).run (fun _ w' => Cleared (cleanupSlots w.manager.kind) w w')
      (fun _ => False) w := by
  show wp (do cleanupOf (← TrafficDirector.getManager).kind false) _ _ w
  rw [wp_bind, wp_getManager]
  exact wp_mono _ _ w (fun _ _ h => h.2) (fun _ h => h)
    (cleanupOf_clears hH w.manager.kind w trivial hI)

/-- `cleanup()` deletes every slot's resource but `alternative_url_map`'s, which it leaves as it
was: a slot outside the class's cleanup holds nothing. -/
theorem Op.cleanup_deletes_all_but_alternativeUrlMap (hH : Succeeds f) {w : World}
    (hI : Inv true R₀ cfg f w) :
    wp (Op.cleanup false).run (fun _ w' => w'.remote ⊆ w.remote ∧
      w'.manager.slots .alternativeUrlMap = w.manager.slots .alternativeUrlMap ∧
      ∀ s, s ≠ .alternativeUrlMap → Deleted s w w') (fun _ => False) w := by
  have hframe : wp (Op.cleanup false).run
      (fun _ w' => w'.manager.slots .alternativeUrlMap = w.manager.slots .alternativeUrlMap)
      (fun w' => w'.manager.slots .alternativeUrlMap = w.manager.slots .alternativeUrlMap) w :=
    (Frames.bind Frames.getManager fun m => cleanupOf_frames m.kind false) _ w trivial rfl
  refine wp_mono _ _ w (fun _ w' ⟨hcl, halt⟩ => ⟨hcl.shrinks, halt, fun s hs => ?_⟩) (fun _ h => h.1)
    (wp_and (Op.cleanup_clears hH hI) hframe)
  by_cases hm : s ∈ cleanupSlots w.manager.kind
  · exact hcl.deleted s hm
  · have hnone : w.manager.heldBy s = none := by
      cases hr : w.manager.slots s with
      | none => simp [heldBy, hr]
      | some r => exact absurd (mem_cleanupSlots _ s hs (hI.class_slots s r hr)) hm
    exact (hcl.kept s).elim (fun e => ⟨e.trans hnone, fun p hp => by simp [hnone] at hp⟩) id

end Cleanups

/-- **Without failing calls, `cleanup()` empties every slot but `alternative_url_map`.** On every
allowed run from construction where no call fails, `cleanup(force=False)` returns normally; it
only deletes remote resources; it leaves `alternative_url_map` as it was; and every other slot
is `Absent` afterwards, the resource it held being gone from the remote. -/
theorem cleanup_empties_all_but_alternativeUrlMap {kind : ManagerClass}
    {project resourcePrefix network : String} {resourceSuffix : Option String}
    {enableDualstack : Bool} {R₀ : Finset (Collection × String)} {fault : Nat → Bool} {w : World}
    (h : Reachable Allowed (World.init (TrafficDirectorManager.init kind project resourcePrefix
      resourceSuffix network enableDualstack) R₀ fault) w)
    (hH : ∀ n, fault n = false) :
    ∃ w', (Op.cleanup false).run w = .ok () w' ∧ w'.remote ⊆ w.remote ∧
      w'.manager.slots .alternativeUrlMap = w.manager.slots .alternativeUrlMap ∧
      ∀ s, s ≠ .alternativeUrlMap → w'.manager.slots s = none ∧
        ∀ r, w.manager.slots s = some r → (w.manager.collectionOf s, r.name) ∉ w'.remote := by
  obtain ⟨w', hw', hsub, halt, hdel⟩ :=
    ok_unit_of_wp (Op.cleanup_deletes_all_but_alternativeUrlMap hH (Reachable.inv (fun _ => rfl) h))
  refine ⟨w', hw', hsub, halt, fun s hs => ?_⟩
  exact ⟨by simpa [heldBy] using (hdel s hs).1, fun r hr => (hdel s hs).2 _ (by simp [heldBy, hr])⟩

/-- After a GRPC setup from construction, with no failing call, `cleanup()` returns and deletes
only. -/
theorem cleanup_empties_all_but_alternativeUrlMap_after_setup :
    let w₀ := World.init (TrafficDirectorManager.init .base "project" "psm" (some "a1")) ∅
      fun _ => false
    let w := finalWorld (Op.setupForGrpc "svc" 8080 (some .GRPC) none).run w₀
    Reachable Allowed w₀ w ∧ ∃ w', (Op.cleanup false).run w = .ok () w' ∧ w'.remote ⊆ w.remote :=
  have h := Reachable.step (Op.setupForGrpc "svc" 8080 (some .GRPC) none) .init
    ⟨fun _ _ => rfl, by rintro (h | ⟨_, h⟩) <;> cases h⟩
  ⟨h, (cleanup_empties_all_but_alternativeUrlMap h fun _ => rfl).imp fun _ h => ⟨h.1, h.2.1⟩⟩

/-- After a health check, an alternative backend service and its URL map, `cleanup()` deletes the
URL map but `alternative_url_map` still holds it, and the next `cleanup()` deletes it again. -/
theorem cleanup_leaves_stale_alternative_url_map :
    (let w := runOps [.createHealthCheck (some .GRPC) none,
      .createAlternativeBackendService (some .GRPC), .createAlternativeUrlMap "svc" 8080 none,
      .cleanup false]
      (World.init (TrafficDirectorManager.init .base "project" "psm" (some "a1")) ∅ fun _ => false)
    w.manager.slots .alternativeUrlMap = some (Collection.urlMaps.handle "psm-url-map-alt-a1") ∧
      (Collection.urlMaps, "psm-url-map-alt-a1") ∉ w.remote ∧
      ((runOps [.cleanup false] w).calls.drop w.calls.length).map Call.target =
        [some (.urlMaps, "psm-url-map-alt-a1")]) := by
  decide

end TrafficDirector
