import TrafficDirector.Proofs.Exec

/-!
# TrafficDirector — the registry invariant and how each kind of change keeps it

The manager's slots are a registry of the remote resources it created. `RunInvariant` says how
far that registry agrees with the remote on every run that creates into `Absent` slots only
(the target proxy in particular); its flag `gated` says whether the run also creates the IPv6
resources only under dual stack, as `setup_routing_rule_map_for_grpc` does:

* `held_exists` — every `Present` slot but `alternative_url_map` holds a resource that exists
  in its slot's collection (the target proxy's collection follows `target_proxy_is_http`);
* `canonical` — every slot but `url_map` holds the resource named `make_resource_name` of its
  base name;
* `ipv6_gated`, `class_slots` — on a gated run the IPv6 slots are `Absent` without dual stack,
  and a slot of another class is never `Present`;
* `firewall_ensured` — with no failing call, a `Present` firewall slot implies
  `_ensure_firewall`;
* `tracked` — every resource created since the run began, URL maps and the main target proxy
  apart, is held by a slot, or, on a run where some call fails, is a resource of a subclass slot
  under its canonical name, left by a create whose fetch failed.

The invariant reads only the manager and the remote, so a logged call keeps it. Each kind of
change a method makes (a create stored in a slot, a delete that clears one, a flag) has one
lemma here; the method proofs only pick them.
-/

namespace TrafficDirector

/-- No gateway call of the run fails. -/
def Succeeds (fault : Nat → Bool) : Prop := ∀ n, fault n = false

/-- With no failing call, the next call of a world with those failures succeeds. -/
theorem Succeeds.nextFails {f : Nat → Bool} (h : Succeeds f) {w : World} (hf : w.fault = f) :
    w.nextFails = false := by
  unfold World.nextFails
  rw [hf]
  exact h _

namespace TrafficDirectorManager

/-- The configuration a manager is constructed with; no method changes it. -/
def config (m : TrafficDirectorManager) : ResourceNaming × ManagerClass × String × String × Bool :=
  (m.toResourceNaming, m.kind, m.project, m.network, m.enableDualstack)

/-- The remote resource a slot holds: its slot's collection and the name of its value. -/
def heldBy (m : TrafficDirectorManager) (slot : Slot) : Option (Collection × String) :=
  (m.slots slot).map fun r => (m.collectionOf slot, r.name)

/-- Some slot holds the resource. -/
def Held (m : TrafficDirectorManager) (p : Collection × String) : Prop := ∃ slot, m.heldBy slot = some p

/-- URL maps and the main target proxy: `delete_alternative_url_map`, the content-named
`url_map`, the force deletes of the two proxy kinds and `delete_target_grpc_proxy` on an HTTP
proxy can each leave such a resource on the remote with no slot holding it. -/
def Untracked (m : TrafficDirectorManager) (p : Collection × String) : Prop :=
  p.1 = .urlMaps ∨
    ((p.1 = .targetGrpcProxies ∨ p.1 = .targetHttpProxies) ∧ p.2 = m.canonicalName .targetProxy)

/-- A resource of a subclass slot under that slot's canonical name: what a create-then-get
method (`create_mesh`, the routes, the policies) leaves when its fetch fails. -/
def Leftover (m : TrafficDirectorManager) (p : Collection × String) : Prop :=
  ∃ slot : Slot, slot.declaredBy ≠ .base ∧ p = (slot.collection false, m.canonicalName slot)

@[simp] theorem heldBy_setSlot_self (m : TrafficDirectorManager) (slot : Slot)
    (value : Option GcpResource) :
    (m.setSlot slot value).heldBy slot = value.map fun r => (m.collectionOf slot, r.name) := by
  simp [heldBy, collectionOf]

@[simp] theorem heldBy_setSlot_ne (m : TrafficDirectorManager) {slot other : Slot}
    (value : Option GcpResource) (h : other ≠ slot) :
    (m.setSlot slot value).heldBy other = m.heldBy other := by
  simp [heldBy, collectionOf, h]

/-- Clearing an `Absent` slot changes nothing held. -/
theorem heldBy_setSlot_of_none (m : TrafficDirectorManager) {slot : Slot}
    (h : m.slots slot = none) : (m.setSlot slot none).heldBy = m.heldBy := by
  funext s
  by_cases e : s = slot
  · subst e; simp [heldBy, h]
  · exact heldBy_setSlot_ne m none e

/-- The kind flag changes what `target_proxy` holds only. -/
theorem heldBy_setFlag_ne (m : TrafficDirectorManager) (b : Bool) {s : Slot}
    (hs : s ≠ .targetProxy) :
    ({ m with targetProxyIsHttp := b } : TrafficDirectorManager).heldBy s = m.heldBy s := by
  cases s <;> simp_all [heldBy, collectionOf, Slot.collection]

theorem heldBy_setFlag (m : TrafficDirectorManager) (b : Bool) (hnone : m.slots .targetProxy = none) :
    ({ m with targetProxyIsHttp := b } : TrafficDirectorManager).heldBy = m.heldBy := by
  funext s
  by_cases hs : s = .targetProxy
  · subst hs; simp [heldBy, hnone]
  · exact heldBy_setFlag_ne m b hs

theorem heldBy_eq_some {m : TrafficDirectorManager} {slot : Slot} {p : Collection × String} :
    m.heldBy slot = some p ↔ ∃ r, m.slots slot = some r ∧ p = (m.collectionOf slot, r.name) := by
  simp only [heldBy, Option.map_eq_some']
  exact exists_congr fun r => and_congr_right fun _ => eq_comm

end TrafficDirectorManager

open TrafficDirectorManager

/-- The registry invariant of a run from a remote `R₀`, a configuration `cfg` and the failures
`f`, for a world with failures `fault`, manager `m` and remote `remote`; `gated` when the run
creates the IPv6 resources only under dual stack. -/
structure RunInvariant (gated : Bool) (R₀ : Finset (Collection × String))
    (cfg : ResourceNaming × ManagerClass × String × String × Bool) (f fault : Nat → Bool)
    (m : TrafficDirectorManager) (remote : Finset (Collection × String)) : Prop where
  fault_eq : fault = f
  config_eq : m.config = cfg
  held_exists : ∀ slot p, slot ≠ .alternativeUrlMap → m.heldBy slot = some p → p ∈ remote
  canonical : ∀ slot r, slot ≠ .urlMap → m.slots slot = some r → r.name = m.canonicalName slot
  ipv6_gated : gated = true → m.enableDualstack = false →
    m.slots .targetProxyIpv6 = none ∧ m.slots .forwardingRuleIpv6 = none
  class_slots : ∀ slot r, m.slots slot = some r → slot.declaredBy = .base ∨ slot.declaredBy = m.kind
  firewall_ensured : Succeeds f → ∀ r,
    (m.slots .firewallRule = some r ∨ m.slots .firewallRuleIpv6 = some r) → m.ensureFirewall = true
  tracked : ∀ p ∈ remote, p ∉ R₀ → ¬ m.Untracked p → m.Held p ∨ (¬ Succeeds f ∧ m.Leftover p)

/-- The registry invariant of a world. -/
def Inv (gated : Bool) (R₀ : Finset (Collection × String))
    (cfg : ResourceNaming × ManagerClass × String × String × Bool) (f : Nat → Bool) (w : World) :
    Prop :=
  RunInvariant gated R₀ cfg f w.fault w.manager w.remote

namespace RunInvariant

variable {g : Bool} {R₀ : Finset (Collection × String)} {cfg : ResourceNaming × ManagerClass × String × String × Bool}
  {f fault : Nat → Bool} {m : TrafficDirectorManager} {R : Finset (Collection × String)}

/-- Every slot is `Absent` at construction, and nothing has been created since. -/
theorem init (m : TrafficDirectorManager) (hm : ∀ slot, m.slots slot = none) (f : Nat → Bool) :
    RunInvariant g R₀ m.config f f m R₀ where
  fault_eq := rfl
  config_eq := rfl
  held_exists _ _ _ h := by simp [heldBy, hm] at h
  canonical _ _ _ h := by simp [hm] at h
  ipv6_gated _ _ := ⟨hm _, hm _⟩
  class_slots _ _ h := by simp [hm] at h
  firewall_ensured _ _ h := by simp [hm] at h
  tracked _ h h' := absurd h h'

/-- A slot that holds a resource other than `url_map`'s holds it under its canonical name. -/
theorem heldBy_canonical (h : RunInvariant g R₀ cfg f fault m R) {slot : Slot} {p : Collection × String}
    (hslot : slot ≠ .urlMap) (hp : m.heldBy slot = some p) :
    p = (m.collectionOf slot, m.canonicalName slot) := by
  obtain ⟨r, hr, rfl⟩ := heldBy_eq_some.1 hp
  rw [h.canonical slot r hslot hr]

/-- Two slots other than the URL maps' never hold the same resource. -/
theorem heldBy_inj (h : RunInvariant g R₀ cfg f fault m R) {a b : Slot} {p : Collection × String}
    (ha : a ≠ .urlMap) (hb : b ≠ .urlMap) (hpa : m.heldBy a = some p) (hpb : m.heldBy b = some p) :
    a = b := by
  have ea := h.heldBy_canonical ha hpa
  have eb := h.heldBy_canonical hb hpb
  exact m.canonicalName_injective (congrArg Prod.snd (ea.symm.trans eb))

/-- A change of the fields the invariant does not read (protocols, backend sets) keeps it. -/
theorem congr (h : RunInvariant g R₀ cfg f fault m R) {m' : TrafficDirectorManager}
    (hs : m'.slots = m.slots) (hf : m'.targetProxyIsHttp = m.targetProxyIsHttp)
    (he : m'.ensureFirewall = m.ensureFirewall) (hc : m'.config = m.config) :
    RunInvariant g R₀ cfg f fault m' R := by
  have hcfg := hc
  simp only [config, Prod.mk.injEq] at hc
  obtain ⟨hn, hk, -, -, hd⟩ := hc
  have hcoll : m'.collectionOf = m.collectionOf := by funext s; simp [collectionOf, hf]
  have hcan : m'.canonicalName = m.canonicalName := by funext s; simp [canonicalName, hn]
  have hheld : m'.heldBy = m.heldBy := by funext s; simp [heldBy, hs, hcoll]
  have hun : m'.Untracked = m.Untracked := by funext p; simp [Untracked, hcan]
  have hlo : m'.Leftover = m.Leftover := by funext p; simp [Leftover, hcan]
  exact ⟨h.fault_eq, hcfg.trans h.config_eq, by simpa only [hheld] using h.held_exists,
    by simpa only [hs, hcan] using h.canonical, by simpa only [hd, hs] using h.ipv6_gated,
    by simpa only [hs, hk] using h.class_slots, by simpa only [hs, he] using h.firewall_ensured,
    fun p hp h0 hu => by
      simpa only [Held, hheld, hlo] using h.tracked p hp h0 (by simpa only [hun] using hu)⟩

theorem setProtocol (h : RunInvariant g R₀ cfg f fault m R) (v : BackendServiceVariant)
    (p : BackendServiceProtocol) : RunInvariant g R₀ cfg f fault (m.setProtocol v p) R :=
  h.congr rfl rfl rfl rfl

theorem setBackends (h : RunInvariant g R₀ cfg f fault m R) (v : BackendServiceVariant)
    (b : Finset NegGcpResource) : RunInvariant g R₀ cfg f fault (m.setBackends v b) R :=
  h.congr rfl rfl rfl rfl

theorem setEnsureTrue (h : RunInvariant g R₀ cfg f fault m R) :
    RunInvariant g R₀ cfg f fault { m with ensureFirewall := true } R :=
  ⟨h.fault_eq, h.config_eq, h.held_exists, h.canonical, h.ipv6_gated, h.class_slots, fun _ _ _ => rfl,
    h.tracked⟩

/-- `_ensure_firewall` may be reset once both firewall slots are `Absent`. -/
theorem setEnsureFalse (h : RunInvariant g R₀ cfg f fault m R)
    (hfw : Succeeds f → m.slots .firewallRule = none ∧ m.slots .firewallRuleIpv6 = none) :
    RunInvariant g R₀ cfg f fault { m with ensureFirewall := false } R :=
  ⟨h.fault_eq, h.config_eq, h.held_exists, h.canonical, h.ipv6_gated, h.class_slots,
    fun hH r hr => by simp [(hfw hH).1, (hfw hH).2] at hr, h.tracked⟩

/-- The kind flag may change while `target_proxy` is `Absent`. -/
theorem setFlag (h : RunInvariant g R₀ cfg f fault m R) (b : Bool) (hnone : m.slots .targetProxy = none) :
    RunInvariant g R₀ cfg f fault { m with targetProxyIsHttp := b } R := by
  have hheld := congrFun (m.heldBy_setFlag b hnone)
  exact ⟨h.fault_eq, h.config_eq, by simpa only [hheld] using h.held_exists, h.canonical, h.ipv6_gated,
    h.class_slots, h.firewall_ensured,
    fun p hp h0 hu => by simpa only [Held, hheld] using h.tracked p hp h0 hu⟩

/-- Storing a resource in a slot under its canonical name (any name for `url_map`), where the
remote grows by at most that resource and holds it. -/
theorem store (h : RunInvariant g R₀ cfg f fault m R) {R' : Finset (Collection × String)} {slot : Slot}
    {name : String} (hsub : R ⊆ R') (hnew : ∀ p ∈ R', p ∈ R ∨ p = (m.collectionOf slot, name))
    (hmem : (m.collectionOf slot, name) ∈ R')
    (hname : slot ≠ .urlMap → name = m.canonicalName slot)
    (hclass : slot.declaredBy = .base ∨ slot.declaredBy = m.kind)
    (hipv6 : g = true → m.enableDualstack = false →
      slot ≠ .targetProxyIpv6 ∧ slot ≠ .forwardingRuleIpv6)
    (hfw : Succeeds f → slot = .firewallRule ∨ slot = .firewallRuleIpv6 → m.ensureFirewall = true) :
    RunInvariant g R₀ cfg f fault (m.setSlot slot (some ((m.collectionOf slot).handle name))) R' := by
  have hself : (m.setSlot slot (some ((m.collectionOf slot).handle name))).heldBy slot =
      some (m.collectionOf slot, name) := by
    simp
  refine ⟨h.fault_eq, h.config_eq, fun s p hs hp => ?_, fun s r hs hr => ?_, fun hg hd => ?_,
    fun s r hr => ?_, fun hH r hr => ?_, fun p hp h0 hu => ?_⟩
  · by_cases e : s = slot
    · subst e
      rw [hself, Option.some.injEq] at hp
      exact hp ▸ hmem
    · exact hsub (h.held_exists s p hs (by rwa [heldBy_setSlot_ne _ _ e] at hp))
  · by_cases e : s = slot
    · subst e
      simp only [setSlot, Function.update_same, Option.some.injEq] at hr
      simpa [← hr, canonicalName] using hname hs
    · simp only [setSlot, Function.update_noteq e] at hr
      simpa [canonicalName] using h.canonical s r hs hr
  · obtain ⟨h1, h2⟩ := hipv6 hg hd
    simpa only [setSlot_slots, Function.update_noteq (Ne.symm h1),
      Function.update_noteq (Ne.symm h2)] using h.ipv6_gated hg hd
  · by_cases e : s = slot
    · subst e; exact hclass
    · simp only [setSlot, Function.update_noteq e] at hr
      exact h.class_slots s r hr
  · by_cases e : slot = .firewallRule ∨ slot = .firewallRuleIpv6
    · exact hfw hH e
    · push_neg at e
      have hr' : m.slots .firewallRule = some r ∨ m.slots .firewallRuleIpv6 = some r := by
        simpa [setSlot, Function.update_noteq e.1.symm, Function.update_noteq e.2.symm] using hr
      exact h.firewall_ensured hH r hr'
  · rcases hnew p hp with hp | rfl
    · refine (h.tracked p hp h0 hu).imp_left fun ⟨s, hs⟩ => ?_
      by_cases e : s = slot
      · subst e
        -- the slot held a tracked resource, so not a URL map: its canonical one, now stored again
        have hsu : s ≠ .urlMap := by
          rintro rfl
          obtain ⟨r, -, rfl⟩ := heldBy_eq_some.1 hs
          exact hu (Or.inl rfl)
        rw [h.heldBy_canonical hsu hs, ← hname hsu]
        exact ⟨s, hself⟩
      · exact ⟨s, by rwa [heldBy_setSlot_ne _ _ e]⟩
    · exact .inl ⟨slot, hself⟩

/-- A create followed by storing the created resource in its slot. -/
theorem fill (h : RunInvariant g R₀ cfg f fault m R) {slot : Slot} {name : String}
    (hname : slot ≠ .urlMap → name = m.canonicalName slot)
    (hclass : slot.declaredBy = .base ∨ slot.declaredBy = m.kind)
    (hipv6 : g = true → m.enableDualstack = false →
      slot ≠ .targetProxyIpv6 ∧ slot ≠ .forwardingRuleIpv6)
    (hfw : Succeeds f → slot = .firewallRule ∨ slot = .firewallRuleIpv6 → m.ensureFirewall = true) :
    RunInvariant g R₀ cfg f fault (m.setSlot slot (some ((m.collectionOf slot).handle name)))
      (insert (m.collectionOf slot, name) R) :=
  h.store (Finset.subset_insert _ _) (fun _ hp => (Finset.mem_insert.1 hp).symm)
    (Finset.mem_insert_self _ _) hname hclass hipv6 hfw

/-- A get of an existing resource followed by storing it in its slot. -/
theorem load (h : RunInvariant g R₀ cfg f fault m R) {slot : Slot} {name : String}
    (hmem : (m.collectionOf slot, name) ∈ R)
    (hname : slot ≠ .urlMap → name = m.canonicalName slot)
    (hclass : slot.declaredBy = .base ∨ slot.declaredBy = m.kind)
    (hipv6 : g = true → m.enableDualstack = false →
      slot ≠ .targetProxyIpv6 ∧ slot ≠ .forwardingRuleIpv6)
    (hfw : Succeeds f → slot = .firewallRule ∨ slot = .firewallRuleIpv6 → m.ensureFirewall = true) :
    RunInvariant g R₀ cfg f fault (m.setSlot slot (some ((m.collectionOf slot).handle name))) R :=
  h.store subset_rfl (fun _ hp => .inl hp) hmem hname hclass hipv6 hfw

/-- A create whose resource no slot takes: only on a run where some call fails, and only of a
subclass resource under its canonical name. -/
theorem insert_leftover (h : RunInvariant g R₀ cfg f fault m R) (hH : ¬ Succeeds f)
    {p : Collection × String} (hp : m.Leftover p) : RunInvariant g R₀ cfg f fault m (insert p R) :=
  ⟨h.fault_eq, h.config_eq, fun s q hs hq => Finset.mem_insert_of_mem (h.held_exists s q hs hq),
    h.canonical, h.ipv6_gated, h.class_slots, h.firewall_ensured, fun q hq h0 hu =>
      (Finset.mem_insert.1 hq).elim (fun e => .inr ⟨hH, e ▸ hp⟩) fun hq => h.tracked q hq h0 hu⟩

/-- A delete of `q` followed by clearing a slot, where no other slot but `alternative_url_map`
holds `q`, and what the cleared slot held is `q` or untracked. -/
theorem eraseClear (h : RunInvariant g R₀ cfg f fault m R) (slot : Slot) (q : Collection × String)
    (hother : ∀ s p, s ≠ .alternativeUrlMap → s ≠ slot → m.heldBy s = some p → p ≠ q)
    (hself : ∀ p, m.heldBy slot = some p → p = q ∨ m.Untracked p) :
    RunInvariant g R₀ cfg f fault (m.setSlot slot none) (R.erase q) := by
  have hsub : ∀ s r, (m.setSlot slot none).slots s = some r → s ≠ slot ∧ m.slots s = some r := by
    intro s r hs
    by_cases e : s = slot
    · subst e; simp at hs
    · exact ⟨e, by simpa [Function.update_noteq e] using hs⟩
  refine ⟨h.fault_eq, h.config_eq, fun s p hs hp => ?_, fun s r hs hr => ?_, fun hg hd => ?_,
    fun s r hr => h.class_slots s r (hsub s r hr).2, fun hH r hr => ?_, fun p hp h0 hu => ?_⟩
  · by_cases e : s = slot
    · subst e; simp at hp
    · rw [heldBy_setSlot_ne _ _ e] at hp
      exact Finset.mem_erase.2 ⟨hother s p hs e hp, h.held_exists s p hs hp⟩
  · exact h.canonical s r hs (hsub s r hr).2
  · obtain ⟨h1, h2⟩ := h.ipv6_gated hg hd
    constructor <;> by_contra hne <;> obtain ⟨r, hr⟩ := Option.ne_none_iff_exists'.1 hne
    · simp [(hsub _ r hr).2] at h1
    · simp [(hsub _ r hr).2] at h2
  · exact h.firewall_ensured hH r (hr.imp (fun h' => (hsub _ r h').2) fun h' => (hsub _ r h').2)
  · obtain ⟨hpq, hp⟩ := Finset.mem_erase.1 hp
    refine (h.tracked p hp h0 hu).imp_left fun ⟨s, hs⟩ => ?_
    by_cases e : s = slot
    · subst e
      rcases hself p hs with rfl | hu'
      · exact absurd rfl hpq
      · exact absurd hu' hu
    · exact ⟨s, by rwa [heldBy_setSlot_ne _ _ e]⟩

end RunInvariant

end TrafficDirector
