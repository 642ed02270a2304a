import TrafficDirector.Proofs.Locality
import TrafficDirector.Model.Project

/-!
# TrafficDirector — managers in one project leave each other's resources alone

Test cases running side by side in one project are kept apart by their resource names only:
each manager names its resources `make_resource_name` of a base-name constant under its own
prefix and suffix. With dash-free suffixes and distinct naming tuples, no two managers build a
common name (`ResourceNaming.Names.disjoint`), and a manager deletes only names it builds or
holds (`Op.run_spares`). Hence, in every interleaving of the managers' calls and whichever calls
fail:

* **`Project.call_keeps_other_managers_resources`** — a call of one manager removes no resource
  whose name another manager builds;
* **`Project.registries_mirror_remote`** — every manager's registry stays true: a `Present` slot
  other than `alternative_url_map` holds a resource that exists in its slot's collection, as in
  a project of its own.
* **`Project.interleaving_agrees_with_solo_run`** — on a run where no call fails, each manager
  ends with the attributes, and the project with the resources among its names, that its own
  calls alone give: the others' calls are invisible to it.

## The architecture

* `Project.Reachable.spares` — every manager keeps its naming tuple and holds only names it
  builds: its own calls keep `Spares`, and the others' calls leave its attributes alone.
* `Project.step_mem_iff_of_names` — a call neither removes nor creates a resource another
  manager can name: `Op.run_spares` keeps the caller's foreign part, and the names are disjoint.
* `RunInvariant.rely` — the registry invariant survives changes to the remote that remove
  nothing the manager holds: what others add counts as found at construction.
* `Project.Agrees.run` — by induction over the interleaving: a manager's own call keeps its view
  agreeing with the solo run (`Op.run_local`), and another's call changes nothing it sees.
-/

namespace TrafficDirector

open TrafficDirectorManager

/-! ## Rely: the other managers' calls -/

section Rely

variable {g : Bool} {R₀ : Finset (Collection × String)}
  {cfg : ResourceNaming × ManagerClass × String × String × Bool} {f fault : Nat → Bool}
  {m : TrafficDirectorManager} {R : Finset (Collection × String)}

/-- Changes to the remote that remove nothing the manager holds, outside `alternative_url_map`,
keep the registry invariant, counting what they add as found at construction. -/
theorem RunInvariant.rely (h : RunInvariant g R₀ cfg f fault m R)
    (R₁ : Finset (Collection × String))
    (hkeep : ∀ s p, s ≠ .alternativeUrlMap → m.heldBy s = some p → p ∈ R₁) :
    RunInvariant g (R₀ ∪ (R₁ \ R)) cfg f fault m R₁ :=
  { h with
    held_exists := hkeep
    tracked := fun p hp h0 hu => by
      have hR : p ∈ R := by
        by_contra hn
        exact h0 (Finset.mem_union_right _ (Finset.mem_sdiff.2 ⟨hp, hn⟩))
      exact h.tracked p hR (fun h' => h0 (Finset.mem_union_left _ h')) hu }

end Rely

namespace Project

variable {ι : Type} [DecidableEq ι] {allowed : World → Op → Prop} {P₀ P : Project ι}

/-! ## Guarantee: what a call removes -/

/-- The managers' namings as built: each keeps its naming tuple, holds only names it builds,
and so spares the resources of the project it does not name. -/
def Sparing.all (P₀ P : Project ι) : Prop :=
  ∀ k, Sparing (P₀.managers k).toResourceNaming
    (foreignPart (P₀.managers k).toResourceNaming P.remote) (P.view k)

/-- A call keeps every manager sparing: the caller by `Op.run_spares`, the others because their
attributes are untouched. -/
theorem Sparing.all.step (hP : Sparing.all P₀ P) (j : ι) (op : Op) (hop : NamesOwn (P.view j) op) :
    Sparing.all P₀ (P.step j op) := fun k => by
  by_cases e : k = j
  · subst e
    have h := (Op.run_spares op).finalWorld hop (hP k)
    rw [view_step_self]
    exact Spares.ofOwned h.naming_eq h.owned _
  · rw [view_step_ne _ e]
    exact Spares.ofOwned (hP k).naming_eq (hP k).owned _

/-- **Every manager holds only names it builds**, on every interleaving of calls that name only
resources of their managers. -/
theorem Reachable.spares (hallowed : ∀ w op, allowed w op → NamesOwn w op)
    (h₀ : ∀ i s, (P₀.managers i).slots s = none) (h : Reachable allowed P₀ P) :
    Sparing.all P₀ P := by
  induction h with
  | init => exact fun i => Spares.ofOwned rfl (fun s r hr => by simp [view, h₀] at hr) _
  | step j op _ hop ih => exact ih.step j op (hallowed _ _ hop)

/-- A call of manager `i` neither removes nor creates a resource whose name another manager
builds, when the managers' names are kept apart. -/
theorem step_mem_iff_of_names (hP : Sparing.all P₀ P)
    (hsuffix : ∀ k, (P₀.managers k).DashFreeSuffix)
    (hdistinct : ∀ k l, k ≠ l → (P₀.managers k).toResourceNaming ≠ (P₀.managers l).toResourceNaming)
    (i : ι) (op : Op) (hop : NamesOwn (P.view i) op) {j : ι} (hji : j ≠ i)
    {p : Collection × String} (hname : (P₀.managers j).Names p.2) :
    p ∈ (P.step i op).remote ↔ p ∈ P.remote := by
  have hf : ¬ (P₀.managers i).Names p.2 :=
    ResourceNaming.Names.disjoint (hsuffix j) (hsuffix i) (hdistinct j i hji) hname
  have h := (Op.run_spares op).finalWorld hop (hP i)
  exact ⟨fun hp => (Finset.mem_filter.1 (h.confined p hp hf)).1,
    fun hp => h.present (Finset.mem_filter.2 ⟨hp, hf⟩)⟩

/-- A call of manager `i` spares every resource on the remote whose name another manager
builds, when the managers' names are kept apart. -/
theorem step_keeps_foreign (hP : Sparing.all P₀ P)
    (hsuffix : ∀ k, (P₀.managers k).DashFreeSuffix)
    (hdistinct : ∀ k l, k ≠ l → (P₀.managers k).toResourceNaming ≠ (P₀.managers l).toResourceNaming)
    (i : ι) (op : Op) (hop : NamesOwn (P.view i) op) {j : ι} (hji : j ≠ i)
    {p : Collection × String} (hp : p ∈ P.remote) (hname : (P₀.managers j).Names p.2) :
    p ∈ (P.step i op).remote :=
  (step_mem_iff_of_names hP hsuffix hdistinct i op hop hji hname).2 hp

/-- **A call of one manager removes no resource another manager names.** In every interleaving
of calls of managers built with fresh slots, dash-free suffixes and distinct naming tuples, where
every call names only resources of its manager, and whichever calls fail: a resource on the
remote whose name manager `j` builds is still there after any call of another manager `i`. -/
theorem call_keeps_other_managers_resources (hallowed : ∀ w op, allowed w op → NamesOwn w op)
    (h₀ : ∀ i s, (P₀.managers i).slots s = none) (hsuffix : ∀ i, (P₀.managers i).DashFreeSuffix)
    (hdistinct : ∀ i j, i ≠ j → (P₀.managers i).toResourceNaming ≠ (P₀.managers j).toResourceNaming)
    (h : Reachable allowed P₀ P) (i : ι) (op : Op) (hop : allowed (P.view i) op) {j : ι}
    (hji : j ≠ i) {p : Collection × String} (hp : p ∈ P.remote)
    (hname : (P₀.managers j).Names p.2) : p ∈ (P.step i op).remote :=
  step_keeps_foreign (Reachable.spares hallowed h₀ h) hsuffix hdistinct i op (hallowed _ _ hop)
    hji hp hname

/-- Two managers set up for GRPC, suffixes `a1` and `b2`; the forced cleanup of the first leaves
the second's backend service on the remote. -/
theorem call_keeps_other_managers_resources_after_setups :
    let P₀ := Project.init (fun b : Bool => TrafficDirectorManager.init .base "project" "psm"
      (some (if b then "a1" else "b2"))) ∅ fun _ => false
    let P := (P₀.step true (.setupForGrpc "svc" 8080 (some .GRPC) none)).step false
      (.setupForGrpc "svc" 8080 (some .GRPC) none)
    (Collection.backendServices, "psm-backend-service-b2") ∈ (P.step true (.cleanup true)).remote :=
  call_keeps_other_managers_resources (fun _ _ h => h) (fun i _ => by cases i <;> rfl)
    (fun i => by cases i <;> exact ⟨_, rfl, by decide, by decide⟩) (by decide)
    (.step false (.setupForGrpc "svc" 8080 (some .GRPC) none)
      (.step true (.setupForGrpc "svc" 8080 (some .GRPC) none) .init trivial) trivial)
    true (.cleanup true) trivial Bool.false_ne_true (by decide) (by decide)

/-! ## Every registry stays true -/

/-- Every manager's registry invariant, over an initial remote that also counts what the other
managers' calls added. -/
theorem Reachable.registries (hallowed : ∀ w op, allowed w op → Allowed w op ∧ NamesOwn w op)
    (h₀ : ∀ i s, (P₀.managers i).slots s = none) (hsuffix : ∀ i, (P₀.managers i).DashFreeSuffix)
    (hdistinct : ∀ i j, i ≠ j → (P₀.managers i).toResourceNaming ≠ (P₀.managers j).toResourceNaming)
    (h : Reachable allowed P₀ P) (i : ι) : ∃ R₀, Inv true R₀ (P₀.managers i).config P₀.fault (P.view i) := by
  induction h generalizing i with
  | init => exact ⟨P₀.remote, RunInvariant.init _ (h₀ i) _⟩
  | @step Q j op hreach hop ih =>
    obtain ⟨R₀, hI⟩ := ih i
    by_cases e : i = j
    · subst e
      exact ⟨R₀, by rw [view_step_self]; exact (Op.run_keeps_allowed op).finalWorld (hallowed _ _ hop).1 hI⟩
    · have hIj := (Op.run_keeps_allowed op).finalWorld (hallowed _ _ hop).1 (ih j).choose_spec
      -- the caller removes nothing manager `i` holds: `i` holds names it builds
      have hsp := Reachable.spares (fun w op hop => (hallowed w op hop).2) h₀ hreach
      have hkeep : ∀ s p, s ≠ .alternativeUrlMap → (Q.managers i).heldBy s = some p →
          p ∈ (Q.step j op).remote := by
        intro s p hs hp
        obtain ⟨r, hr, rfl⟩ := heldBy_eq_some.1 hp
        exact step_keeps_foreign hsp hsuffix hdistinct j op (hallowed _ _ hop).2 e
          (hI.held_exists s _ hs hp) ((hsp i).owned s r hr)
      rw [view_step_ne _ e]
      exact ⟨_, { hI.rely _ hkeep with fault_eq := hIj.fault_eq }⟩

/-- **Every manager's registry stays true while the others work.** In every interleaving of
allowed calls of managers built with fresh slots, dash-free suffixes and distinct naming
tuples, whichever calls fail: every `Present` slot of every manager, `alternative_url_map`
apart, holds a resource that exists in its slot's collection. -/
theorem registries_mirror_remote (hallowed : ∀ w op, allowed w op → Allowed w op ∧ NamesOwn w op)
    (h₀ : ∀ i s, (P₀.managers i).slots s = none) (hsuffix : ∀ i, (P₀.managers i).DashFreeSuffix)
    (hdistinct : ∀ i j, i ≠ j → (P₀.managers i).toResourceNaming ≠ (P₀.managers j).toResourceNaming)
    (h : Reachable allowed P₀ P) (i : ι) {s : Slot} (hs : s ≠ .alternativeUrlMap) {r : GcpResource}
    (hr : (P.managers i).slots s = some r) : ((P.managers i).collectionOf s, r.name) ∈ P.remote := by
  obtain ⟨R₀, hI⟩ := Reachable.registries hallowed h₀ hsuffix hdistinct h i
  exact hI.held_exists s _ hs (by simp [heldBy, view, hr])

/-- After the same setups and the forced cleanup of the first manager, the second's registry
still holds its backend service, which is still on the remote. -/
theorem registries_mirror_remote_after_cleanup :
    let P₀ := Project.init (fun b : Bool => TrafficDirectorManager.init .base "project" "psm"
      (some (if b then "a1" else "b2"))) ∅ fun _ => false
    let P := ((P₀.step true (.setupForGrpc "svc" 8080 (some .GRPC) none)).step false
      (.setupForGrpc "svc" 8080 (some .GRPC) none)).step true (.cleanup true)
    (P.managers false).slots .backendService =
        some (Collection.backendServices.handle "psm-backend-service-b2") ∧
      (Collection.backendServices, "psm-backend-service-b2") ∈ P.remote := by
  refine ⟨rfl, registries_mirror_remote (s := .backendService)
    (r := Collection.backendServices.handle "psm-backend-service-b2")
    (fun _ _ h => h : ∀ w op, Allowed w op ∧ NamesOwn w op → Allowed w op ∧ NamesOwn w op)
    (fun i _ => by cases i <;> rfl) (fun i => by cases i <;> exact ⟨_, rfl, by decide, by decide⟩)
    (by decide) (.step true _ (.step false _ (.step true _ .init ?_) ?_) ?_) false (by decide)
    rfl⟩
  · exact ⟨⟨fun _ _ => rfl, by rintro (h | ⟨_, h⟩) <;> cases h⟩, trivial⟩
  · exact ⟨⟨fun _ _ => rfl, by rintro (h | ⟨_, h⟩) <;> cases h⟩, trivial⟩
  · exact ⟨⟨(fun _ h => by cases h), by rintro (h | ⟨_, h⟩) <;> cases h⟩, trivial⟩

/-! ## Every manager runs as if alone -/

section Solo

variable (hsuffix : ∀ k, (P₀.managers k).DashFreeSuffix)
  (hdistinct : ∀ k l, k ≠ l → (P₀.managers k).toResourceNaming ≠ (P₀.managers l).toResourceNaming)
include hsuffix hdistinct

/-- A call of another manager keeps what manager `i` sees of the project: its own attributes
and the resources it names. -/
theorem Agrees.step_ne (hP : Sparing.all P₀ P) (hH : Succeeds P.fault) {i j : ι} (hji : j ≠ i)
    (op : Op) (hop : NamesOwn (P.view j) op) {w : World}
    (h : Agrees (P₀.managers i).toResourceNaming (P.view i) w) :
    Agrees (P₀.managers i).toResourceNaming ((P.step j op).view i) w := by
  have hj := (Op.run_local op _ _ (Agrees.refl (w := P.view j) rfl hH)).finalWorld
  rw [view_step_ne _ hji.symm]
  exact ⟨h.manager_eq, h.naming_eq, fun p hp =>
    (step_mem_iff_of_names hP hsuffix hdistinct j op hop hji.symm hp).trans (h.remote_iff p hp),
    hj.succeeds₁, h.succeeds₂⟩

/-- Along any interleaving of calls naming only resources of their managers, on a run where no
call fails, manager `i` sees the project as it would see a world that agreed with its view at
the start and went through its own calls only. -/
theorem Agrees.run (i : ι) : ∀ (tr : List (ι × Op)) {P : Project ι} {w : World},
    Sparing.all P₀ P → Succeeds P.fault → (∀ c ∈ tr, NamesOwn (P₀.view c.1) c.2) →
    Agrees (P₀.managers i).toResourceNaming (P.view i) w →
    Agrees (P₀.managers i).toResourceNaming ((P.run tr).view i) (runOps (callsOf i tr) w)
  | [], _, _, _, _, _, h => h
  | (j, op) :: tr, P, w, hP, hH, hown, h => by
    have hop : NamesOwn (P.view j) op :=
      NamesOwn.of_naming_eq (hP j).naming_eq.symm (hown _ (List.mem_cons_self _ _))
    have hH' : Succeeds (P.step j op).fault :=
      (Op.run_local op _ _ (Agrees.refl (w := P.view j) rfl hH)).finalWorld.succeeds₁
    have hown' : ∀ c ∈ tr, NamesOwn (P₀.view c.1) c.2 := fun c hc =>
      hown c (List.mem_cons_of_mem _ hc)
    rw [run_cons, callsOf_cons]
    by_cases e : j = i
    · subst e
      rw [if_pos rfl]
      refine Agrees.run j tr (hP.step j op hop) hH' hown' ?_
      rw [view_step_self]
      exact (Op.run_local op _ _ h).finalWorld
    · rw [if_neg e]
      exact Agrees.run i tr (hP.step j op hop) hH' hown'
        (Agrees.step_ne hsuffix hdistinct hP hH e op hop h)

/-- **Every manager's calls come out as if it ran alone.** In any interleaving of the calls of
managers built with fresh slots, dash-free suffixes and distinct naming tuples, where every call
names only resources of its manager and no call fails: each manager ends with the attributes,
and the project with the resources among the names that manager builds, that the manager's own
calls alone give from the start. -/
theorem interleaving_agrees_with_solo_run (hH : Succeeds P₀.fault)
    (h₀ : ∀ i s, (P₀.managers i).slots s = none) (tr : List (ι × Op))
    (hown : ∀ c ∈ tr, NamesOwn (P₀.view c.1) c.2) (i : ι) :
    (P₀.run tr).managers i = (runOps (callsOf i tr) (P₀.view i)).manager ∧
      ∀ p : Collection × String, (P₀.managers i).Names p.2 →
        (p ∈ (P₀.run tr).remote ↔ p ∈ (runOps (callsOf i tr) (P₀.view i)).remote) := by
  have hP : Sparing.all P₀ P₀ := (Reachable.init : Reachable NamesOwn P₀ P₀).spares
    (fun _ _ h => h) h₀
  have h := Agrees.run hsuffix hdistinct i tr hP hH hown (Agrees.refl rfl hH)
  exact ⟨h.manager_eq, h.remote_iff⟩

end Solo

/-- Two managers set up for GRPC side by side, suffixes "a1" and "b2", while the first also
cleans up: the second ends as its own setup alone leaves it. -/
theorem interleaving_agrees_with_solo_run_of_setups :
    let P₀ := Project.init (fun b : Bool => TrafficDirectorManager.init .base "project" "psm"
      (some (if b then "a1" else "b2"))) ∅ fun _ => false
    let tr := [(true, Op.setupForGrpc "svc" 8080 (some .GRPC) none),
      (false, .setupForGrpc "svc" 8080 (some .GRPC) none), (true, .cleanup true)]
    (P₀.run tr).managers false = (runOps (callsOf false tr) (P₀.view false)).manager ∧
      ∀ p : Collection × String, (P₀.managers false).Names p.2 →
        (p ∈ (P₀.run tr).remote ↔ p ∈ (runOps (callsOf false tr) (P₀.view false)).remote) :=
  interleaving_agrees_with_solo_run (fun i => by cases i <;> exact ⟨_, rfl, by decide, by decide⟩)
    (by decide) (fun _ => rfl) (fun i _ => by cases i <;> rfl) _
    (by simp only [List.forall_mem_cons]; exact ⟨trivial, trivial, trivial, fun _ h => by cases h⟩)
    false

end Project

end TrafficDirector
