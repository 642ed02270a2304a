import TrafficDirector.Model.Ops

/-!
# TrafficDirector — weakest preconditions of `Exec` programs

`wp x Q E w` says that `x`, started in `w`, returns `a` in a world satisfying `Q a` or raises
in a world satisfying `E`. The results of the gateway and manager primitives are stated once
here, as `wp` equations; a method's proof obligation is then computed by `simp` over these
equations and `wp_bind`, and never unfolds a primitive again.

An invariant `I` of a program is `Keeps I x`: from a world satisfying `I`, the world `x` leaves
satisfies `I`, whether `x` returned or raised.
-/

namespace TrafficDirector

variable {α β : Type}

/-! ## The monad -/

section Monad

variable {x : Exec α} {f : α → Exec β} {w w' : World}

theorem bind_ok {a : α} (h : x w = .ok a w') : (x >>= f) w = f a w' := by
  show EStateM.bind x f w = _
  simp only [EStateM.bind, h]

theorem bind_error {e : Error} (h : x w = .error e w') : (x >>= f) w = .error e w' := by
  show EStateM.bind x f w = _
  simp only [EStateM.bind, h]

@[simp] theorem getManager_apply (w : World) : getManager w = .ok w.manager w := rfl

end Monad

/-- The weakest precondition of `x` for the normal postcondition `Q` and the exceptional
postcondition `E`. -/
def wp (x : Exec α) (Q : α → World → Prop) (E : World → Prop) (w : World) : Prop :=
  match x w with
  | .ok a w' => Q a w'
  | .error _ w' => E w'

section Wp

variable (Q : α → World → Prop) (E : World → Prop) (w : World)

theorem wp_bind (x : Exec β) (f : β → Exec α) :
    wp (x >>= f) Q E w = wp x (fun b => wp (f b) Q E) E w := by
  unfold wp
  cases h : x w with
  | ok b w' => rw [bind_ok h]
  | error e w' => rw [bind_error h]

theorem wp_mono {x : Exec α} {Q' : α → World → Prop} {E' : World → Prop}
    (hQ : ∀ a w, Q a w → Q' a w) (hE : ∀ w, E w → E' w) : wp x Q E w → wp x Q' E' w := by
  unfold wp
  split
  · exact hQ _ _
  · exact hE _

/-- The world `x` leaves satisfies `I` exactly when `x`'s weakest precondition for `I` on
both exits holds. -/
theorem wp_finalWorld (x : Exec α) (I : World → Prop) :
    wp x (fun _ => I) I w ↔ I (finalWorld x w) := by
  unfold wp finalWorld
  cases x w <;> rfl

@[simp] theorem wp_pure (a : α) : wp (pure a) Q E w = Q a w := rfl

@[simp] theorem wp_ite (c : Prop) [Decidable c] (x y : Exec α) :
    wp (if c then x else y) Q E w = if c then wp x Q E w else wp y Q E w := by
  split <;> rfl

theorem wp_true (x : Exec α) : wp x (fun _ _ => True) (fun _ => True) w := by
  unfold wp
  split <;> trivial

theorem wp_discard (x : Exec β) (Q : Unit → World → Prop) :
    wp (discard x) Q E w = wp x (fun _ => Q ()) E w := by
  show wp (EStateM.map (fun _ => ()) x) Q E w = _
  unfold EStateM.map wp
  cases h : x w <;> simp only [h]

/-! ## Primitives -/

@[simp] theorem wp_getManager (Q : TrafficDirectorManager → World → Prop) :
    wp getManager Q E w = Q w.manager w := rfl

@[simp] theorem wp_modifyManager (Q : Unit → World → Prop)
    (f : TrafficDirectorManager → TrafficDirectorManager) :
    wp (modifyManager f) Q E w = Q () { w with manager := f w.manager } := rfl

@[simp] theorem wp_storeSlot (Q : Unit → World → Prop) (slot : Slot) (value : Option GcpResource) :
    wp (storeSlot slot value) Q E w = Q () { w with manager := w.manager.setSlot slot value } :=
  rfl

@[simp] theorem wp_attr_some (a : α) (field : String) : wp (attr (some a) field) Q E w = Q a w :=
  rfl

theorem wp_issue (Q : Unit → World → Prop) (call : Call) :
    wp (issue call) Q E w =
      if w.nextFails then E (w.record call) else Q () (w.record call) := by
  unfold wp issue
  cases w.nextFails <;> rfl

theorem wp_remoteCreate (Q : GcpResource → World → Prop) (collection : Collection)
    (name : String) (args : CreateArgs) :
    wp (remoteCreate collection name args) Q E w =
      if w.nextFails then E (w.record (.create collection name args))
      else Q (collection.handle name) { w.record (.create collection name args) with
        remote := insert (collection, name) w.remote } := by
  simp only [remoteCreate, wp_bind, wp_issue]
  rfl

theorem wp_remoteDelete (Q : Unit → World → Prop) (collection : Collection) (name : String) :
    wp (remoteDelete collection name) Q E w =
      if w.nextFails then E (w.record (.delete collection name))
      else Q () { w.record (.delete collection name) with
        remote := w.remote.erase (collection, name) } := by
  simp only [remoteDelete, wp_bind, wp_issue]
  rfl

theorem wp_remoteGet (Q : GcpResource → World → Prop) (collection : Collection) (name : String) :
    wp (remoteGet collection name) Q E w =
      if w.nextFails then E (w.record (.get collection name))
      else if (collection, name) ∈ w.remote then
        Q (collection.handle name) (w.record (.get collection name))
      else E (w.record (.get collection name)) := by
  simp only [remoteGet, wp_bind, wp_issue]
  split
  · rfl
  · show wp (if (collection, name) ∈ (w.record _).remote then _ else _) Q E _ = _
    simp only [wp_ite, World.record_remote]
    rfl

theorem wp_remoteCreateUrlMap (Q : GcpResource → World → Prop) (body : Json) :
    wp (remoteCreateUrlMap body) Q E w = match body.getStr? "name" with
      | some name => wp (remoteCreate .urlMaps name (.urlMap body)) Q E w
      | none => E (w.record (.create .urlMaps "" (.urlMap body))) := by
  unfold remoteCreateUrlMap
  cases body.getStr? "name" with
  | some name => rfl
  | none =>
    rw [wp_bind, wp_issue]
    split <;> rfl

/-- `_delete_firewall_rule` turns a failed deletion into `False`. -/
theorem wp__deleteFirewallRule (Q : Bool → World → Prop) (name : String) :
    wp (TrafficDirectorManager._deleteFirewallRule name) Q E w =
      if w.nextFails then Q false (w.record (.delete .firewalls name))
      else Q true { w.record (.delete .firewalls name) with
        remote := w.remote.erase (.firewalls, name) } := by
  unfold TrafficDirectorManager._deleteFirewallRule
  show wp (EStateM.tryCatch _ _) Q E w = _
  unfold wp EStateM.tryCatch
  simp only [bind, EStateM.bind, remoteDelete, issue]
  cases w.nextFails <;> rfl

end Wp

section Results

variable {x : Exec α} {Q : α → World → Prop} {E : World → Prop} {w w' : World}

theorem wp_of_ok {a : α} (hx : x w = .ok a w') (h : wp x Q E w) : Q a w' := by
  unfold wp at h
  rwa [hx] at h

theorem wp_of_error {e : Error} (hx : x w = .error e w') (h : wp x Q E w) : E w' := by
  unfold wp at h
  rwa [hx] at h

/-- A program whose exceptional postcondition is `False` returns. -/
theorem ok_of_wp (h : wp x Q (fun _ => False) w) : ∃ a w', x w = .ok a w' ∧ Q a w' := by
  unfold wp at h
  split at h
  · exact ⟨_, _, ‹_›, h⟩
  · exact h.elim

/-- A method returning `()` that cannot raise returns, in a world satisfying its postcondition. -/
theorem ok_unit_of_wp {x : Exec Unit} {P : World → Prop} (h : wp x (fun _ => P) (fun _ => False) w) :
    ∃ w', x w = .ok () w' ∧ P w' := by
  obtain ⟨⟨⟩, w', hx, hP⟩ := ok_of_wp h
  exact ⟨w', hx, hP⟩

/-- A method that cannot raise and whose postcondition fixes its result returns that result. -/
theorem ok_of_wp_eq {a₀ : α} {P : World → Prop}
    (h : wp x (fun a w' => a = a₀ ∧ P w') (fun _ => False) w) : ∃ w', x w = .ok a₀ w' ∧ P w' := by
  obtain ⟨_, w', hx, rfl, hP⟩ := ok_of_wp h
  exact ⟨w', hx, hP⟩

theorem wp_and {Q' : α → World → Prop} {E' : World → Prop} (h : wp x Q E w)
    (h' : wp x Q' E' w) : wp x (fun a w' => Q a w' ∧ Q' a w') (fun w' => E w' ∧ E' w') w := by
  unfold wp at *
  split at h <;> simp_all

end Results

/-! ## Invariants of programs -/

/-- `x` keeps `I` from every world satisfying `P` and `I`. -/
def Keeps (P I : World → Prop) (x : Exec α) : Prop := ∀ w, P w → I w → wp x (fun _ => I) I w

namespace Keeps

variable {P I : World → Prop}

theorem finalWorld {x : Exec α} (h : Keeps P I x) {w : World} (hP : P w) (hI : I w) :
    I (finalWorld x w) :=
  (wp_finalWorld w x I).1 (h w hP hI)

/-- A sequence keeps an invariant when both parts do, the second from every world the first
returns in. -/
theorem bind {x : Exec β} {f : β → Exec α} (hx : Keeps P I x)
    (hf : ∀ b, Keeps (fun _ => True) I (f b)) : Keeps P I (x >>= f) := fun w hP hI => by
  rw [wp_bind]
  exact wp_mono _ _ w (fun b w' h => hf b w' trivial h) (fun _ h => h) (hx w hP hI)

theorem weaken {x : Exec α} {P' : World → Prop} (h : Keeps P I x) (hP : ∀ w, P' w → P w) :
    Keeps P' I x := fun w hP' hI => h w (hP w hP') hI

/-- An invariant kept from every world is kept under any precondition. -/
theorem any {x : Exec α} {P' : World → Prop} (h : Keeps (fun _ => True) I x) : Keeps P' I x :=
  h.weaken fun _ _ => trivial

theorem and {x : Exec α} {J : World → Prop} (hI : Keeps P I x) (hJ : Keeps P J x) :
    Keeps P (fun w => I w ∧ J w) x := fun w hP h =>
  wp_and (hI w hP h.1) (hJ w hP h.2)

theorem discard {x : Exec α} (h : Keeps P I x) : Keeps P I (discard x) := fun w hP hI => by
  rw [wp_discard]
  exact h w hP hI

end Keeps

end TrafficDirector
