import TrafficDirector.Model.Ops

/-!
# TrafficDirector — several managers in one project

The interop framework runs test cases side by side in one GCP project: each builds its own
manager (`TrafficDirectorManager` or a subclass) with its own `resource_prefix` and
`resource_suffix`, and nothing but the names keeps their resources apart. A `Project` holds each
manager's attributes and what the managers share: the remote resources, the gateway calls issued
so far, and the environment's failures.

A step is one public method call of one manager, run against the shared remote, returning or
raising; the calls of different managers interleave in any order. `Project.Reachable allowed`
is the set of projects such interleavings reach when every call satisfies `allowed` in the world
of the manager that makes it; `Project.run` is one interleaving, given as the list of calls with
the index of the manager making each.
-/

namespace TrafficDirector

/-- Managers indexed by `ι` in one project, with the remote, the call log and the failures
they share. -/
structure Project (ι : Type) where
  managers : ι → TrafficDirectorManager
  remote : Finset (Collection × String)
  calls : List Call
  fault : Nat → Bool

namespace Project

variable {ι : Type} [DecidableEq ι]

/-- The project right after the managers are constructed, over a remote `remote`. -/
def init (managers : ι → TrafficDirectorManager) (remote : Finset (Collection × String))
    (fault : Nat → Bool) : Project ι :=
  ⟨managers, remote, [], fault⟩

/-- What manager `i` works on: its own attributes and the shared project. -/
def view (P : Project ι) (i : ι) : World := ⟨P.managers i, P.remote, P.calls, P.fault⟩

/-- Manager `i` makes the call `op`; the other managers' attributes are untouched. -/
def step (P : Project ι) (i : ι) (op : Op) : Project ι :=
  let w := finalWorld op.run (P.view i)
  ⟨Function.update P.managers i w.manager, w.remote, w.calls, w.fault⟩

/-- The caller sees the world its call left. -/
@[simp] theorem view_step_self (P : Project ι) (i : ι) (op : Op) :
    (P.step i op).view i = finalWorld op.run (P.view i) := by
  simp [step, view]

/-- Another manager sees its own attributes in the project the call left. -/
theorem view_step_ne (P : Project ι) {i j : ι} (h : j ≠ i) (op : Op) :
    (P.step i op).view j = { finalWorld op.run (P.view i) with manager := P.managers j } := by
  simp [step, view, Function.update_noteq h]

@[simp] theorem step_managers_ne (P : Project ι) {i j : ι} (h : j ≠ i) (op : Op) :
    (P.step i op).managers j = P.managers j :=
  Function.update_noteq h _ _

@[simp] theorem step_remote (P : Project ι) (i : ι) (op : Op) :
    (P.step i op).remote = (finalWorld op.run (P.view i)).remote := rfl

/-- The project after the calls `tr`, in order, each with the index of the manager making it. -/
def run (P : Project ι) (tr : List (ι × Op)) : Project ι :=
  tr.foldl (fun P c => P.step c.1 c.2) P

/-- The calls manager `i` makes in `tr`, in order. -/
def callsOf (i : ι) (tr : List (ι × Op)) : List Op :=
  tr.filterMap fun c => if c.1 = i then some c.2 else none

@[simp] theorem run_nil (P : Project ι) : P.run [] = P := rfl

@[simp] theorem run_cons (P : Project ι) (i : ι) (op : Op) (tr : List (ι × Op)) :
    P.run ((i, op) :: tr) = (P.step i op).run tr := rfl

@[simp] theorem callsOf_nil (i : ι) : callsOf i ([] : List (ι × Op)) = [] := rfl

theorem callsOf_cons (i j : ι) (op : Op) (tr : List (ι × Op)) :
    callsOf i ((j, op) :: tr) = if j = i then op :: callsOf i tr else callsOf i tr := by
  by_cases h : j = i <;> simp [callsOf, h]

/-- The projects reached from `P₀` by interleaving calls of its managers, each call `allowed` in
the world of the manager that makes it. -/
inductive Reachable (allowed : World → Op → Prop) (P₀ : Project ι) : Project ι → Prop
  | init : Reachable allowed P₀ P₀
  | step {P : Project ι} (i : ι) (op : Op) : Reachable allowed P₀ P → allowed (P.view i) op →
      Reachable allowed P₀ (P.step i op)

end Project

end TrafficDirector
