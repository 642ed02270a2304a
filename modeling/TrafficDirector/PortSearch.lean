import TrafficDirector.Model.State

/-!
# TrafficDirector — the bounded free-port search

`TrafficDirectorManager.find_unused_forwarding_rule_port` samples candidate ports with
`random.randint(lo, hi)` and asks the compute gateway whether a forwarding rule already uses
each one:

```
for _ in range(attempts):
    src_port = random.randint(lo, hi)
    if not self.compute.exists_forwarding_rule(src_port):
        return src_port
raise RuntimeError("Couldn't find unused forwarding rule port")
```

Both collaborators are external. The `i`-th value `random.randint(lo, hi)` returns is
`randint lo hi i`, whose contract is `lo ≤ randint lo hi i ≤ hi`; `existsForwardingRule` is
the gateway's answer. The search reads and writes no slot, so the manager runs leave it out.

## Results

* `probePorts_spec` — the loop probes a prefix of the draws and stops at the first port reported
  unused, or probes all of them.
* `findUnusedForwardingRulePort_sound_bounded` — the headline: at most `attempts` probes, each
  within `[lo, hi]`; the result is the first sampled port reported unused, and `RuntimeError` is
  raised exactly when all `attempts` sampled ports were reported in use, after exactly `attempts`
  probes.
-/

namespace TrafficDirector

/-! ## The loop -/

/-- The `for _ in range(n)` loop from the `i`-th draw: the ports it probed, and the first one
reported unused if it found one. -/
def probePorts (draw : Nat → Int) (existsForwardingRule : Int → Bool) :
    Nat → Nat → List Int × Option Int
  | _, 0 => ([], none)
  | i, n + 1 =>
    let srcPort := draw i
    if !existsForwardingRule srcPort then ([srcPort], some srcPort)
    else
      let rest := probePorts draw existsForwardingRule (i + 1) n
      (srcPort :: rest.1, rest.2)

namespace TrafficDirectorManager

/-- `find_unused_forwarding_rule_port(lo=1024, hi=65535, attempts=25)`: the ports probed and
the port returned, or the `RuntimeError`. `range(attempts)` is empty for a negative count. -/
def findUnusedForwardingRulePort (randint : Int → Int → Nat → Int)
    (existsForwardingRule : Int → Bool) (lo : Int := 1024) (hi : Int := 65535)
    (attempts : Int := 25) : List Int × Except Error Int :=
  let probe := probePorts (randint lo hi) existsForwardingRule 0 attempts.toNat
  (probe.1, match probe.2 with
    | some srcPort => .ok srcPort
    | none => .error (.runtimeError "Couldn't find unused forwarding rule port"))

end TrafficDirectorManager

/-! ## What the loop does -/

/-- The loop from draw `i` with `n` iterations either finds the first port reported unused at
some draw `i + k`, having probed draws `i … i + k`, or probes all `n` draws and finds none. -/
theorem probePorts_spec (draw : Nat → Int) (existsForwardingRule : Int → Bool) (i n : Nat) :
    (∃ k < n, probePorts draw existsForwardingRule i n =
        ((List.range (k + 1)).map (fun j => draw (i + j)), some (draw (i + k))) ∧
      existsForwardingRule (draw (i + k)) = false ∧
      ∀ j < k, existsForwardingRule (draw (i + j)) = true) ∨
    (probePorts draw existsForwardingRule i n =
        ((List.range n).map (fun j => draw (i + j)), none) ∧
      ∀ j < n, existsForwardingRule (draw (i + j)) = true) := by
  induction n generalizing i with
  | zero => exact .inr ⟨rfl, fun j hj => absurd hj (Nat.not_lt_zero j)⟩
  | succ n ih =>
    cases hfree : existsForwardingRule (draw i)
    · -- the first draw is reported unused
      refine .inl ⟨0, Nat.succ_pos n, ?_, by simpa using hfree, fun j hj => absurd hj (Nat.not_lt_zero j)⟩
      simp [probePorts, hfree, List.range_succ]
    · rcases ih (i + 1) with ⟨k, hk, heq, hunused, hused⟩ | ⟨heq, hused⟩
      · refine .inl ⟨k + 1, Nat.succ_lt_succ hk, ?_, by simpa [Nat.add_assoc, Nat.add_comm 1 k]
          using hunused, ?_⟩
        · simp only [probePorts, hfree, Bool.not_true, heq]
          simp [List.range_succ_eq_map, Nat.add_assoc, Nat.add_comm 1]
        · intro j hj
          cases j with
          | zero => simpa using hfree
          | succ j => simpa [Nat.add_assoc, Nat.add_comm 1 j] using hused j (by omega)
      · refine .inr ⟨?_, ?_⟩
        · simp only [probePorts, hfree, Bool.not_true, heq]
          simp [List.range_succ_eq_map, Nat.add_assoc, Nat.add_comm 1]
        · intro j hj
          cases j with
          | zero => simpa using hfree
          | succ j => simpa [Nat.add_assoc, Nat.add_comm 1 j] using hused j (by omega)

open TrafficDirectorManager in
/-- **The free-port search is sound and bounded.** For every range, every attempt budget, every
sequence of `random.randint(lo, hi)` values (each within `[lo, hi]`) and every answer of
`exists_forwarding_rule`: either the search returns the first sampled port reported unused,
after probing exactly the draws up to it (fewer than `attempts`), or it raises `RuntimeError`
after probing exactly `attempts` ports, all reported in use. Every probed port lies in
`[lo, hi]`, and the error is raised exactly when all `attempts` draws are reported in use. -/
theorem findUnusedForwardingRulePort_sound_bounded (randint : Int → Int → Nat → Int)
    (existsForwardingRule : Int → Bool) (lo hi attempts : Int)
    (hrandint : ∀ i, lo ≤ randint lo hi i ∧ randint lo hi i ≤ hi) :
    (let search := findUnusedForwardingRulePort randint existsForwardingRule lo hi attempts
    search.1.length ≤ attempts.toNat ∧ (∀ p ∈ search.1, lo ≤ p ∧ p ≤ hi) ∧
    ((∃ k < attempts.toNat, search.1 = (List.range (k + 1)).map (randint lo hi) ∧
        search.2 = .ok (randint lo hi k) ∧ existsForwardingRule (randint lo hi k) = false ∧
        ∀ j < k, existsForwardingRule (randint lo hi j) = true) ∨
      (search.1 = (List.range attempts.toNat).map (randint lo hi) ∧
        search.2 = .error (.runtimeError "Couldn't find unused forwarding rule port") ∧
        ∀ j < attempts.toNat, existsForwardingRule (randint lo hi j) = true)) ∧
    ((∃ e, search.2 = .error e) ↔ ∀ j < attempts.toNat, existsForwardingRule (randint lo hi j) = true)) := by
  intro search
  have hprobes : ∀ p ∈ search.1, lo ≤ p ∧ p ≤ hi := by
    intro p hp
    rcases probePorts_spec (randint lo hi) existsForwardingRule 0 attempts.toNat with
      ⟨k, -, heq, -⟩ | ⟨heq, -⟩ <;>
    · simp only [search, findUnusedForwardingRulePort, heq, List.mem_map, List.mem_range,
        Nat.zero_add] at hp
      obtain ⟨j, -, rfl⟩ := hp
      exact hrandint j
  rcases probePorts_spec (randint lo hi) existsForwardingRule 0 attempts.toNat with
    ⟨k, hk, heq, hunused, hused⟩ | ⟨heq, hused⟩
  · simp only [Nat.zero_add] at heq hunused hused
    have hsearch : search = ((List.range (k + 1)).map (randint lo hi), .ok (randint lo hi k)) := by
      simp [search, findUnusedForwardingRulePort, heq]
    refine ⟨by simp [hsearch]; omega, hprobes, .inl ⟨k, hk, by rw [hsearch], by rw [hsearch],
      hunused, hused⟩, ?_⟩
    rw [hsearch]
    refine ⟨fun ⟨_, he⟩ => Except.noConfusion he, fun hall => ?_⟩
    exact absurd (hall k hk) (by simp [hunused])
  · simp only [Nat.zero_add] at heq hused
    have hsearch : search = ((List.range attempts.toNat).map (randint lo hi),
        .error (.runtimeError "Couldn't find unused forwarding rule port")) := by
      simp [search, findUnusedForwardingRulePort, heq]
    refine ⟨by simp [hsearch], hprobes, .inr ⟨by rw [hsearch], by rw [hsearch], hused⟩, ?_⟩
    rw [hsearch]
    exact ⟨fun _ => hused, fun _ => ⟨_, rfl⟩⟩

open TrafficDirectorManager in
theorem findUnusedForwardingRulePort_sound_bounded_sequential :
    (∀ i : Nat, (1024 : Int) ≤ min ((1024 : Int) + i) 65535 ∧ min ((1024 : Int) + i) 65535 ≤ 65535) ∧
    (findUnusedForwardingRulePort (fun lo hi i => min (lo + i) hi) (fun p => p < 1030)
      1024 65535 25).1.length ≤ (25 : Int).toNat :=
  have hrandint : ∀ i : Nat, (1024 : Int) ≤ min ((1024 : Int) + i) 65535 ∧
      min ((1024 : Int) + i) 65535 ≤ 65535 := fun i => ⟨by omega, by omega⟩
  ⟨hrandint, (findUnusedForwardingRulePort_sound_bounded (fun lo hi i => min (lo + i) hi)
    (fun p => p < 1030) 1024 65535 25 hrandint).1⟩

end TrafficDirector
