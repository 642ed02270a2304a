import Mathlib.Data.List.Infix

/-!
# TrafficDirector — deterministic resource naming

`TrafficDirectorManager.make_resource_name` (`traffic_director.py`) is the only source of
resource identity: every create call and every `force` delete recomputes a name from the naming
tuple `(resource_prefix, base name, resource_suffix)`,

```
parts = [self.resource_prefix, name]
if self.resource_suffix:
    parts.append(self.resource_suffix)
return "-".join(parts)
```

The base names are the class constants of `TrafficDirectorManager`,
`TrafficDirectorAppNetManager` and `TrafficDirectorSecureManager`.

## Results

* `ResourceNaming.makeResourceName_eq` — the name is `prefix-name` followed by `-suffix` for a
  non-empty suffix only: no trailing separator.
* `ResourceNaming.makeResourceName_inj` — one manager gives different base names different
  names, whatever its prefix and suffix.
* `makeResourceName_identifies_owner` — across managers with non-empty dash-free suffixes, the
  name determines the prefix, the suffix and the base-name constant. The crux is the table fact
  `no_base_name_is_dash_tail`: no constant is a `-`-separated tail of another.
-/

namespace TrafficDirector

/-! ## The base-name constants -/

namespace TrafficDirectorManager

def backendServiceName : String := "backend-service"
def affinityBackendServiceName : String := "backend-service-affinity"
def alternativeBackendServiceName : String := "backend-service-alt"
def urlMapName : String := "url-map"
def alternativeUrlMapName : String := "url-map-alt"
def urlMapPathMatcherName : String := "path-matcher"
def targetProxyName : String := "target-proxy"
def targetProxyNameIpv6 : String := "target-proxy-ipv6"
def alternativeTargetProxyName : String := "target-proxy-alt"
def forwardingRuleName : String := "forwarding-rule"
def forwardingRuleNameIpv6 : String := "forwarding-rule-ipv6"
def alternativeForwardingRuleName : String := "forwarding-rule-alt"
def healthCheckName : String := "health-check"
def firewallRuleName : String := "allow-health-checks"
def firewallRuleNameIpv6 : String := "allow-health-checks-ipv6"

end TrafficDirectorManager

namespace TrafficDirectorAppNetManager

def grpcRouteName : String := "grpc-route"
def httpRouteName : String := "http-route"
def meshName : String := "mesh"

end TrafficDirectorAppNetManager

namespace TrafficDirectorSecureManager

def serverTlsPolicyName : String := "server-tls-policy"
def clientTlsPolicyName : String := "client-tls-policy"
def authzPolicyName : String := "authz-policy"
def endpointPolicy : String := "endpoint-policy"

end TrafficDirectorSecureManager

open TrafficDirectorManager TrafficDirectorAppNetManager TrafficDirectorSecureManager in
/-- The base-name constants of the three manager classes, in source order: from
`BACKEND_SERVICE_NAME` to `FIREWALL_RULE_NAME_IPV6`, the route and mesh names, and from
`SERVER_TLS_POLICY_NAME` to `ENDPOINT_POLICY`. -/
def baseNames : List String :=
  [backendServiceName, affinityBackendServiceName, alternativeBackendServiceName, urlMapName,
    alternativeUrlMapName, urlMapPathMatcherName, targetProxyName, targetProxyNameIpv6,
    alternativeTargetProxyName, forwardingRuleName, forwardingRuleNameIpv6,
    alternativeForwardingRuleName, healthCheckName, firewallRuleName, firewallRuleNameIpv6,
    grpcRouteName, httpRouteName, meshName, serverTlsPolicyName, clientTlsPolicyName,
    authzPolicyName, endpointPolicy]

/-! ## `make_resource_name` -/

/-- The naming tuple a manager reads in `make_resource_name`. The subclasses accept a `None`
suffix, which is falsy exactly like `""`. -/
structure ResourceNaming where
  resourcePrefix : String
  resourceSuffix : Option String
  deriving DecidableEq, Repr

namespace ResourceNaming

/-- `make_resource_name`: dash-join the prefix and the base name, and the suffix when it is
truthy ("Avoid trailing dash when the suffix is empty"). The source memoises it with
`functools.lru_cache`, which a pure function does not need. -/
def makeResourceName (naming : ResourceNaming) (name : String) : String :=
  let parts := [naming.resourcePrefix, name]
  let parts := match naming.resourceSuffix with
    | some suffix => if suffix ≠ "" then parts ++ [suffix] else parts
    | none => parts
  "-".intercalate parts

/-- What `make_resource_name` appends after the base name: `-suffix`, or nothing. -/
def suffixPart (naming : ResourceNaming) : String :=
  match naming.resourceSuffix with
  | some suffix => if suffix ≠ "" then "-" ++ suffix else ""
  | none => ""

theorem makeResourceName_eq (naming : ResourceNaming) (name : String) :
    naming.makeResourceName name = naming.resourcePrefix ++ "-" ++ name ++ naming.suffixPart := by
  rcases naming with ⟨p, _ | s⟩
  · simp [makeResourceName, suffixPart, String.intercalate, String.intercalate.go]
  · by_cases hs : s = ""
    · simp [makeResourceName, suffixPart, hs, String.intercalate, String.intercalate.go]
    · simp [makeResourceName, suffixPart, hs, String.intercalate, String.intercalate.go,
        String.append_assoc]

/-- The characters of a resource name: prefix, separator, base name, suffix part. -/
theorem makeResourceName_data (naming : ResourceNaming) (name : String) :
    (naming.makeResourceName name).data =
      naming.resourcePrefix.data ++ '-' :: (name.data ++ naming.suffixPart.data) := by
  simp [makeResourceName_eq, String.data_append, List.append_assoc]

/-- One manager names different base names differently: the prefix and the suffix part are
shared, so they cancel. -/
theorem makeResourceName_inj (naming : ResourceNaming) {name₁ name₂ : String}
    (h : naming.makeResourceName name₁ = naming.makeResourceName name₂) : name₁ = name₂ := by
  have hd := congrArg String.data h
  simp only [makeResourceName_data, List.append_cancel_left_eq, List.cons.injEq, true_and,
    List.append_cancel_right_eq] at hd
  exact String.ext hd

end ResourceNaming

/-! ## Names across managers -/

/-- Splitting at the last separator: if `c` occurs in neither tail, the tails and the heads agree. -/
theorem append_cons_eq_of_not_mem {α : Type} {l₁ l₂ r₁ r₂ : List α} {c : α}
    (h₁ : c ∉ r₁) (h₂ : c ∉ r₂) (h : l₁ ++ c :: r₁ = l₂ ++ c :: r₂) : l₁ = l₂ ∧ r₁ = r₂ := by
  rcases List.append_eq_append_iff.mp h with ⟨a, rfl, ha⟩ | ⟨a, rfl, ha⟩
  · cases a with
    | nil => simp_all
    | cons x a =>
      simp only [List.cons_append, List.cons.injEq] at ha
      exact absurd (ha.2 ▸ List.mem_append_right a (List.mem_cons_self c r₂)) h₁
  · cases a with
    | nil => simp_all
    | cons x a =>
      simp only [List.cons_append, List.cons.injEq] at ha
      exact absurd (ha.2 ▸ List.mem_append_right a (List.mem_cons_self c r₁)) h₂

/-- No base-name constant is a `-`-separated tail of another one (`url-map` is not a tail of
`url-map-alt`, whose tail is `alt`). -/
theorem no_base_name_is_dash_tail :
    ∀ x ∈ baseNames, ∀ y ∈ baseNames, ¬ ('-' :: y.data) <:+ x.data := by
  decide

/-- `p₁-b₁ = p₂-b₂` for base-name constants `b₁`, `b₂` forces `p₁ = p₂` and `b₁ = b₂`,
whatever dashes the prefixes hold. -/
theorem dash_base_name_eq {p₁ p₂ : List Char} {b₁ b₂ : String}
    (hb₁ : b₁ ∈ baseNames) (hb₂ : b₂ ∈ baseNames)
    (h : p₁ ++ '-' :: b₁.data = p₂ ++ '-' :: b₂.data) : p₁ = p₂ ∧ b₁ = b₂ := by
  rcases List.append_eq_append_iff.mp h with ⟨a, rfl, ha⟩ | ⟨a, rfl, ha⟩
  · cases a with
    | nil => simp_all [String.ext_iff]
    | cons x a =>
      simp only [List.cons_append, List.cons.injEq] at ha
      exact absurd ⟨a, ha.2.symm⟩ (no_base_name_is_dash_tail b₁ hb₁ b₂ hb₂)
  · cases a with
    | nil => simp_all [String.ext_iff]
    | cons x a =>
      simp only [List.cons_append, List.cons.injEq] at ha
      exact absurd ⟨a, ha.2.symm⟩ (no_base_name_is_dash_tail b₂ hb₂ b₁ hb₁)

/-- **Resource names identify their owner.** For managers whose suffixes are non-empty and
dash-free, the name `make_resource_name` builds from a base-name constant determines the
prefix, the suffix and the constant. So a `force` delete of one manager never targets a resource
named by another manager or for another kind. -/
theorem makeResourceName_identifies_owner {n₁ n₂ : ResourceNaming} {s₁ s₂ b₁ b₂ : String}
    (hs₁ : n₁.resourceSuffix = some s₁) (hs₂ : n₂.resourceSuffix = some s₂)
    (hne₁ : s₁ ≠ "") (hne₂ : s₂ ≠ "") (hd₁ : '-' ∉ s₁.data) (hd₂ : '-' ∉ s₂.data)
    (hb₁ : b₁ ∈ baseNames) (hb₂ : b₂ ∈ baseNames)
    (h : n₁.makeResourceName b₁ = n₂.makeResourceName b₂) :
    n₁.resourcePrefix = n₂.resourcePrefix ∧ s₁ = s₂ ∧ b₁ = b₂ := by
  have hd := congrArg String.data h
  simp only [ResourceNaming.makeResourceName_data, ResourceNaming.suffixPart, hs₁, hs₂, hne₁,
    hne₂, ne_eq, not_false_eq_true, if_true, String.data_append] at hd
  -- the suffix is what follows the last dash
  have hsplit : (n₁.resourcePrefix.data ++ '-' :: b₁.data) ++ '-' :: s₁.data =
      (n₂.resourcePrefix.data ++ '-' :: b₂.data) ++ '-' :: s₂.data := by
    simpa only [List.append_assoc, List.cons_append] using hd
  obtain ⟨hhead, hsuffix⟩ := append_cons_eq_of_not_mem hd₁ hd₂ hsplit
  obtain ⟨hpre, hbase⟩ := dash_base_name_eq hb₁ hb₂ hhead
  exact ⟨String.ext hpre, String.ext hsuffix, hbase⟩

theorem makeResourceName_identifies_owner_mesh :
    ({ resourcePrefix := "psm", resourceSuffix := some "a1" } : ResourceNaming).resourcePrefix =
        ({ resourcePrefix := "psm", resourceSuffix := some "a1" } : ResourceNaming).resourcePrefix ∧
      "a1" = "a1" ∧ TrafficDirectorAppNetManager.meshName = TrafficDirectorAppNetManager.meshName :=
  makeResourceName_identifies_owner rfl rfl (by decide) (by decide) (by decide) (by decide)
    (by decide) (by decide) rfl

/-! ## The names a manager builds -/

namespace ResourceNaming

/-- A name the manager builds: `make_resource_name` of one of the base-name constants. -/
def Names (naming : ResourceNaming) (name : String) : Prop :=
  ∃ b ∈ baseNames, name = naming.makeResourceName b

instance (naming : ResourceNaming) : DecidablePred naming.Names := fun name =>
  inferInstanceAs (Decidable (∃ b ∈ baseNames, name = naming.makeResourceName b))

theorem names_makeResourceName (naming : ResourceNaming) {b : String} (hb : b ∈ baseNames) :
    naming.Names (naming.makeResourceName b) :=
  ⟨b, hb, rfl⟩

/-- A suffix that keeps names apart: non-empty, with no dash. -/
def DashFreeSuffix (naming : ResourceNaming) : Prop :=
  ∃ s, naming.resourceSuffix = some s ∧ s ≠ "" ∧ '-' ∉ s.data

end ResourceNaming

/-- Two naming tuples with dash-free suffixes that build one name from base-name constants are
equal: the suffix is what follows the last dash, and the prefix what precedes the constant. -/
theorem naming_eq_of_makeResourceName_eq {n₁ n₂ : ResourceNaming} (h₁ : n₁.DashFreeSuffix)
    (h₂ : n₂.DashFreeSuffix) {b₁ b₂ : String} (hb₁ : b₁ ∈ baseNames) (hb₂ : b₂ ∈ baseNames)
    (h : n₁.makeResourceName b₁ = n₂.makeResourceName b₂) : n₁ = n₂ := by
  obtain ⟨s₁, hs₁, hne₁, hd₁⟩ := h₁
  obtain ⟨s₂, hs₂, hne₂, hd₂⟩ := h₂
  have hd := congrArg String.data h
  simp only [ResourceNaming.makeResourceName_data, ResourceNaming.suffixPart, hs₁, hs₂, hne₁,
    hne₂, ne_eq, not_false_eq_true, if_true, String.data_append] at hd
  have hsplit : (n₁.resourcePrefix.data ++ '-' :: b₁.data) ++ '-' :: s₁.data =
      (n₂.resourcePrefix.data ++ '-' :: b₂.data) ++ '-' :: s₂.data := by
    simpa only [List.append_assoc, List.cons_append] using hd
  obtain ⟨hhead, hsuffix⟩ := append_cons_eq_of_not_mem hd₁ hd₂ hsplit
  obtain ⟨hpre, -⟩ := dash_base_name_eq hb₁ hb₂ hhead
  cases n₁
  cases n₂
  cases hs₁
  cases hs₂
  simp only at hpre
  rw [String.ext hpre, String.ext hsuffix]

/-- **Two managers build no common name** when their suffixes are dash-free and their naming
tuples differ. -/
theorem ResourceNaming.Names.disjoint {n₁ n₂ : ResourceNaming} (h₁ : n₁.DashFreeSuffix)
    (h₂ : n₂.DashFreeSuffix) (hne : n₁ ≠ n₂) {name : String} (hn₁ : n₁.Names name) :
    ¬ n₂.Names name := by
  rintro ⟨b₂, hb₂, rfl⟩
  obtain ⟨b₁, hb₁, h⟩ := hn₁
  exact hne (naming_eq_of_makeResourceName_eq h₁ h₂ hb₁ hb₂ h.symm)

end TrafficDirector
