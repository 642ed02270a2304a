import TrafficDirector.Proofs.Dependencies
import TrafficDirector.Proofs.Registry

/-!
# TrafficDirector — the URL maps the manager sends route to the backend service it means

`_generate_url_map_body` builds every URL-map body the manager sends, for `create_url_map`,
`create_alternative_url_map` and `patch_url_map`: a default service, one host rule listing the
source address, and one path matcher that host rule names. What such a body means is how the
load balancer routes a request by its host: through the first host rule listing the host to the
path matcher it names, or else to the map's own default service. `UrlMap.route` is that meaning
for maps with no path rules, the only ones the manager builds, and `UrlMap.WellFormed` what a
body needs for the routing to be defined everywhere.

* `UrlMap.route_generateUrlMapBody` — a generated body routes a request for a listed host to the
  host-rule backend service and any other to the default one;
* **`urlMaps_route_to_live_backend_services`** — on every allowed run with no failing call,
  `create_url_map` and `create_alternative_url_map` return the map they store, and its body is
  named by the manager, well formed, and routes every request to the backend service the method
  means, which exists on the remote when it comes from the manager's slot; `patch_url_map`
  sends a body routing every request to the backend service it is given.
-/

namespace TrafficDirector

open TrafficDirectorManager

/-! ## What a URL map body means -/

/-- The elements of the JSON array under `key` of an object; none if there is none. -/
def Json.getArr (key : String) : Json → List Json
  | .obj fields =>
    match fields.lookup key with
    | some (.arr elems) => elems
    | _ => []
  | _ => []

/-- The string a JSON value is, if it is one. -/
def Json.asStr? : Json → Option String
  | .str s => some s
  | _ => none

namespace UrlMap

/-- A host rule lists `host` among its `hosts`. -/
def listsHost (host : String) (hostRule : Json) : Bool :=
  (hostRule.getArr "hosts").any fun h => h.asStr? == some host

/-- The path matcher of `body` a host rule names: the first of that name. -/
def matcherOf (body hostRule : Json) : Option Json := do
  let matcher ← hostRule.getStr? "pathMatcher"
  (body.getArr "pathMatchers").find? fun pathMatcher => pathMatcher.getStr? "name" == some matcher

/-- The backend service URL the load balancer sends a request for `host` to, under a URL map
with no path rules: the `defaultService` of the path matcher of the first host rule listing
`host`, or else the map's own `defaultService`; `none` where the body leaves it undefined. -/
def route (body : Json) (host : String) : Option String :=
  match (body.getArr "hostRules").find? (listsHost host) with
  | some hostRule => (matcherOf body hostRule).bind (Json.getStr? "defaultService")
  | none => body.getStr? "defaultService"

/-- A URL-map body with a name and a default service, each of whose host rules names a path
matcher of the body that has a default service. -/
def WellFormed (body : Json) : Prop :=
  (body.getStr? "name").isSome ∧ (body.getStr? "defaultService").isSome ∧
    ∀ hostRule ∈ body.getArr "hostRules",
      ((matcherOf body hostRule).bind (Json.getStr? "defaultService")).isSome

instance : DecidablePred WellFormed := fun _ => inferInstanceAs (Decidable (_ ∧ _ ∧ _))

/-- A well-formed URL map routes every request somewhere. -/
theorem WellFormed.route_isSome {body : Json} (h : WellFormed body) (host : String) :
    (route body host).isSome := by
  unfold route
  split
  · next hostRule hfind => exact h.2.2 hostRule (List.mem_of_find?_eq_some hfind)
  · exact h.2.1

theorem any_map_str (hosts : List String) (host : String) :
    ((hosts.map Json.str).any fun h => h.asStr? == some host) = decide (host ∈ hosts) := by
  induction hosts with
  | nil => rfl
  | cons h hosts ih =>
    rw [List.map_cons, List.any_cons, ih]
    by_cases e : host = h
    · simp [Json.asStr?, e]
    · simp [Json.asStr?, e, Ne.symm e]

variable (name matcherName : String) (srcHosts : List String) (dstDefaultBackendService : GcpResource)
  (dstHostRuleMatchBackendService : Option GcpResource)

/-! The fields of a generated body. -/

@[simp] theorem getStr_defaultService_generateUrlMapBody :
    (_generateUrlMapBody name matcherName srcHosts dstDefaultBackendService
      dstHostRuleMatchBackendService).getStr? "defaultService" =
      some dstDefaultBackendService.url := rfl

@[simp] theorem getArr_hostRules_generateUrlMapBody :
    (_generateUrlMapBody name matcherName srcHosts dstDefaultBackendService
      dstHostRuleMatchBackendService).getArr "hostRules" =
      [.obj [("hosts", .arr (srcHosts.map Json.str)), ("pathMatcher", .str matcherName)]] := rfl

@[simp] theorem listsHost_generated (host : String) :
    listsHost host (.obj [("hosts", .arr (srcHosts.map Json.str)), ("pathMatcher", .str matcherName)]) =
      decide (host ∈ srcHosts) :=
  any_map_str srcHosts host

@[simp] theorem matcherOf_generateUrlMapBody :
    matcherOf (_generateUrlMapBody name matcherName srcHosts dstDefaultBackendService
        dstHostRuleMatchBackendService)
      (.obj [("hosts", .arr (srcHosts.map Json.str)), ("pathMatcher", .str matcherName)]) =
      some (.obj [("name", .str matcherName), ("defaultService",
        .str (dstHostRuleMatchBackendService.getD dstDefaultBackendService).url)]) := by
  show List.find? (fun pathMatcher : Json => pathMatcher.getStr? "name" == some matcherName)
    [Json.obj [("name", .str matcherName), ("defaultService",
      .str (dstHostRuleMatchBackendService.getD dstDefaultBackendService).url)]] = _
  exact List.find?_cons_of_pos _ (beq_self_eq_true (some matcherName))

/-- The generated body routes a request for a listed host through its host rule to the host-rule
backend service, and any other request to the default backend service. -/
theorem route_generateUrlMapBody (host : String) :
    route (_generateUrlMapBody name matcherName srcHosts dstDefaultBackendService
        dstHostRuleMatchBackendService) host =
      some (if host ∈ srcHosts then (dstHostRuleMatchBackendService.getD dstDefaultBackendService).url
        else dstDefaultBackendService.url) := by
  by_cases hh : host ∈ srcHosts
  · simp only [route, getArr_hostRules_generateUrlMapBody, List.find?_cons, listsHost_generated,
      decide_eq_true hh, matcherOf_generateUrlMapBody, if_pos hh]
    rfl
  · simp only [route, getArr_hostRules_generateUrlMapBody, List.find?_cons, listsHost_generated,
      decide_eq_false hh, List.find?_nil, getStr_defaultService_generateUrlMapBody, if_neg hh]

theorem wellFormed_generateUrlMapBody :
    WellFormed (_generateUrlMapBody name matcherName srcHosts dstDefaultBackendService
      dstHostRuleMatchBackendService) :=
  ⟨rfl, rfl, by simp only [getArr_hostRules_generateUrlMapBody, List.forall_mem_singleton,
    matcherOf_generateUrlMapBody]; rfl⟩

/-- A URL-map body meaning what the manager means by it: named `name`, well formed, with a host
rule for `srcAddress`, and routing every request to `backendService`. -/
structure Serves (body : Json) (name srcAddress : String) (backendService : GcpResource) :
    Prop where
  name_eq : body.getStr? "name" = some name
  wellFormed : WellFormed body
  listed : ∃ hostRule ∈ body.getArr "hostRules", listsHost srcAddress hostRule
  route_eq : ∀ host, route body host = some backendService.url

/-- The body the manager generates for one source address serves the backend service it is
given. -/
theorem serves_generateUrlMapBody (srcAddress : String) :
    Serves (_generateUrlMapBody name matcherName [srcAddress] dstDefaultBackendService) name
      srcAddress dstDefaultBackendService where
  name_eq := rfl
  wellFormed := wellFormed_generateUrlMapBody _ _ _ _ _
  listed := ⟨_, List.mem_singleton_self _,
    (listsHost_generated matcherName [srcAddress] srcAddress).trans
      (decide_eq_true (List.mem_singleton_self _))⟩
  route_eq host := by
    rw [route_generateUrlMapBody]
    split <;> rfl

end UrlMap

/-! ## The methods that send one -/

section Methods

variable {w : World} (hH : Succeeds w.fault)
include hH

/-- With no failing call, the create of a generated URL-map body creates the map it names. -/
theorem wp_remoteCreateUrlMap_generate (name matcherName srcAddress : String)
    (backendService : GcpResource) {Q : GcpResource → World → Prop} {E : World → Prop}
    (h : Q (Collection.urlMaps.handle name) { w.record (.create .urlMaps name (.urlMap
      (_generateUrlMapBody name matcherName [srcAddress] backendService))) with
        remote := insert (.urlMaps, name) w.remote }) :
    wp (remoteCreateUrlMap (_generateUrlMapBody name matcherName [srcAddress] backendService))
      Q E w := by
  rw [wp_remoteCreateUrlMap, _generateUrlMapBody_name]
  simp only [wp_remoteCreate, hH.nextFails rfl, Bool.false_eq_true, if_false]
  exact h

/-- **The URL maps route to live backend services.** On every allowed run from a world whose
slots are all `Absent`, where no call fails:

* `create_url_map` with `backend_service` `Present` returns the URL map it stores, adds only that
  map to the remote, and sends a body named by the manager that is well formed, has a host rule
  for the source address, and routes every request to `backend_service`, which exists on the
  remote;
* `create_alternative_url_map` does the same under the alternative name, routing to the backend
  service it is given or else to `alternative_backend_service`, which then exists on the remote;
* `patch_url_map` sends, to whatever `url_map` holds, a body under the manager's URL-map name
  that routes every request to the backend service it is given. -/
theorem urlMaps_route_to_live_backend_services {w₀ : World}
    (h₀ : ∀ slot, w₀.manager.slots slot = none) (h : Reachable Allowed w₀ w) (srcHost : String)
    (srcPort : Int) :
    (∀ backendService, w.manager.slots .backendService = some backendService →
      ∃ w', createUrlMap srcHost srcPort w =
          .ok (Collection.urlMaps.handle (w.manager.makeResourceName urlMapName)) w' ∧
        w'.manager.slots .urlMap =
          some (Collection.urlMaps.handle (w.manager.makeResourceName urlMapName)) ∧
        w'.remote = insert (.urlMaps, w.manager.makeResourceName urlMapName) w.remote ∧
        (Collection.backendServices, backendService.name) ∈ w'.remote ∧
        ∃ body, w'.calls = w.calls ++
            [.create .urlMaps (w.manager.makeResourceName urlMapName) (.urlMap body)] ∧
          UrlMap.Serves body (w.manager.makeResourceName urlMapName) s!"{srcHost}:{srcPort}"
            backendService) ∧
    (∀ given backendService,
      given.orElse (fun _ => w.manager.slots .alternativeBackendService) = some backendService →
      ∃ w', createAlternativeUrlMap srcHost srcPort given w =
          .ok (Collection.urlMaps.handle (w.manager.makeResourceName alternativeUrlMapName)) w' ∧
        w'.manager.slots .alternativeUrlMap =
          some (Collection.urlMaps.handle (w.manager.makeResourceName alternativeUrlMapName)) ∧
        w'.remote = insert (.urlMaps, w.manager.makeResourceName alternativeUrlMapName) w.remote ∧
        (given = none → (Collection.backendServices, backendService.name) ∈ w'.remote) ∧
        ∃ body, w'.calls = w.calls ++
            [.create .urlMaps (w.manager.makeResourceName alternativeUrlMapName) (.urlMap body)] ∧
          UrlMap.Serves body (w.manager.makeResourceName alternativeUrlMapName)
            s!"{srcHost}:{srcPort}" backendService) ∧
    (∀ backendService, ∃ body, (finalWorld (patchUrlMap srcHost srcPort backendService) w).calls =
        w.calls ++ [.patchUrlMap (w.manager.slots .urlMap) body] ∧
      UrlMap.Serves body (w.manager.makeResourceName urlMapName) s!"{srcHost}:{srcPort}"
        backendService) := by
  have hI := Reachable.inv h₀ h
  refine ⟨fun backendService hbs => ?_, fun given backendService hbs => ?_,
    fun backendService => ⟨_, patchUrlMap_calls w _ _ _, UrlMap.serves_generateUrlMapBody _ _ _ _⟩⟩
  · refine ok_of_wp_eq ?_
    simp only [createUrlMap, wp_bind, wp_getManager, hbs, wp_attr_some]
    refine wp_remoteCreateUrlMap_generate hH _ _ _ _ ?_
    exact ⟨rfl, setSlot_slots_self _ _ _, rfl,
      Finset.mem_insert_of_mem (hI.held_exists .backendService _ (by decide)
        (by simp [heldBy, hbs, collectionOf, Slot.collection])), _, rfl,
      UrlMap.serves_generateUrlMapBody _ _ _ _⟩
  · refine ok_of_wp_eq ?_
    simp only [createAlternativeUrlMap, wp_bind, wp_getManager, hbs, wp_attr_some]
    refine wp_remoteCreateUrlMap_generate hH _ _ _ _ ?_
    refine ⟨rfl, setSlot_slots_self _ _ _, rfl, fun hg => ?_, _, rfl,
      UrlMap.serves_generateUrlMapBody _ _ _ _⟩
    subst hg
    exact Finset.mem_insert_of_mem (hI.held_exists .alternativeBackendService _ (by decide)
      (by simp only [Option.orElse] at hbs; simp [heldBy, hbs, collectionOf, Slot.collection]))

end Methods

/-- After the backend half of a GRPC setup, `create_url_map` returns the map, and the backend
service it routes to is on the remote. -/
theorem urlMaps_route_to_live_backend_services_after_setup :
    let w₀ := World.init (TrafficDirectorManager.init .base "project" "psm" (some "a1")) ∅
      fun _ => false
    let w := finalWorld (Op.setupBackendForGrpc (some .GRPC) none).run w₀
    ∃ w', createUrlMap "svc" 8080 w = .ok (Collection.urlMaps.handle "psm-url-map-a1") w' ∧
      (Collection.backendServices, "psm-backend-service-a1") ∈ w'.remote := by
  intro w₀ w
  have h : Reachable Allowed w₀ w := Reachable.step (Op.setupBackendForGrpc (some .GRPC) none)
    .init ⟨fun _ _ => rfl, by rintro (h | ⟨_, h⟩) <;> cases h⟩
  have hbs : w.manager.slots .backendService =
      some (Collection.backendServices.handle "psm-backend-service-a1") := rfl
  exact ((urlMaps_route_to_live_backend_services (fun _ => rfl) (fun _ => rfl) h "svc" 8080).1 _
    hbs).imp fun _ h => ⟨h.1, h.2.2.2.1⟩

end TrafficDirector
