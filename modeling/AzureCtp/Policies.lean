import AzureCtp.Components

/-!
# Management mode bounds the allowed actions

A composed resource gets its policies by one of four routes: the mode's list (swept
into a managed resource, or handed to a composed XR as a parameter), the list of the
backup storage, the list of the knative operator, and the fixed list of the CoreDNS
observe Object. `policies?_composed` reads every component's list off its route, so
the bounds of a mode are facts about the routes.

## Main results

* `orphanPolicy_managed`: after the sweep every managed resource carries a list
* `policies?_composed`: the list a component is composed with
* `management_mode_bounds`: what each mode lets Crossplane do
-/

set_option autoImplicit false

namespace AzureCtp

open Component

/-- How a resource gets its policies. -/
inductive Route where
  | mode
  | storage
  | operator
  | observe
  deriving DecidableEq, Repr

namespace Route

/-- The list a route yields under a configuration. -/
def policies (config : Config) : Route → List ManagementPolicy
  | mode => modePolicies config.managementMode
  | storage => storagePolicies config
  | operator => knativeOperatorPolicies config
  | observe => [.only .observe]

variable {config : Config}

theorem policies_observeOnly (hmode : config.managementMode = "ObserveOnly") (route : Route) :
    route.policies config = [.only .observe] := by
  obtain ⟨date, ns, mode⟩ := config
  obtain rfl : mode = "ObserveOnly" := hmode
  cases route <;> rfl

theorem policies_provision (hmode : config.managementMode = "Provision") (route : Route) :
    allows (route.policies config) .delete = false := by
  obtain ⟨date, ns, mode⟩ := config
  obtain rfl : mode = "Provision" := hmode
  cases route <;> rfl

theorem policies_deprovision (hmode : config.managementMode = "Deprovision") (route : Route) :
    allows (route.policies config) .update = false ∧
      allows (route.policies config) .lateInitialize = false := by
  obtain ⟨date, ns, mode⟩ := config
  obtain rfl : mode = "Deprovision" := hmode
  cases route <;> exact ⟨rfl, rfl⟩

/-- Full, and any mode the table does not know, allows everything. -/
theorem policies_full
    (hmode : config.managementMode ∉ ["Provision", "ObserveOnly", "Deprovision"])
    (action : Action) : allows (mode.policies config) action = true := by
  have hall : modePolicies config.managementMode = [.all] := by
    simp only [List.mem_cons, List.not_mem_nil, or_false, not_or] at hmode
    obtain ⟨hprovision, hobserve, hdeprovision⟩ := hmode
    -- the table has no row but the one for Full, and its default is the same list
    simp only [modePolicies, modePolicyTable, List.lookup_cons, List.lookup_nil,
      beq_eq_false_iff_ne.mpr hprovision, beq_eq_false_iff_ne.mpr hobserve,
      beq_eq_false_iff_ne.mpr hdeprovision]
    split <;> rfl
  rw [policies, hall]
  rfl

/-- Where the mode's list allows Delete. -/
theorem policies_mode_delete_iff :
    allows (mode.policies config) .delete = true ↔
      config.managementMode ∉ ["Provision", "ObserveOnly"] := by
  constructor
  · intro hallows hmode
    rw [List.mem_cons, List.mem_singleton] at hmode
    rcases hmode with hprovision | hobserve
    · rw [policies_provision hprovision] at hallows
      cases hallows
    · rw [policies_observeOnly hobserve] at hallows
      cases hallows
  · intro hmode
    rw [List.mem_cons, List.mem_singleton, not_or] at hmode
    by_cases hdeprovision : config.managementMode = "Deprovision"
    · rw [policies, hdeprovision]
      rfl
    · exact policies_full (by simp [hmode.1, hmode.2, hdeprovision]) .delete

/-- The backup storage is never deleted. -/
theorem policies_storage : allows (storage.policies config) .delete = false := by
  simp only [policies, storagePolicies, List.lookup_cons, List.lookup_nil]
  split
  · rfl
  · split <;> rfl

end Route

/-- The route of a component; a Usage has no policies. -/
def Component.route : Component → Option Route
  | usageReleaseAks | usageAksNetwork | usageEnvoyGatewayAks | usageEnvoyProxyConfigAks
  | usageGatewayClassAks | usageK8gbAks | usageK8gbCorednsAks | usageK8gbIpRelease
  | usageK8gbIpRoleRelease | usageArgocdAks | usageArgocdIssuerAks | usageArgocdCertAks
  | usageArgocdGatewayAks | usageArgocdHttprouteAks | usageArgocdAppAks => none
  | backupStorageAccount | backupContainer => some .storage
  | knativeOperatorRelease => some .operator
  | k8gbCorednsObserve => some .observe
  | _ => some .mode

variable {now : String} {req : Request}

/-- The list a component is composed with. -/
theorem policies?_composed (c : Component) :
    (c.composed now req).policies? = c.route.map (Route.policies (req.config now)) := by
  cases c <;> rfl

theorem Resource.policies?_of_managed? {r : Resource} {spec : ManagedSpec}
    (hspec : r.managed? = some spec) : r.policies? = spec.managementPolicies := by
  unfold Resource.managed? at hspec
  split at hspec
  · rename_i own hown
    simp only [Resource.policies?, hown]
    rw [Option.some.inj hspec]
  · cases hspec

/-- After the sweep every managed resource carries a list. -/
theorem orphanPolicy_managed {policies : List ManagementPolicy} {r : Resource} {spec : ManagedSpec}
    (hmanaged : (orphanPolicy policies r).managed? = some spec) :
    spec.managementPolicies.isSome = true := by
  unfold orphanPolicy at hmanaged
  split at hmanaged
  · -- a list of its own is kept, otherwise the sweep sets the mode's
    split_ifs at hmanaged with hown
    · rename_i own hspec
      simp only [Resource.managed?, hspec, Option.some_inj] at hmanaged
      rw [← hmanaged]
      exact hown
    · simp only [Resource.managed?, Option.some_inj] at hmanaged
      rw [← hmanaged]
      rfl
  · simp only [Resource.managed?] at hmanaged
    cases hmanaged

/-- What the management mode promises of a resource's policies. -/
structure WithinMode (mode name : String) (policies : List ManagementPolicy) : Prop where
  observeOnly : mode = "ObserveOnly" →
    ∀ action, allows policies action = true ↔ action = .observe
  provision : mode = "Provision" → allows policies .delete = false
  deprovision : mode = "Deprovision" →
    allows policies .update = false ∧ allows policies .lateInitialize = false
  full : mode ∉ ["Provision", "ObserveOnly", "Deprovision"] →
    name ∉ ["backup-storage-account", "backup-container", "k8gb-coredns-observe",
      "knative-operator-release"] → ∀ action, allows policies action = true
  storage : name ∈ ["backup-storage-account", "backup-container"] →
    allows policies .delete = false

theorem route_eq_mode {c : Component} {route : Route} (hroute : c.route = some route)
    (hname : c.name ∉ ["backup-storage-account", "backup-container", "k8gb-coredns-observe",
      "knative-operator-release"]) : route = .mode := by
  revert hname hroute
  cases c <;> cases route <;> decide

theorem route_eq_storage {c : Component} {route : Route} (hroute : c.route = some route)
    (hname : c.name ∈ ["backup-storage-account", "backup-container"]) : route = .storage := by
  revert hname hroute
  cases c <;> cases route <;> decide

theorem route_of_composite {c : Component} (hname : c.name ∈ ["network", "aks"]) :
    c.route = some .mode := by
  revert hname
  cases c <;> decide

/-- The policies of a route are within the mode. -/
theorem withinMode_of_route (config : Config) {c : Component} {route : Route}
    (hroute : c.route = some route) :
    WithinMode config.managementMode c.name (route.policies config) where
  observeOnly hmode action := by
    rw [Route.policies_observeOnly hmode]
    cases action <;> decide
  provision hmode := Route.policies_provision hmode route
  deprovision hmode := Route.policies_deprovision hmode route
  full hmode hname action := by
    rw [route_eq_mode hroute hname]
    exact Route.policies_full hmode action
  storage hname := by
    rw [route_eq_storage hroute hname]
    exact Route.policies_storage

/-- **Management mode bounds every allowed action.** Every composed managed resource
carries a policy list, every list is within the mode, and the Network and AKS XRs
carry exactly the mode's list. -/
theorem management_mode_bounds {n : String} {r : Resource}
    (hr : (reconcile now req).resources.lookup n = some r) :
    (r.managed?.isSome = true → r.policies?.isSome = true) ∧
      (∀ policies, r.policies? = some policies → WithinMode req.managementMode n policies) ∧
      (n ∈ ["network", "aks"] → r.policies? = some (modePolicies req.managementMode)) := by
  obtain ⟨c, -, rfl, rfl⟩ := lookup_reconcile_iff.mp hr
  refine ⟨fun hmanaged => ?_, fun policies hpolicies => ?_, fun hname => ?_⟩
  · obtain ⟨spec, hspec⟩ := Option.isSome_iff_exists.mp hmanaged
    have hown : spec.managementPolicies.isSome = true := orphanPolicy_managed hspec
    rwa [Resource.policies?_of_managed? hspec]
  · rw [policies?_composed, Option.map_eq_some_iff] at hpolicies
    obtain ⟨route, hroute, rfl⟩ := hpolicies
    exact withinMode_of_route (req.config now) hroute
  · rw [policies?_composed, route_of_composite hname]
    rfl

/-- The AKS XR of a Provision control plane is never deleted. -/
theorem management_mode_bounds_provision :
    allows (modePolicies "Provision") .delete = false := by
  let req : Request := { composite := { parameters := { managementMode := some "Provision" } } }
  have hr : (reconcile "2026-03-01T00:00:00Z" req).resources.lookup "aks" =
      some (aks.composed "2026-03-01T00:00:00Z" req) :=
    (lookup_reconcile_component aks).mpr ⟨rfl, rfl⟩
  obtain ⟨-, hbounds, hmode⟩ := management_mode_bounds hr
  exact (hbounds _ (hmode (by decide))).provision rfl

end AzureCtp
