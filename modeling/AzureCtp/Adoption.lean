import AzureCtp.Invariance.Namespace
import AzureCtp.Names
import AzureCtp.Policies
import AzureCtp.References
import AzureCtp.Stabilization

/-!
# A later run adopts what an earlier one made

The provisioning pipeline keeps no state of its own: each run starts a new management
cluster, and finds the resources of the run before by their names. So the names may not
depend on anything but the spec: not on what is observed, nor on the peers, the time or the
management mode. A run in `Deprovision` mode then composes all that an earlier run composed,
under the same names, and may delete it.

## Main results

* `key_composed_congr`, `externalName?_congr`: what a resource is called depends on the spec
* `decommission_adopts`: a decommissioning run reaches all that a provisioning run made
-/

set_option autoImplicit false

namespace AzureCtp

open Component

/-- The parameters besides the management mode. -/
def Parameters.unmoded (parameters : Parameters) : Parameters :=
  { parameters with managementMode := none }

/-- Two XRs of one control plane, in two management clusters: the same spec up to the mode, in
the same namespace. What the clusters recorded of them may differ. -/
structure SameControlPlane (xr xr' : ControlPlane) : Prop where
  parameters : xr.parameters.unmoded = xr'.parameters.unmoded
  ns : xr.metadata.ns = xr'.metadata.ns

variable {now now' : String} {req req' : Request}

/-! ### What a resource is called -/

namespace SameControlPlane

variable (h : SameControlPlane req.composite req'.composite)

include h

theorem idVal_eq : req.idVal = req'.idVal := by
  have hid := congrArg Parameters.id h.parameters
  exact congrArg (·.getD "") hid

theorem ns_eq : req.ns = req'.ns := by
  rw [Request.ns, Request.ns, h.ns]

theorem backup_eq : req.backup = req'.backup := by
  have hbackup := congrArg Parameters.backup h.parameters
  exact congrArg (·.getD { enabled := some "no" }) hbackup

theorem storageAccount_eq : req.storageAccount = req'.storageAccount := by
  rw [Request.storageAccount, Request.storageAccount, h.backup_eq]

theorem containerName_eq : req.containerName = req'.containerName := by
  rw [Request.containerName, Request.containerName, h.backup_eq]

theorem name_eq (c : Component) :
    (c.composed now req).metadata.name = (c.composed now' req').metadata.name := by
  by_cases hc : c = backupStorageAccount
  · subst hc
    exact h.storageAccount_eq
  · rw [name_composed hc, name_composed hc, h.idVal_eq]

/-- The key of a resource depends on the spec only. -/
theorem key_composed_congr (c : Component) :
    (c.composed now req).key = (c.composed now' req').key := by
  have hapi : (c.composed now req).apiVersion = (c.composed now' req').apiVersion := by
    cases c <;> rfl
  rw [Resource.key, Resource.key, hapi, kind_composed, kind_composed, ns_composed, ns_composed,
    h.ns_eq, h.name_eq]

/-- So does its external name. -/
theorem externalName?_congr (c : Component) :
    (c.composed now req).externalName? = (c.composed now' req').externalName? := by
  rw [externalName?_composed, externalName?_composed]
  cases c with
  | backupStorageAccount => exact congrArg some h.storageAccount_eq
  | backupContainer => exact congrArg some h.containerName_eq
  | _ => rfl

end SameControlPlane

theorem wanted_congr {xr xr' : ControlPlane} (h : xr.parameters = xr'.parameters) :
    wanted xr = wanted xr' := by
  obtain ⟨apiVersion, kind, metadata, parameters, lic⟩ := xr
  obtain ⟨apiVersion', kind', metadata', parameters', lic'⟩ := xr'
  obtain rfl : parameters = parameters' := h
  rfl

/-- What a spec asks for does not depend on the mode. -/
theorem SameControlPlane.wanted_eq {xr xr' : ControlPlane} (h : SameControlPlane xr xr') :
    wanted xr = wanted xr' :=
  calc wanted xr
      = wanted { xr with parameters := xr.parameters.unmoded } := rfl
    _ = wanted { xr' with parameters := xr'.parameters.unmoded } := wanted_congr h.parameters
    _ = wanted xr' := rfl

/-! ### Runs -/

/-- What the mode's list decides whether to delete, in a mode that deletes. -/
theorem delete_of_deprovision (hmode : req.managementMode = "Deprovision") {c : Component}
    (hname : c.name ∉ ["backup-storage-account", "backup-container", "k8gb-coredns-observe",
      "knative-operator-release"]) {policies : List ManagementPolicy}
    (hpolicies : (c.composed now req).policies? = some policies) :
    allows policies .delete = true := by
  rw [policies?_composed, Option.map_eq_some_iff] at hpolicies
  obtain ⟨route, hroute, rfl⟩ := hpolicies
  -- off the listed names the policies are those of the mode
  rw [route_eq_mode hroute hname, Route.policies_mode_delete_iff]
  change req.managementMode ∉ ["Provision", "ObserveOnly"]
  rw [hmode]
  decide

section Runs

variable {xr xr' : ControlPlane} {nows nows' : ℕ → String} {reqs reqs' : ℕ → Request}

/-- **A decommissioning run adopts.** Take two runs of one control plane in two management
clusters, from whatever was observed at first, the second in `Deprovision` mode. From the
fourth round on the second composes the same names as the first, each with the same
apiVersion, kind, namespace, name and external name, and with Delete allowed but for the
backup storage, the CoreDNS observe Object and the Knative operator. -/
theorem decommission_adopts (h : Recovery xr nows reqs) (h' : Recovery xr' nows' reqs')
    (hsame : SameControlPlane xr xr') (hmode : xr'.parameters.managementMode = some "Deprovision")
    {j k : ℕ} (hj : 3 ≤ j) (hk : 3 ≤ k) {n : String} {r : Resource}
    (hr : (reconcile (nows j) (reqs j)).resources.lookup n = some r) :
    ∃ s, (reconcile (nows' k) (reqs' k)).resources.lookup n = some s ∧ s.key = r.key ∧
      s.externalName? = r.externalName? ∧
        (n ∉ ["backup-storage-account", "backup-container", "k8gb-coredns-observe",
            "knative-operator-release"] →
          ∀ policies, s.policies? = some policies → allows policies .delete = true) := by
  have hcomposite : SameControlPlane (reqs' k).composite (reqs j).composite := by
    rw [h.composite, h'.composite]
    exact ⟨hsame.parameters.symm, hsame.ns.symm⟩
  -- both runs compose what their common spec asks for by then
  have hemitted : emitted (reconcile (nows' k) (reqs' k)) =
      emitted (reconcile (nows j) (reqs j)) :=
    calc emitted (reconcile (nows' k) (reqs' k))
        = wanted xr' := h'.emitted_eq hk
      _ = wanted xr := hsame.wanted_eq.symm
      _ = emitted (reconcile (nows j) (reqs j)) := (h.emitted_eq hj).symm
  obtain ⟨c, hgate, rfl, rfl⟩ := lookup_reconcile_iff.mp hr
  have hmem : c.name ∈ (reconcile (nows' k) (reqs' k)).resources := by
    rw [mem_resources_iff_emitted, hemitted, ← mem_resources_iff_emitted]
    exact (mem_reconcile_component c).mpr hgate
  have hgate' := (mem_reconcile_component c).mp hmem
  refine ⟨c.composed (nows' k) (reqs' k), (lookup_reconcile_component c).mpr ⟨hgate', rfl⟩,
    hcomposite.key_composed_congr c, hcomposite.externalName?_congr c, ?_⟩
  intro hname policies hpolicies
  have hmode' : (reqs' k).managementMode = "Deprovision" := by
    rw [Request.managementMode, Request.params, h'.composite, hmode]
    rfl
  exact delete_of_deprovision hmode' hname hpolicies

end Runs

/-- A control plane in a management mode. -/
def provisioned (mode : String) : ControlPlane where
  parameters :=
    { Parameters.required "cp" "eastus" { count := some 3 } with managementMode := some mode }

/-- The AKS XR of a provisioning run is adopted by a decommissioning run. -/
theorem decommission_adopts_aks :
    let made := aks.composed "2026-03-01T00:00:00Z"
      (resumedRequest ∅ "2026-03-01T00:00:00Z" (provisioned "Provision") 3)
    ∃ s, (reconcile "2026-04-01T00:00:00Z" (resumedRequest ∅ "2026-04-01T00:00:00Z"
      (provisioned "Deprovision") 3)).resources.lookup "aks" = some s ∧ s.key = made.key := by
  intro made
  have hrun : ∀ now mode, Recovery (provisioned mode) (fun _ => now)
      (resumedRequest ∅ now (provisioned mode)) := by
    intro now mode
    refine resumedRequest_recovery ∅ now fun source hsource => ?_
    cases hsource
  have hmade := (lookup_reconcile_component aks).mpr ⟨rfl, (rfl : made = made)⟩
  obtain ⟨s, hs, hkey, -⟩ := decommission_adopts (hrun _ "Provision") (hrun _ "Deprovision")
    ⟨rfl, rfl⟩ rfl (le_refl 3) (le_refl 3) hmade
  exact ⟨s, hs, hkey⟩

end AzureCtp
