import AzureCtp.License.Claim

/-!
# What the management mode reaches

The management mode decides the policies of the composed resources and nothing else. Erasing
the policies makes the responses of two modes equal, status and license claim included, so
switching the mode of a running control plane neither composes nor drops a resource, and
changes no field of one besides its policies.

## Main results

* `unmanaged_composed`: a composed resource depends on the mode through its policies only
* `mode_changes_policies_only`: the whole response
-/

set_option autoImplicit false

namespace AzureCtp

open Component Document

/-- The resource without the policies Crossplane manages it by. -/
def Resource.unmanaged (r : Resource) : Resource :=
  { r with
    spec :=
      match r.spec with
      | .network parameters => .network { parameters with managementPolicies := [] }
      | .aks parameters => .aks { parameters with managementPolicies := [] }
      | .usage spec => .usage spec
      | .managed spec => .managed { spec with managementPolicies := none } }

/-- The request of the same ControlPlane in another management mode. -/
def Request.inMode (req : Request) (mode : Option String) : Request :=
  { req with
    composite :=
      { req.composite with
        parameters := { req.composite.parameters with managementMode := mode } } }

variable {now : String} {req : Request} {mode : Option String}

/-- The sweep adds policies only. -/
theorem unmanaged_orphanPolicy (policies : List ManagementPolicy) (r : Resource) :
    (orphanPolicy policies r).unmanaged = r.unmanaged := by
  obtain ⟨apiVersion, kind, metadata, spec⟩ := r
  cases spec with
  | managed spec =>
    unfold orphanPolicy Resource.unmanaged
    dsimp only
    split_ifs <;> rfl
  | _ => rfl

/-- The guard does not read the mode of the ControlPlane. -/
theorem licenseConflict_inMode : (req.inMode mode).licenseConflict = req.licenseConflict := rfl

theorem licenseClaim_inMode : (req.inMode mode).licenseClaim = req.licenseClaim :=
  licenseClaim_congr rfl licenseConflict_inMode rfl

theorem gates_inMode : (req.inMode mode).gates = req.gates := by
  rw [Request.gates, Request.gates, licenseClaim_inMode]
  rfl

theorem unmanaged_resource (c : Component) :
    (c.resource now (req.inMode mode)).unmanaged = (c.resource now req).unmanaged := by
  cases c with
  | uxpLicenseSecret =>
    rw [resource, resource, licenseClaim_inMode]
    rfl
  | uxpLicense =>
    rw [resource, resource, licenseClaim_inMode]
    rfl
  | _ => rfl

/-- A composed resource depends on the mode through its policies only. -/
theorem unmanaged_composed (c : Component) :
    (c.composed now (req.inMode mode)).unmanaged = (c.composed now req).unmanaged := by
  rw [composed, composed, unmanaged_orphanPolicy, unmanaged_orphanPolicy, unmanaged_resource]

theorem status_inMode (created : Option String) :
    (req.inMode mode).status now created = req.status now created := by
  rw [Request.status, Request.status, licenseConflict_inMode, licenseClaim_inMode]
  rfl

/-- **The mode changes policies only.** In another management mode the function composes the
same names, and under each of them the same resource but for its policies; it writes the same
status and asks for the same peers. -/
theorem mode_changes_policies_only (now : String) (req : Request) (mode : Option String) :
    (∀ n, ((reconcile now (req.inMode mode)).resources.lookup n).map Resource.unmanaged =
      ((reconcile now req).resources.lookup n).map Resource.unmanaged) ∧
    (reconcile now (req.inMode mode)).composite = (reconcile now req).composite ∧
    (reconcile now (req.inMode mode)).allControlPlanes = (reconcile now req).allControlPlanes := by
  refine ⟨fun n => ?_, ?_, rfl⟩
  · exact lookup_map_congr (fun c => by rw [gates_inMode]) fun c _ => unmanaged_composed c
  · rw [reconcile, reconcile, status_inMode]

end AzureCtp
