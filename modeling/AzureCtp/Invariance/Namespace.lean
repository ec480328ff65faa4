import AzureCtp.License.Claim

/-!
# What the namespace reaches

The namespace of the ControlPlane on the management cluster places the composed resources
and the references of their deletion guards. Erasing these two fields makes the responses
of two namespaces equal: Helm target namespaces and the namespaces in manifests are those
of the child cluster and fixed.

## Main results

* `ns_composed`, `usage_ns_composed`: every resource and reference is in the namespace
* `unplaced_composed`: nothing else depends on it
* `namespace_stays_outside`: both, read from the response
-/

set_option autoImplicit false

namespace AzureCtp

open Document

/-- The resource without the namespaces of the management cluster: its own, and that of
the resource it guards. -/
def Resource.unplaced (r : Resource) : Resource :=
  { r with
    metadata := { r.metadata with ns := "" }
    spec :=
      match r.spec with
      | .usage spec => .usage { spec with ofResource := { spec.ofResource with ns := "" } }
      | spec => spec }

/-- The request of the same ControlPlane in another namespace. -/
def Request.inNamespace (req : Request) (ns : Option String) : Request :=
  { req with
    composite := { req.composite with metadata := { req.composite.metadata with ns := ns } } }

theorem unplaced_orphanPolicy (policies : List ManagementPolicy) (r : Resource) :
    (orphanPolicy policies r).unplaced = orphanPolicy policies r.unplaced := by
  obtain ⟨apiVersion, kind, metadata, spec⟩ := r
  cases spec with
  | managed spec =>
    unfold orphanPolicy Resource.unplaced
    dsimp only
    split_ifs <;> rfl
  | _ => rfl

theorem forProvider?_unplaced (r : Resource) (path : List String) :
    r.unplaced.forProvider? path = r.forProvider? path := by
  obtain ⟨apiVersion, kind, metadata, spec⟩ := r
  cases spec <;> rfl

/-- Provider payloads are read the same without these fields. -/
theorem at?_unplaced (rsp : Response) (n : String) (path : List String) :
    rsp.at? n path = ((rsp.resources.lookup n).map Resource.unplaced).bind
      (·.forProvider? path) := by
  rw [Response.at?, Option.bind_map]
  exact congrArg _ (funext fun r => (forProvider?_unplaced r path).symm)

namespace Component

variable {now : String} {req : Request} {ns : Option String}

/-- Every component is placed in the namespace. -/
theorem ns_composed (c : Component) : (c.composed now req).metadata.ns = req.ns := by
  cases c <;> rfl

/-- What a Usage guards is in the namespace. -/
theorem usage_ns_composed (c : Component) {spec : UsageSpec}
    (hspec : (c.composed now req).usage? = some spec) : spec.ofResource.ns = req.ns := by
  cases c <;> cases hspec <;> rfl

theorem unplaced_resource
    (hclaim : (req.inNamespace ns).licenseClaim = req.licenseClaim) (c : Component) :
    (c.resource now (req.inNamespace ns)).unplaced = (c.resource now req).unplaced := by
  cases c with
  | uxpLicenseSecret =>
    rw [resource, resource, hclaim]
    rfl
  | uxpLicense =>
    rw [resource, resource, hclaim]
    rfl
  | _ => rfl

/-- Nothing else depends on the namespace. -/
theorem unplaced_composed
    (hclaim : (req.inNamespace ns).licenseClaim = req.licenseClaim) (c : Component) :
    (c.composed now (req.inNamespace ns)).unplaced = (c.composed now req).unplaced := by
  rw [composed, composed, unplaced_orphanPolicy, unplaced_orphanPolicy,
    unplaced_resource hclaim]
  rfl

end Component

open Component

/-- The composed resources of two namespaces are the same outside of them, as far as the
license guard answers the same. -/
theorem unplaced_reconcile {now : String} {req : Request} {ns : Option String}
    (hconflict : (req.inNamespace ns).licenseConflict = req.licenseConflict) (n : String) :
    ((reconcile now (req.inNamespace ns)).resources.lookup n).map Resource.unplaced =
      ((reconcile now req).resources.lookup n).map Resource.unplaced := by
  have hclaim : (req.inNamespace ns).licenseClaim = req.licenseClaim :=
    licenseClaim_congr rfl hconflict rfl
  have hgates : (req.inNamespace ns).gates = req.gates := by
    rw [Request.gates, Request.gates, hclaim]
    rfl
  exact lookup_map_congr (fun c => by rw [hgates]) fun c _ => unplaced_composed hclaim c

/-- **The namespace never leaks into the child cluster.** Every composed resource and
every reference of a Usage is in the namespace of the ControlPlane, `default` when it has
none. With the same answer of the license guard, another namespace changes nothing else,
in particular no Helm value and no manifest. -/
theorem namespace_stays_outside (now : String) (req : Request) :
    (∀ n r, (reconcile now req).resources.lookup n = some r →
      r.metadata.ns = orElseEmpty req.composite.metadata.ns "default" ∧
      ∀ spec, r.usage? = some spec →
        spec.ofResource.ns = orElseEmpty req.composite.metadata.ns "default") ∧
    ∀ ns, (req.inNamespace ns).licenseConflict = req.licenseConflict → ∀ n,
      ((reconcile now (req.inNamespace ns)).resources.lookup n).map Resource.unplaced =
        ((reconcile now req).resources.lookup n).map Resource.unplaced ∧
      ∀ path, (reconcile now (req.inNamespace ns)).at? n path = (reconcile now req).at? n path := by
  refine ⟨fun n r hr => ?_, fun ns hconflict n => ?_⟩
  · obtain ⟨c, -, -, rfl⟩ := lookup_reconcile_iff.mp hr
    exact ⟨ns_composed c, fun spec hspec => usage_ns_composed c hspec⟩
  · refine ⟨unplaced_reconcile hconflict n, fun path => ?_⟩
    rw [at?_unplaced, at?_unplaced, unplaced_reconcile hconflict]

end AzureCtp
