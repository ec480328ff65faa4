import AzureCtp.License.Claim

/-!
# One license claim in three representations

The claim of a reconcile stands in the references of the composed Object, in the status,
and, by way of the status, in the comparison keys of the peers. Each decoder fills in the
namespace on its own; they all recover the Secret that was claimed.

## Main results

* `statusLicense_isSome_iff`: the status names a license exactly when one is composed
* `holds_status_iff`: what a peer reads from the status
* `license_claim_represented`: the three representations agree
-/

set_option autoImplicit false

namespace AzureCtp

open Component

/-- A response represents a claim on a Secret: to a reconcile that observes the composed
Object, in the status, and to a peer whose own license names some Secret. -/
structure Represents (rsp : Response) (s : String × String) : Prop where
  object : ∀ observed,
    observedLicenseObject observed = rsp.resources.lookup "uxp-license-secret" →
      ∃ lic, getInstalledLicense observed = some lic ∧ secretOf lic = s
  status : ∃ lic, statusLicense rsp = some lic ∧ secretOf lic = s
  peers : ∀ (K : Secret) (mine : License) (listed : ControlPlane), K.namedBy mine = true →
    listed.statusLicense = statusLicense rsp →
      (holds (secretKey mine) listed = true ↔ s = (K.ns, K.name))

variable {now : String} {req : Request}

theorem namedBy_iff (K : Secret) (lic : License) :
    K.namedBy lic = true ↔ secretOf lic = (K.ns, K.name) := by
  simp only [Secret.namedBy, secretOf, Bool.and_eq_true, beq_iff_eq, Prod.mk.injEq]

/-- What is claimed refers to a Secret. -/
theorem truthy_licenseClaim (hclaim : req.licenseClaim.isSome = true) :
    License.truthy req.licenseClaim = true := by
  have htruthy := truthy_of_licenseClaim hclaim
  by_cases hconflict : req.licenseConflict = ""
  · rw [licenseClaim_of_free htruthy hconflict]
    exact htruthy
  · rcases licenseClaim_of_conflict hconflict with hnone | hinstalled
    · rw [hnone] at hclaim
      cases hclaim
    · -- an installed license is read back with the name of its Secret
      rw [hinstalled, getInstalledLicense_eq, ← secret?_installed_isSome] at hclaim
      obtain ⟨s, hs⟩ := Option.isSome_iff_exists.mp hclaim
      rw [hinstalled, getInstalledLicense_eq]
      exact truthy_of_secret? hs

/-- The status names a license exactly when one is claimed. -/
theorem statusLicense_isSome_iff :
    (statusLicense (reconcile now req)).isSome = true ↔ req.licenseClaim.isSome = true := by
  change (licenseStatus req.licenseClaim).isSome = true ↔ _
  unfold licenseStatus
  constructor
  · intro hstatus
    split_ifs at hstatus with htruthy
    · cases hclaim : req.licenseClaim with
      | none =>
        rw [hclaim] at htruthy
        cases htruthy
      | some lic => rfl
    · cases hstatus
  · intro hclaim
    rw [if_pos (truthy_licenseClaim hclaim)]
    rfl

/-- A license that names a Secret is there. -/
theorem exists_of_secret? {lic : Option License} {s : String × String}
    (hs : secret? lic = some s) : ∃ named, lic = some named ∧ secretOf named = s := by
  obtain ⟨hof, hname⟩ := secret?_eq_some_iff.mp hs
  cases lic with
  | none =>
    rw [← hof] at hname
    exact absurd rfl hname
  | some named => exact ⟨named, rfl, hof⟩

/-- A peer reads from a status exactly the Secret it names. -/
theorem holds_status_iff {K : Secret} {mine : License} {listed : ControlPlane}
    {s : String × String} (hmine : K.namedBy mine = true)
    (hstatus : secret? listed.statusLicense = some s) :
    holds (secretKey mine) listed = true ↔ s = (K.ns, K.name) := by
  rw [(secretKey_eq_iff K mine).mpr hmine, holds, onSecret_key, namedBy_iff,
    (secret?_eq_some_iff.mp hstatus).1]

/-- **One license claim, three representations.** The status names a license exactly when
its resources are composed, and a composed claim on a named Secret, which without a
conflict is the requested one, is recovered by every decoder. -/
theorem license_claim_represented (now : String) (req : Request) :
    (((statusLicense (reconcile now req)).isSome = true ↔
        "uxp-license-secret" ∈ (reconcile now req).resources) ∧
      ((statusLicense (reconcile now req)).isSome = true ↔
        "uxp-license" ∈ (reconcile now req).resources)) ∧
      ∀ lic, req.licenseClaim = some lic → (secretOf lic).2 ≠ "" →
        (req.licenseConflict = "" → req.licenseParam = some lic) ∧
          Represents (reconcile now req) (secretOf lic) := by
  refine ⟨⟨?_, ?_⟩, fun lic hclaim hname => ⟨fun hfree => ?_, ?_⟩⟩
  · exact statusLicense_isSome_iff.trans (mem_reconcile_component .uxpLicenseSecret).symm
  · exact statusLicense_isSome_iff.trans (mem_reconcile_component .uxpLicense).symm
  · have htruthy := truthy_of_licenseClaim (Option.isSome_of_eq_some hclaim)
    rw [← hclaim, licenseClaim_of_free htruthy hfree]
  · have hsecret : secret? req.licenseClaim = some (secretOf lic) := by
      rw [hclaim]
      exact secret?_eq_some_iff.mpr ⟨rfl, hname⟩
    have hstatus : secret? (statusLicense (reconcile now req)) = some (secretOf lic) :=
      secret?_status.trans hsecret
    refine ⟨fun observed hobserved => ?_, exists_of_secret? hstatus, ?_⟩
    · rw [getInstalledLicense_eq, hobserved]
      exact exists_of_secret? (secret?_licenseObject.trans hsecret)
    · intro K mine listed hmine hlisted
      exact holds_status_iff hmine (hlisted ▸ hstatus)

/-- A sharer's claim, the namespace of its Secret given. -/
theorem license_claim_represented_sharer :
    Represents (reconcile "2026-03-01T00:00:00Z"
        { composite := sharer "cp-a" "2026-01-01T00:00:00Z" })
      ("crossplane-system", "uxp-license-shared") := by
  let req : Request := { composite := sharer "cp-a" "2026-01-01T00:00:00Z" }
  obtain ⟨-, hrepresented⟩ := license_claim_represented "2026-03-01T00:00:00Z" req
  exact (hrepresented (req.licenseParam.getD {}) (by decide) (by decide)).2

end AzureCtp
