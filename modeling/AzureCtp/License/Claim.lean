import AzureCtp.Components
import AzureCtp.License.Guard

/-!
# The license claim and its representations

One reconcile writes its license claim twice: into the references of the
`uxp-license-secret` Object, from where `getInstalledLicense` reads it back at a
later reconcile, and into `status.controlplane.license`, where peers look for
holders. `secret?` is the Secret a license names; both representations name the
same Secret as the claim.

## Main results

* `secret?_status`, `secret?_licenseObject`: status and composed Object name the
  claimed Secret
* `conflict_ne_empty_of_holder`: a live holder of the requested key keeps every
  other ControlPlane that is not a holder from claiming it
-/

set_option autoImplicit false

namespace AzureCtp

open Component Document

/-! ### The Secret a license names -/

/-- Namespace and name of the Secret a license refers to. -/
def secretOf (lic : License) : String × String :=
  let ref := lic.secretRef.getD {}
  (ref.ns.getD "default", ref.name.getD "")

/-- The Secret a license names, if it names one. -/
def secret? (lic : Option License) : Option (String × String) :=
  if (secretOf (lic.getD {})).2 = "" then none else some (secretOf (lic.getD {}))

/-- The key of a (namespace, name) pair. -/
def keyOf (s : String × String) : String := s.1 ++ "/" ++ s.2

theorem secretKey_eq (lic : License) : secretKey lic = keyOf (secretOf lic) := rfl

theorem secret?_eq_some_iff {lic : Option License} {s : String × String} :
    secret? lic = some s ↔ secretOf (lic.getD {}) = s ∧ s.2 ≠ "" := by
  unfold secret?
  split_ifs with hname
  · constructor
    · intro h
      cases h
    · rintro ⟨rfl, hne⟩
      exact absurd hname hne
  · rw [Option.some_inj]
    constructor
    · rintro rfl
      exact ⟨rfl, hname⟩
    · exact And.left

/-- Being on a Secret's key is naming a Secret with that key. -/
theorem onSecret_iff {myKey : String} {lic : Option License} :
    onSecret myKey (lic.getD {}) = true ↔ ∃ s, secret? lic = some s ∧ keyOf s = myKey := by
  rw [onSecret, Bool.and_eq_true, bne_iff_ne, beq_iff_eq, secretKey_eq]
  constructor
  · rintro ⟨hname, hkey⟩
    exact ⟨_, secret?_eq_some_iff.mpr ⟨rfl, hname⟩, hkey⟩
  · rintro ⟨s, hs, hkey⟩
    obtain ⟨rfl, hname⟩ := secret?_eq_some_iff.mp hs
    exact ⟨hname, hkey⟩

theorem truthy_of_secret? {lic : Option License} {s : String × String}
    (hs : secret? lic = some s) : License.truthy lic = true := by
  obtain ⟨rfl, hname⟩ := secret?_eq_some_iff.mp hs
  cases lic with
  | none => exact absurd rfl hname
  | some lic =>
    cases href : lic.secretRef with
    | none => simp [secretOf, href] at hname
    | some ref => simp [License.truthy, href]

/-! ### The status and the Object -/

theorem secret?_licenseStatus (claim : Option License) :
    secret? (licenseStatus claim) = secret? claim := by
  unfold licenseStatus
  split_ifs with htruthy
  · rfl
  · cases hs : secret? claim with
    | none => rfl
    | some s => exact absurd (truthy_of_secret? hs) htruthy

/-- The license installed by an observed `uxp-license-secret` Object. -/
def licenseOfObject (object : Option Resource) : Option License :=
  (object.bind Resource.managed?).bind fun spec => licenseOfReferences spec.references

/-- The observed `uxp-license-secret` Object, its status aside. -/
def observedLicenseObject (observed : Observed) : Option Resource :=
  (observed.lookup "uxp-license-secret").map ObservedResource.toResource

theorem getInstalledLicense_eq (observed : Observed) :
    getInstalledLicense observed = licenseOfObject (observedLicenseObject observed) := by
  unfold getInstalledLicense observedLicenseObject licenseOfObject
  cases observed.lookup "uxp-license-secret" with
  | none => rfl
  | some obs =>
    simp only [Option.map_some, Option.bind_some, Resource.managed?]
    cases obs.spec <;> rfl

/-- Reading an Object back yields the Secret it was composed from. -/
theorem licenseOfObject_licenseSecret (idVal : String) (lic : License) (config : Config) :
    licenseOfObject (some (licenseSecret idVal lic config)) =
      (secret? (some lic)).map fun s =>
        { secretRef := some { name := some s.2, ns := some s.1 } } := by
  by_cases hname : (lic.secretRef.getD {}).name.getD "" = ""
  · simp [licenseOfObject, licenseSecret, stamp, Resource.managed?, licenseOfReferences, secret?,
      secretOf, hname]
  · simp [licenseOfObject, licenseSecret, stamp, Resource.managed?, licenseOfReferences, secret?,
      secretOf, hname]

theorem secret?_licenseOfObject (idVal : String) (lic : License) (config : Config) :
    secret? (licenseOfObject (some (licenseSecret idVal lic config))) = secret? (some lic) := by
  rw [licenseOfObject_licenseSecret]
  cases hs : secret? (some lic) with
  | none => rfl
  | some s =>
    obtain ⟨-, hname⟩ := secret?_eq_some_iff.mp hs
    simp [secret?, secretOf, hname]

/-- The orphan-policy sweep leaves the references alone. -/
theorem licenseOfObject_orphanPolicy (policies : List ManagementPolicy) (r : Resource) :
    licenseOfObject (some (orphanPolicy policies r)) = licenseOfObject (some r) := by
  unfold orphanPolicy
  split
  · split_ifs
    · rfl
    · rename_i spec hspec _
      simp [licenseOfObject, Resource.managed?, hspec]
  · rfl

theorem secret?_licenseOfReferences (refs : List Reference) :
    (secret? (licenseOfReferences refs)).isSome = (licenseOfReferences refs).isSome := by
  induction refs with
  | nil => rfl
  | cons ref rest ih =>
    unfold licenseOfReferences
    split
    · split_ifs with hname
      · have hne := bne_iff_ne.mp hname
        simp [secret?, secretOf, hne]
      · exact ih
    · exact ih

/-- An installed license names a Secret. -/
theorem secret?_installed_isSome (object : Option Resource) :
    (secret? (licenseOfObject object)).isSome = (licenseOfObject object).isSome := by
  unfold licenseOfObject
  cases object.bind Resource.managed? with
  | none => rfl
  | some spec => exact secret?_licenseOfReferences spec.references

variable {now : String} {req : Request}

theorem licenseClaimed_eq : req.gates.licenseClaimed = req.licenseClaim.isSome := rfl

/-- The composed Object. -/
theorem lookup_licenseObject :
    (reconcile now req).resources.lookup "uxp-license-secret" =
      req.licenseClaim.map fun claim =>
        orphanPolicy req.mgmtPolicies (licenseSecret req.idVal claim (req.config now)) := by
  have hlookup (r : Resource) :
      (reconcile now req).resources.lookup "uxp-license-secret" = some r ↔
        gate req.gates uxpLicenseSecret = true ∧ composed now req uxpLicenseSecret = r :=
    lookup_reconcile_component uxpLicenseSecret
  cases hclaim : req.licenseClaim with
  | none =>
    rw [Option.map_none, Option.eq_none_iff_forall_ne_some]
    intro r hr
    have hgate := ((hlookup r).mp hr).1
    simp [gate, licenseClaimed_eq, hclaim] at hgate
  | some claim =>
    refine (hlookup _).mpr ⟨by simp [gate, licenseClaimed_eq, hclaim], ?_⟩
    simp [composed, Component.resource, hclaim]

/-- The composed Object names the claimed Secret. -/
theorem secret?_licenseObject :
    secret? (licenseOfObject ((reconcile now req).resources.lookup "uxp-license-secret")) =
      secret? req.licenseClaim := by
  rw [lookup_licenseObject]
  cases req.licenseClaim with
  | none => rfl
  | some claim =>
    rw [Option.map_some, licenseOfObject_orphanPolicy, secret?_licenseOfObject]

/-- The license written to the status of the response. -/
def statusLicense (rsp : Response) : Option License := rsp.composite.status.bind (·.license)

/-- The status names the claimed Secret. -/
theorem secret?_status : secret? (statusLicense (reconcile now req)) = secret? req.licenseClaim :=
  secret?_licenseStatus req.licenseClaim

/-! ### Claims and conflicts -/

/-- The guard reads the XR and the list of ControlPlanes. -/
theorem licenseConflict_congr {a b : Request} (hcomposite : a.composite = b.composite)
    (hpeers : a.allControlPlanes = b.allControlPlanes) :
    a.licenseConflict = b.licenseConflict := by
  have hparam : a.licenseParam = b.licenseParam :=
    congrArg (fun xr => xr.parameters.license) hcomposite
  rw [Request.licenseConflict, Request.licenseConflict, hparam, hcomposite, hpeers]

/-- The claim is made from the requested license, the guard's answer and the installed
license. -/
theorem licenseClaim_congr {a b : Request} (hparam : a.licenseParam = b.licenseParam)
    (hconflict : a.licenseConflict = b.licenseConflict)
    (hinstalled : getInstalledLicense a.observed = getInstalledLicense b.observed) :
    a.licenseClaim = b.licenseClaim := by
  rw [Request.licenseClaim, Request.licenseClaim, Request.installedLicense,
    Request.installedLicense, hparam, hconflict, hinstalled]

/-- Without a conflict the requested license is claimed. -/
theorem licenseClaim_of_free (htruthy : License.truthy req.licenseParam = true)
    (hfree : req.licenseConflict = "") : req.licenseClaim = req.licenseParam := by
  simp [Request.licenseClaim, Request.installedLicense, htruthy, hfree]

/-- On a conflict only the installed license is claimed. -/
theorem licenseClaim_of_conflict (hconflict : req.licenseConflict ≠ "") :
    req.licenseClaim = none ∨ req.licenseClaim = getInstalledLicense req.observed := by
  unfold Request.licenseClaim Request.installedLicense
  rw [if_pos hconflict]
  split_ifs with hclaim
  · rcases hclaim.2 with hfree | hinstalled
    · exact absurd hfree hconflict
    · obtain ⟨lic, hlic⟩ := Option.isSome_iff_exists.mp hinstalled
      exact Or.inr (by rw [hlic, Option.some_or])
  · exact Or.inl rfl

/-- On a conflict an installed license is claimed. -/
theorem licenseClaim_of_installed (hconflict : req.licenseConflict ≠ "")
    (htruthy : License.truthy req.licenseParam = true)
    (hinstalled : (getInstalledLicense req.observed).isSome = true) :
    req.licenseClaim = getInstalledLicense req.observed := by
  obtain ⟨lic, hlic⟩ := Option.isSome_iff_exists.mp hinstalled
  simp [Request.licenseClaim, Request.installedLicense, htruthy, hconflict, hlic]

/-- On a conflict the installed license is the claim, if any. -/
theorem licenseClaim_eq_installed (htruthy : License.truthy req.licenseParam = true)
    (hconflict : req.licenseConflict ≠ "") :
    req.licenseClaim = getInstalledLicense req.observed := by
  cases hinstalled : getInstalledLicense req.observed with
  | some lic =>
    rw [licenseClaim_of_installed hconflict htruthy (by rw [hinstalled]; rfl), hinstalled]
  | none =>
    rcases licenseClaim_of_conflict hconflict with hclaim | hclaim
    · exact hclaim
    · rw [hclaim, hinstalled]

theorem licenseClaim_of_not_truthy (htruthy : ¬ License.truthy req.licenseParam = true) :
    req.licenseClaim = none := by
  simp [Request.licenseClaim, htruthy]

/-- Only a requested license is claimed. -/
theorem truthy_of_licenseClaim (hclaim : req.licenseClaim.isSome = true) :
    License.truthy req.licenseParam = true := by
  by_contra hnot
  rw [licenseClaim_of_not_truthy hnot] at hclaim
  cases hclaim

/-- A holder goes before every ControlPlane that is not one. -/
theorem claimOrder_lt_of_holds {myKey : String} {a b : ControlPlane}
    (ha : holds myKey a = true) (hb : holds myKey b = false) :
    claimOrder myKey a < claimOrder myKey b := by
  refine Prod.Lex.toLex_lt_toLex.mpr (Or.inl ?_)
  simp [ha, hb]

/-- A live holder of the requested key is a conflict for every other ControlPlane
that does not hold it. -/
theorem conflict_ne_empty_of_holder {xr peer : ControlPlane} {lic : Option License}
    {allCtps : List ControlPlane} (htruthy : License.truthy lic = true)
    (hmem : peer ∈ allCtps) (hother : identity peer ≠ identity xr)
    (hlive : terminating peer = false)
    (hpeer : holds (secretKey (lic.getD {})) peer = true)
    (hxr : holds (secretKey (lic.getD {})) xr = false) :
    checkLicenseConflict xr lic allCtps ≠ "" := by
  -- the holder itself is ahead, so whoever is named, somebody is
  have hahead : peer ∈ aheadOf (secretKey (lic.getD {})) xr allCtps := by
    refine List.mem_filter.mpr ⟨hmem, ?_⟩
    simp only [Bool.and_eq_true, bne_iff_ne, Bool.not_eq_true', Bool.or_eq_true,
      decide_eq_true_eq]
    exact ⟨⟨⟨hother, hlive⟩, Or.inr hpeer⟩, claimOrder_lt_of_holds hpeer hxr⟩
  have hempty : allCtps.isEmpty = false := by
    cases allCtps with
    | nil => cases hmem
    | cons => rfl
  unfold checkLicenseConflict
  rw [if_neg (by simp [htruthy, hempty])]
  cases hmin : (aheadOf (secretKey (lic.getD {})) xr allCtps).argmin
      (claimOrder (secretKey (lic.getD {}))) with
  | none =>
    rw [List.argmin_eq_none.mp hmin] at hahead
    cases hahead
  | some owner => simpa [hmin] using joinIdentity_ne_empty owner

end AzureCtp
