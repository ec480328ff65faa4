import AzureCtp.Invariance.Features
import AzureCtp.Invariance.Reads
import AzureCtp.Model.Definition

/-!
# Fallbacks and schema defaults

The schema fills omitted parameters in with its defaults, and the function reads every
field with a fallback of its own. The composed resources are the same either way. The
status block is not: it reads a missing `vmSize` as the empty string, where the AKS XR is
composed with the default, and it leaves out the block of a feature that is given as an
empty object.

## Main results

* `resources_withDefaults`: the composed resources, whatever is omitted
* `fallbacks_agree_iff`: where the whole response is the same
-/

set_option autoImplicit false

namespace AzureCtp

open Component

/-- The same request, with the defaults of the schema filled in. -/
def Request.withDefaults (req : Request) : Request :=
  { req with
    composite := { req.composite with parameters := req.composite.parameters.defaulted } }

/-! ### Parameters -/

/-- A switch that is filled in stays as it is. -/
theorem switch_map {α : Type} (param : Option α) {fill : α → α} {enabled : α → Option String}
    (hfill : ∀ x, enabled (fill x) = withDefault (enabled x) "no") :
    ((param.map fill).bind enabled == some "yes") = (param.bind enabled == some "yes") := by
  cases param with
  | none => rfl
  | some x =>
    simp only [Option.map_some, Option.bind_some, hfill]
    cases enabled x <;> rfl

theorem Parameters.enabled?_defaulted (params : Parameters) (f : OptionalFeature) :
    (f.enabled? params.defaulted == some "yes") = (f.enabled? params == some "yes") := by
  cases f with
  | backup => exact switch_map params.backup fun _ => rfl
  | k8gb => exact switch_map params.k8gb fun _ => rfl
  | argocd => exact switch_map params.argocd fun _ => rfl
  | vpa => exact switch_map params.providerVerticalPodAutoscaling fun _ => rfl
  | knative => exact switch_map params.knative fun _ => rfl

/-- A field without a default is read through the defaults. -/
theorem getD_map {α β : Type} (param : Option α) (fill : α → α) (default : α) (field : α → β)
    (hfill : ∀ x, field (fill x) = field x) :
    field ((param.map fill).getD default) = field (param.getD default) := by
  cases param with
  | none => rfl
  | some x => exact hfill x

/-! ### The license -/

theorem secretKey_defaulted (lic : License) : secretKey lic.defaulted = secretKey lic := by
  obtain ⟨ref⟩ := lic
  cases ref <;> rfl

theorem truthy_defaulted (lic : Option License) :
    License.truthy (lic.map License.defaulted) = License.truthy lic := by
  cases lic with
  | none => rfl
  | some lic =>
    obtain ⟨ref⟩ := lic
    cases ref <;> rfl

theorem licenseStatus_defaulted (claim : Option License) :
    licenseStatus (claim.map License.defaulted) = licenseStatus claim := by
  unfold licenseStatus
  rw [truthy_defaulted]
  cases claim with
  | none => rfl
  | some lic =>
    obtain ⟨ref⟩ := lic
    cases ref <;> rfl

namespace Request

variable (req : Request)

theorem licenseParam_withDefaults :
    req.withDefaults.licenseParam = req.licenseParam.map License.defaulted := rfl

theorem licenseConflict_withDefaults : req.withDefaults.licenseConflict = req.licenseConflict := by
  have hkey : secretKey ((req.licenseParam.map License.defaulted).getD {}) =
      secretKey (req.licenseParam.getD {}) :=
    getD_map req.licenseParam License.defaulted {} secretKey secretKey_defaulted
  rw [licenseConflict, licenseConflict, licenseParam_withDefaults, checkLicenseConflict,
    checkLicenseConflict, truthy_defaulted, hkey]
  rfl

/-- The claim is what it was, or the requested license filled in. -/
theorem licenseClaim_withDefaults :
    req.withDefaults.licenseClaim = req.licenseClaim ∨
      req.withDefaults.licenseClaim = req.licenseClaim.map License.defaulted := by
  have hinstalled : req.withDefaults.installedLicense = req.installedLicense := by
    rw [installedLicense, installedLicense, licenseConflict_withDefaults]
    rfl
  rw [licenseClaim, licenseClaim, licenseConflict_withDefaults, hinstalled,
    licenseParam_withDefaults, truthy_defaulted]
  split_ifs
  · -- the installed license is kept as it is read back
    cases req.installedLicense with
    | none => exact Or.inr rfl
    | some lic => exact Or.inl rfl
  · exact Or.inl rfl

theorem featuresLicensed_withDefaults :
    req.withDefaults.featuresLicensed = req.featuresLicensed := by
  rw [featuresLicensed, featuresLicensed, licenseParam_withDefaults, truthy_defaulted]
  rfl

/-! ### Switches and values -/

theorem switch_withDefaults (f : OptionalFeature) :
    f.switch req.withDefaults.gates = f.switch req.gates := by
  rw [OptionalFeature.switch_gates, OptionalFeature.switch_gates]
  exact Parameters.enabled?_defaulted req.params f

theorem backupField_withDefaults {β : Type} (field : Backup → β)
    (hfill : ∀ x : Backup, field x.defaulted = field x) :
    field req.withDefaults.backup = field req.backup :=
  getD_map req.params.backup Backup.defaulted { enabled := some "no" } field hfill

theorem k8gbField_withDefaults {β : Type} (field : K8gb → β)
    (hfill : ∀ x : K8gb, field x.defaulted = field x) :
    field (req.withDefaults.k8gb.getD {}) = field (req.k8gb.getD {}) :=
  getD_map req.params.k8gb K8gb.defaulted {} field hfill

theorem mgrArgs_withDefaults : req.withDefaults.mgrArgs = req.mgrArgs := by
  have hvpa : req.withDefaults.vpaEnabled = req.vpaEnabled := req.switch_withDefaults .vpa
  have hknative : req.withDefaults.knativeEnabled = req.knativeEnabled :=
    req.switch_withDefaults .knative
  rw [mgrArgs_eq, mgrArgs_eq, hvpa, hknative, featuresLicensed_withDefaults]
  rfl

theorem capabilities_withDefaults :
    runtimeCapabilities req.withDefaults.vpa req.withDefaults.knative req.withDefaults.vpaReady
        req.withDefaults.knativeFullyReady =
      runtimeCapabilities req.vpa req.knative req.vpaReady req.knativeFullyReady := by
  have hvpa : req.withDefaults.vpaEnabled = req.vpaEnabled := req.switch_withDefaults .vpa
  have hknative : req.withDefaults.knativeEnabled = req.knativeEnabled :=
    req.switch_withDefaults .knative
  rw [capabilities_eq, capabilities_eq, hvpa, hknative]
  rfl

theorem oidcIssuerUrl_withDefaults : req.withDefaults.oidcIssuerUrl = req.oidcIssuerUrl := by
  have hbackup : req.withDefaults.backupEnabled = req.backupEnabled :=
    req.switch_withDefaults .backup
  unfold backupEnabled at hbackup
  rw [oidcIssuerUrl, oidcIssuerUrl, extractOidcInfo, extractOidcInfo, bne, bne, hbackup]
  rfl

theorem k8gbGeoTag_withDefaults : req.withDefaults.k8gbGeoTag = req.k8gbGeoTag := by
  have hk8gb : req.withDefaults.k8gbEnabled = req.k8gbEnabled := req.switch_withDefaults .k8gb
  have htag := req.k8gbField_withDefaults K8gb.clusterGeoTag fun _ => rfl
  rw [k8gbGeoTag, k8gbGeoTag, hk8gb, deriveK8gbGeoTag, deriveK8gbGeoTag, htag]
  rfl

theorem k8gbExtGeoTags_withDefaults : req.withDefaults.k8gbExtGeoTags = req.k8gbExtGeoTags := by
  have hk8gb : req.withDefaults.k8gbEnabled = req.k8gbEnabled := req.switch_withDefaults .k8gb
  have hzone := req.k8gbField_withDefaults K8gb.dnsZone fun _ => rfl
  rw [k8gbExtGeoTags, k8gbExtGeoTags, hk8gb, hzone, k8gbGeoTag_withDefaults]
  rfl

/-- What is read from observed state with k8gb only. -/
theorem k8gbIds_withDefaults :
    req.withDefaults.k8gbPublicIp = req.k8gbPublicIp ∧
      req.withDefaults.k8gbPublicIpId = req.k8gbPublicIpId ∧
      req.withDefaults.k8gbClusterPrincipalId = req.k8gbClusterPrincipalId := by
  have hk8gb : req.withDefaults.k8gbEnabled = req.k8gbEnabled := req.switch_withDefaults .k8gb
  refine ⟨?_, ?_, ?_⟩
  · rw [k8gbPublicIp, k8gbPublicIp, hk8gb]
    rfl
  · rw [k8gbPublicIpId, k8gbPublicIpId, hk8gb]
    rfl
  · rw [k8gbClusterPrincipalId, k8gbClusterPrincipalId, hk8gb]
    rfl

end Request

/-! ### Gates and resources -/

variable (req : Request)

theorem gates_withDefaults : req.withDefaults.gates = req.gates := by
  have hclaim : req.withDefaults.licenseClaim.isSome = req.licenseClaim.isSome := by
    rcases req.licenseClaim_withDefaults with heq | heq
    · rw [heq]
    · rw [heq, Option.isSome_map]
  have hk8gb : req.withDefaults.k8gbEnabled = req.k8gbEnabled := req.switch_withDefaults .k8gb
  have hargocd : req.withDefaults.argocdEnabled = req.argocdEnabled :=
    req.switch_withDefaults .argocd
  have hbackup : req.withDefaults.backupEnabled = req.backupEnabled :=
    req.switch_withDefaults .backup
  have hvpa : req.withDefaults.vpaEnabled = req.vpaEnabled := req.switch_withDefaults .vpa
  have hknative : req.withDefaults.knativeEnabled = req.knativeEnabled :=
    req.switch_withDefaults .knative
  have hschedule := req.backupField_withDefaults Backup.schedule fun _ => rfl
  have hfrom := req.backupField_withDefaults Backup.installFrom fun _ => rfl
  obtain ⟨-, hip, hcluster⟩ := req.k8gbIds_withDefaults
  simp only [Request.gates, hclaim, hk8gb, hargocd, hbackup, hvpa, hknative, hschedule,
    Request.installFrom, hfrom, Request.k8gbRoleEmitted, hip, hcluster,
    req.oidcIssuerUrl_withDefaults, req.featuresLicensed_withDefaults]
  rfl

/-- The Secret of the claim, filled in or not. -/
theorem secretOf_licenseClaim_withDefaults :
    secretOf (req.withDefaults.licenseClaim.getD {}) = secretOf (req.licenseClaim.getD {}) := by
  rcases req.licenseClaim_withDefaults with heq | heq
  · rw [heq]
  · rw [heq]
    refine getD_map req.licenseClaim License.defaulted {} secretOf fun lic => ?_
    obtain ⟨ref⟩ := lic
    cases ref <;> rfl

/-- Every fallback is the default of the schema. -/
theorem sameReads_withDefaults : SameReads req.withDefaults req := by
  have hnodes : ∀ {β : Type} (field : Nodes → β) (_ : ∀ x, field x.defaulted = field x),
      field req.withDefaults.nodes = field req.nodes := fun field hfill =>
    getD_map req.params.nodes Nodes.defaulted {} field hfill
  have hnetwork : ∀ (field : NetworkParam → String) (_ : ∀ x, field x.defaulted = field x),
      field req.withDefaults.networkParam = field req.networkParam := fun field hfill =>
    getD_map req.params.network NetworkParam.defaulted {} field hfill
  have hargocd : ∀ (field : Argocd → String) (_ : ∀ x, field x.defaulted = field x),
      field (req.withDefaults.argocd.getD {}) = field (req.argocd.getD {}) := fun field hfill =>
    getD_map req.params.argocd Argocd.defaulted {} field hfill
  have hlocation := req.backupField_withDefaults Backup.location fun _ => rfl
  have hregion := req.backupField_withDefaults Backup.bucketRegion fun _ => rfl
  have hfrom := req.backupField_withDefaults Backup.installFrom fun _ => rfl
  obtain ⟨-, hip, hcluster⟩ := req.k8gbIds_withDefaults
  exact
    { observed := rfl
      gates := gates_withDefaults req
      config := fun _ => rfl
      idVal := rfl
      location := rfl
      providerConfig := rfl
      mgmtPolicies := rfl
      version := rfl
      count := hnodes (fun nodes => nodes.count.getD 2) fun _ => rfl
      vmSize := hnodes (fun nodes => nodes.vmSize.getD "Standard_D2s_v3") fun _ => rfl
      availabilityZones :=
        hnodes (fun nodes => nodes.availabilityZones.filter (· ≠ [])) fun _ => rfl
      addressRange := hnetwork (fun network => network.addressRange.getD _) fun _ => rfl
      generalSubnetRange := hnetwork (fun network => network.generalSubnetRange.getD _) fun _ => rfl
      uxpVersion := rfl
      mgrArgs := req.mgrArgs_withDefaults
      capabilities := req.capabilities_withDefaults
      oidcIssuerUrl := req.oidcIssuerUrl_withDefaults
      storageAccount := by rw [Request.storageAccount, Request.storageAccount, hlocation]
      containerName := by rw [Request.containerName, Request.containerName, hlocation]
      bucketRegion := by rw [Request.bucketRegion, Request.bucketRegion, hregion]; rfl
      schedule := by rw [req.backupField_withDefaults Backup.schedule fun _ => rfl]
      source := fun _ => by rw [Request.installFrom, Request.installFrom, hfrom]
      license := secretOf_licenseClaim_withDefaults req
      dnsZone := by rw [req.k8gbField_withDefaults K8gb.dnsZone fun _ => rfl]
      parentZone := by rw [req.k8gbField_withDefaults K8gb.parentZone fun _ => rfl]
      geoTag := req.k8gbGeoTag_withDefaults
      extGeoTags := req.k8gbExtGeoTags_withDefaults
      publicIpId := hip
      clusterPrincipalId := hcluster
      hostname := hargocd (fun argocd => argocd.hostname.getD "") fun _ => rfl
      url := hargocd (fun argocd => argocd.url.getD "") fun _ => rfl }

/-- The composed resources are the same, whatever is omitted. -/
theorem resources_withDefaults (now : String) :
    (reconcile now req.withDefaults).resources = (reconcile now req).resources :=
  (sameReads_withDefaults req).resources

/-! ### The status block -/

/-- The parameters give what the status block reads with another fallback than the
default: the `vmSize` of the nodes, and some field of every feature that has a block. -/
structure Parameters.Explicit (params : Parameters) : Prop where
  vmSize : ∀ nodes, params.nodes = some nodes → nodes.vmSize ≠ none
  vpa : params.providerVerticalPodAutoscaling ≠ some {}
  knative : params.knative ≠ some {}
  k8gb : params.k8gb ≠ some {}

theorem vmSize_defaulted {params : Parameters}
    (hvmSize : ∀ nodes, params.nodes = some nodes → nodes.vmSize ≠ none) :
    ((params.nodes.map Nodes.defaulted).getD {}).vmSize = (params.nodes.getD {}).vmSize := by
  cases hnodes : params.nodes with
  | none => rfl
  | some nodes =>
    obtain ⟨size, hsize⟩ := Option.ne_none_iff_exists'.mp (hvmSize nodes hnodes)
    simp [Nodes.defaulted, withDefault, hsize]

/-! The block of a feature is left out for an empty object, where the switch is `no`. -/

theorem vpaTruthy_iff (vpa : Vpa) : Vpa.truthy (some vpa) = true ↔ vpa ≠ {} := by
  obtain ⟨enabled, minCpu, maxCpu, minMemory, maxMemory⟩ := vpa
  simp only [Vpa.truthy, Option.any_some, Bool.or_eq_true, Option.isSome_iff_ne_none, ne_eq,
    Vpa.mk.injEq]
  tauto

theorem knativeTruthy_iff (knative : Knative) :
    Knative.truthy (some knative) = true ↔ knative ≠ {} := by
  obtain ⟨enabled⟩ := knative
  simp only [Knative.truthy, Option.any_some, Option.isSome_iff_ne_none, ne_eq, Knative.mk.injEq]

theorem k8gbTruthy_iff (k8gb : K8gb) : K8gb.truthy (some k8gb) = true ↔ k8gb ≠ {} := by
  obtain ⟨enabled, dnsZone, parentZone, clusterGeoTag, strategy⟩ := k8gb
  simp only [K8gb.truthy, Option.any_some, Bool.or_eq_true, Option.isSome_iff_ne_none, ne_eq,
    K8gb.mk.injEq]
  tauto

/-- Filling a dictionary in makes it truthy, so it changes the empty one only. -/
theorem truthy_map_iff {α : Type} {truthy : Option α → Bool} {fill : α → α} {empty : α}
    (htruthy : ∀ x, truthy (some x) = true ↔ x ≠ empty) (hfill : ∀ x, fill x ≠ empty)
    (param : Option α) : truthy (param.map fill) = truthy param ↔ param ≠ some empty := by
  cases param with
  | none => exact iff_of_true rfl nofun
  | some x =>
    have hfilled : truthy (some (fill x)) = true := (htruthy _).mpr (hfill x)
    rw [Option.map_some, hfilled, eq_comm, htruthy, ne_eq, ne_eq, Option.some_inj]

theorem vpaTruthy_defaulted {vpa : Option Vpa} :
    Vpa.truthy (vpa.map Vpa.defaulted) = Vpa.truthy vpa ↔ vpa ≠ some {} := by
  have hfill : ∀ x : Vpa, x.defaulted ≠ {} := fun _ => nofun
  exact truthy_map_iff vpaTruthy_iff hfill vpa

theorem knativeTruthy_defaulted {knative : Option Knative} :
    Knative.truthy (knative.map Knative.defaulted) = Knative.truthy knative ↔
      knative ≠ some {} := by
  have hfill : ∀ x : Knative, x.defaulted ≠ {} := fun _ => nofun
  exact truthy_map_iff knativeTruthy_iff hfill knative

theorem k8gbTruthy_defaulted {k8gb : Option K8gb} :
    K8gb.truthy (k8gb.map K8gb.defaulted) = K8gb.truthy k8gb ↔ k8gb ≠ some {} := by
  have hfill : ∀ x : K8gb, x.defaulted ≠ {} := fun _ => nofun
  exact truthy_map_iff k8gbTruthy_iff hfill k8gb

/-- Apart from being there, the block of k8gb does not depend on the defaults. -/
theorem k8gbStatus_defaulted {k8gb : Option K8gb} (hk8gb : k8gb ≠ some {})
    (geoTag publicIp : String) (deployed : Bool) (observed : Observed) :
    k8gbStatus (k8gb.map K8gb.defaulted) geoTag publicIp deployed observed =
      k8gbStatus k8gb geoTag publicIp deployed observed := by
  have henabled : ((k8gb.map K8gb.defaulted).getD {}).enabled.getD "no" =
      (k8gb.getD {}).enabled.getD "no" :=
    getD_map k8gb K8gb.defaulted {} (fun param => param.enabled.getD "no") fun _ => rfl
  have hswitch : (((k8gb.map K8gb.defaulted).getD {}).enabled == some "yes") =
      ((k8gb.getD {}).enabled == some "yes") :=
    getD_map k8gb K8gb.defaulted {} (fun param => param.enabled == some "yes") fun param => by
      obtain ⟨enabled, dnsZone, parentZone, clusterGeoTag, strategy⟩ := param
      cases enabled <;> rfl
  have hdns := getD_map k8gb K8gb.defaulted {} K8gb.dnsZone fun _ => rfl
  have hparent := getD_map k8gb K8gb.defaulted {} K8gb.parentZone fun _ => rfl
  simp only [k8gbStatus, k8gbTruthy_defaulted.mpr hk8gb, henabled, hswitch, hdns, hparent]

/-- The status block of explicit parameters does not depend on the defaults. -/
theorem status_withDefaults (hexplicit : req.params.Explicit) (now : String)
    (creationTimestamp : Option String) :
    req.withDefaults.status now creationTimestamp = req.status now creationTimestamp := by
  have hsize : req.withDefaults.nodes.vmSize = req.nodes.vmSize :=
    vmSize_defaulted hexplicit.vmSize
  have hmismatch : req.withDefaults.ngSizeMismatch = req.ngSizeMismatch := by
    rw [Request.ngSizeMismatch, Request.ngSizeMismatch, hsize]
    rfl
  have hbackup : (req.withDefaults.backup.enabled == some "yes") =
      (req.backup.enabled == some "yes") := req.switch_withDefaults .backup
  have hlocation := req.backupField_withDefaults Backup.location fun _ => rfl
  have hlicense : licenseStatus req.withDefaults.licenseClaim = licenseStatus req.licenseClaim := by
    rcases req.licenseClaim_withDefaults with heq | heq
    · rw [heq]
    · rw [heq, licenseStatus_defaulted]
  have hvpaTruthy : Vpa.truthy req.withDefaults.vpa = Vpa.truthy req.vpa :=
    vpaTruthy_defaulted.mpr hexplicit.vpa
  have hvpa : (req.withDefaults.vpa.getD {}).enabled.getD "no" =
      (req.vpa.getD {}).enabled.getD "no" :=
    getD_map req.params.providerVerticalPodAutoscaling Vpa.defaulted {}
      (fun vpa => vpa.enabled.getD "no") fun _ => rfl
  have hknativeTruthy : Knative.truthy req.withDefaults.knative = Knative.truthy req.knative :=
    knativeTruthy_defaulted.mpr hexplicit.knative
  have hknative : (req.withDefaults.knative.getD {}).enabled.getD "no" =
      (req.knative.getD {}).enabled.getD "no" :=
    getD_map req.params.knative Knative.defaulted {}
      (fun knative => knative.enabled.getD "no") fun _ => rfl
  have hk8gb : ∀ geoTag publicIp deployed observed,
      k8gbStatus req.withDefaults.k8gb geoTag publicIp deployed observed =
        k8gbStatus req.k8gb geoTag publicIp deployed observed :=
    k8gbStatus_defaulted hexplicit.k8gb
  obtain ⟨hip, -, -⟩ := req.k8gbIds_withDefaults
  simp only [Request.status, controlPlaneStatus, backupStatus, vmSizeCondition, hsize, hmismatch,
    hbackup, hlocation, hlicense, hvpaTruthy, hvpa, hknativeTruthy, hknative, hk8gb, hip,
    req.k8gbGeoTag_withDefaults, req.licenseConflict_withDefaults]
  rfl

theorem truthy_eq_of_blocks {t t' : Bool} {x x' : String}
    (hblocks : (if t then some x else none) = if t' then some x' else none) : t = t' := by
  cases t <;> cases t' <;> first | rfl | cases hblocks

theorem k8gbStatus_isSome (k8gb : Option K8gb) (geoTag publicIp : String) (deployed : Bool)
    (observed : Observed) :
    (k8gbStatus k8gb geoTag publicIp deployed observed).isSome = K8gb.truthy k8gb := by
  unfold k8gbStatus
  cases K8gb.truthy k8gb with
  | false => rfl
  | true =>
    dsimp only
    split_ifs <;> first | rfl | contradiction

/-- A status block that does not depend on the defaults is of explicit parameters. -/
theorem explicit_of_status {now : String} {creationTimestamp : Option String}
    (hstatus : req.withDefaults.status now creationTimestamp = req.status now creationTimestamp) :
    req.params.Explicit where
  vmSize nodes hnodes hsize := by
    have hread : req.nodes = nodes := by rw [Request.nodes, hnodes, Option.getD_some]
    have hfilled : req.withDefaults.nodes = nodes.defaulted := by
      change (req.params.nodes.map Nodes.defaulted).getD {} = nodes.defaulted
      rw [hnodes, Option.map_some, Option.getD_some]
    have hsizes : req.withDefaults.nodes.vmSize.getD "" = req.nodes.vmSize.getD "" :=
      congrArg (fun status => status.nodes.vmSize) hstatus
    rw [hread, hfilled, Nodes.defaulted, hsize] at hsizes
    -- the status shows an omitted size as empty
    have hne : "Standard_D2s_v3" ≠ "" := by decide
    exact hne hsizes
  vpa := by
    have hblocks : (if Vpa.truthy req.withDefaults.vpa then
        some ((req.withDefaults.vpa.getD {}).enabled.getD "no") else none) =
        if Vpa.truthy req.vpa then some ((req.vpa.getD {}).enabled.getD "no") else none :=
      congrArg ControlPlaneStatus.providerVerticalPodAutoscaling hstatus
    exact vpaTruthy_defaulted.mp (truthy_eq_of_blocks hblocks)
  knative := by
    have hblocks : (if Knative.truthy req.withDefaults.knative then
        some ((req.withDefaults.knative.getD {}).enabled.getD "no") else none) =
        if Knative.truthy req.knative then some ((req.knative.getD {}).enabled.getD "no")
        else none := congrArg ControlPlaneStatus.knative hstatus
    exact knativeTruthy_defaulted.mp (truthy_eq_of_blocks hblocks)
  k8gb := by
    have hblocks : (req.withDefaults.status now creationTimestamp).k8gb.isSome =
        (req.status now creationTimestamp).k8gb.isSome :=
      congrArg (fun status => status.k8gb.isSome) hstatus
    rw [Request.status, controlPlaneStatus, k8gbStatus_isSome, Request.status,
      controlPlaneStatus, k8gbStatus_isSome] at hblocks
    exact k8gbTruthy_defaulted.mp hblocks

/-- **Fallbacks and defaults agree** on the whole response exactly for explicit
parameters. -/
theorem fallbacks_agree_iff (now : String) (req : Request) :
    reconcile now req.withDefaults = reconcile now req ↔ req.params.Explicit := by
  constructor
  · intro hsame
    have hstatus : some (req.withDefaults.status now none) = some (req.status now none) :=
      congrArg (fun rsp => rsp.composite.status) hsame
    exact explicit_of_status req (Option.some.inj hstatus)
  · intro hexplicit
    have hk8gb : req.withDefaults.k8gbEnabled = req.k8gbEnabled := req.switch_withDefaults .k8gb
    have hresources := resources_withDefaults req now
    simp only [reconcile, Request.peersSelector] at hresources ⊢
    rw [hresources, status_withDefaults req hexplicit, hk8gb, req.licenseParam_withDefaults,
      truthy_defaulted]
    rfl

/-- A control plane with the parameters the schema requires, its `vmSize` omitted. -/
def sizeOmitted : Request where
  composite := { parameters := Parameters.required "cp" "eastus" { count := some 3 } }

/-- The schema admits it, and its status names no size where the default would be named. -/
theorem not_fallbacks_agree_sizeOmitted :
    sizeOmitted.params.admitted = true ∧
      reconcile "2026-03-01T00:00:00Z" sizeOmitted.withDefaults ≠
        reconcile "2026-03-01T00:00:00Z" sizeOmitted := by
  refine ⟨by decide, fun hsame => ?_⟩
  have hstatus := congrArg (fun rsp => rsp.composite.status.map fun s => s.nodes.vmSize) hsame
  exact absurd hstatus (by decide)

end AzureCtp
