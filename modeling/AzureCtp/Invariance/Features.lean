import AzureCtp.License.Claim

/-!
# What a disabled feature reaches

The parameters and the observed resources of every feature are read up front, whether it
is enabled or not. With its switch off they reach nothing that is composed: the gates of
its own components are closed, and where the others share a value with it (the manager
arguments, the capabilities, the workload-identity gate) the value is masked by the
switch.

## Main results

* `owner_eq_some_iff`: the components of a feature are those only its switch lets through
* `SameBut.gate_eq`, `SameBut.resource_eq`: gates and resources of two such requests
* `disabled_without_influence`: the composed resources and the license claim
-/

set_option autoImplicit false

namespace AzureCtp

open Component

/-- The features that a spec switches on. -/
inductive OptionalFeature where
  | backup
  | k8gb
  | argocd
  | vpa
  | knative
  deriving DecidableEq, Repr

namespace OptionalFeature

/-- `enabled` of the feature, where the parameters give it. -/
def enabled? (params : Parameters) : OptionalFeature → Option String
  | backup => params.backup.bind (·.enabled)
  | k8gb => params.k8gb.bind (·.enabled)
  | argocd => params.argocd.bind (·.enabled)
  | vpa => params.providerVerticalPodAutoscaling.bind (·.enabled)
  | knative => params.knative.bind (·.enabled)

/-- `enabled` is given and not `yes`. -/
def Off (f : OptionalFeature) (params : Parameters) : Prop :=
  ∃ value, f.enabled? params = some value ∧ value ≠ "yes"

/-- The switch among the gates. -/
def switch (g : Gates) : OptionalFeature → Bool
  | backup => g.backup
  | k8gb => g.k8gb
  | argocd => g.argocd
  | vpa => g.vpa
  | knative => g.knative

/-- The parameters without those of the feature. -/
def erase (f : OptionalFeature) (params : Parameters) : Parameters :=
  match f with
  | backup => { params with backup := none }
  | k8gb => { params with k8gb := none }
  | argocd => { params with argocd := none }
  | vpa => { params with providerVerticalPodAutoscaling := none }
  | knative => { params with knative := none }

/-- A ControlPlane without the parameters of the feature. -/
def without (f : OptionalFeature) (cp : ControlPlane) : ControlPlane :=
  { cp with parameters := f.erase cp.parameters }

/-- All gates open but the switch of the feature. -/
def othersOpen (f : OptionalFeature) : Gates where
  k8gb := f != k8gb
  argocd := f != argocd
  backup := f != backup
  vpa := f != vpa
  knative := f != knative
  k8gbRole := true
  gatewayReady := true
  certmanagerReady := true
  argocdDeployed := true
  schedule := true
  workloadIdentity := true
  backupRole := true
  restore := true
  licenseClaimed := true
  featuresLicensed := true
  knativeDepsReady := true
  vpaReady := true
  knativeFullyReady := true

end OptionalFeature

/-- The feature that alone composes the component. -/
def Component.owner : Component → Option OptionalFeature
  | backupStorageAccount | backupContainer | backupConfig | backupRbac | backupRbacBinding
  | backupSchedule | backupIdentity | backupFederation | backupRole | backupSa
  | controllerRestart | backupRestore => some .backup
  | usageK8gbAks | usageK8gbCorednsAks | usageK8gbIpRelease | usageK8gbIpRoleRelease
  | k8gbIp | k8gbIpRole | k8gbRelease | k8gbCorednsObserve => some .k8gb
  | usageArgocdAks | usageArgocdIssuerAks | usageArgocdCertAks | usageArgocdGatewayAks
  | usageArgocdHttprouteAks | usageArgocdAppAks | argocdRelease | argocdGateway
  | argocdHttproute | argocdIssuer | argocdCert | argocdApp => some .argocd
  | vpaRelease => some .vpa
  | knativeOperatorRelease | knativeServingNs | knativeServingCr => some .knative
  | _ => none

/-- The components of a feature are those that only its switch lets through. -/
theorem owner_eq_some_iff (c : Component) (f : OptionalFeature) :
    c.owner = some f ↔ ∀ g : Gates, c.gate g = true → f.switch g = true := by
  constructor
  · intro hown g hgate
    cases c <;> cases hown <;> simp_all [gate, OptionalFeature.switch]
  · intro hall
    have hopen : ∀ c ∈ all, c.owner ≠ some f → c.gate f.othersOpen = true := by
      cases f <;> decide
    have hoff : f.switch f.othersOpen = false := by cases f <;> rfl
    by_contra hown
    rw [hall _ (hopen c (mem_all c) hown)] at hoff
    cases hoff

/-! ### Two requests that differ in a disabled feature -/

/-- Two requests that differ only in the parameters of the feature, of the ControlPlane
itself and of the listed ones, and in the observed resources of its components. -/
structure SameBut (f : OptionalFeature) (a b : Request) : Prop where
  composite : f.without a.composite = f.without b.composite
  peers : a.allControlPlanes.map f.without = b.allControlPlanes.map f.without
  observed : ∀ n, (∀ c : Component, c.owner = some f → c.name ≠ n) →
    a.observed.lookup n = b.observed.lookup n

namespace OptionalFeature

theorem switch_gates (g : OptionalFeature) (req : Request) :
    g.switch req.gates = (g.enabled? req.params == some "yes") := by
  cases g with
  | backup =>
    simp only [switch, Request.gates, Request.backupEnabled, Request.backup, enabled?]
    cases req.params.backup with
    | none => rfl
    | some backup => rfl
  | k8gb =>
    simp only [switch, Request.gates, Request.k8gbEnabled, Request.k8gb, enabled?]
    cases req.params.k8gb <;> rfl
  | argocd =>
    simp only [switch, Request.gates, Request.argocdEnabled, Request.argocd, enabled?]
    cases req.params.argocd <;> rfl
  | vpa =>
    simp only [switch, Request.gates, Request.vpaEnabled, Request.vpa, enabled?]
    cases req.params.providerVerticalPodAutoscaling <;> rfl
  | knative =>
    simp only [switch, Request.gates, Request.knativeEnabled, Request.knative, enabled?]
    cases req.params.knative <;> rfl

theorem Off.switch_eq {f : OptionalFeature} {req : Request} (hoff : f.Off req.params) :
    f.switch req.gates = false := by
  obtain ⟨value, hvalue, hne⟩ := hoff
  rw [switch_gates, hvalue]
  simpa using hne

theorem enabled?_erase {f g : OptionalFeature} (hne : g ≠ f) (params : Parameters) :
    g.enabled? (f.erase params) = g.enabled? params := by
  cases f <;> cases g <;> first | rfl | exact absurd rfl hne

end OptionalFeature

/-- The manager's arguments depend on VPA and Knative only through their being on. -/
theorem mgrArgs_eq (req : Request) : req.mgrArgs =
    (if (req.vpaEnabled && req.vpaReady) && req.featuresLicensed then
      ["--enable-provider-vpa"] else []) ++
    if (req.knativeEnabled && req.knativeFullyReady) && req.featuresLicensed then
      ["--enable-knative-runtime"] else [] := rfl

/-- So do the capabilities. -/
theorem capabilities_eq (req : Request) :
    runtimeCapabilities req.vpa req.knative req.vpaReady req.knativeFullyReady =
      (if req.vpaEnabled && req.vpaReady then ["ProviderVPA"] else []) ++
      if req.knativeEnabled && req.knativeFullyReady then
        ["FunctionKnativeRuntime"] else [] := rfl

namespace SameBut

variable {f : OptionalFeature} {a b : Request}

/-- Parameters that are not the feature's. -/
theorem param {α : Type} (h : SameBut f a b) (proj : Parameters → α)
    (hproj : ∀ params, proj (f.erase params) = proj params) : proj a.params = proj b.params := by
  have herase : f.erase a.params = f.erase b.params :=
    congrArg ControlPlane.parameters h.composite
  rw [← hproj a.params, herase, hproj]

/-- The switches of the other features. -/
theorem switch_of_ne (h : SameBut f a b) {g : OptionalFeature} (hg : f ≠ g) :
    g.switch a.gates = g.switch b.gates := by
  rw [OptionalFeature.switch_gates, OptionalFeature.switch_gates,
    h.param g.enabled? (OptionalFeature.enabled?_erase hg.symm)]

theorem switch_eq (h : SameBut f a b) (ha : f.Off a.params) (hb : f.Off b.params)
    (g : OptionalFeature) : g.switch a.gates = g.switch b.gates := by
  by_cases hg : f = g
  · -- off in both requests
    rw [← hg, ha.switch_eq, hb.switch_eq]
  · exact h.switch_of_ne hg

/-! #### Observed state -/

/-- A component of another feature is observed alike. -/
theorem owner_ne {g : OptionalFeature} (hg : f ≠ g) {c : Component} (hown : c.owner = some g) :
    c.owner ≠ some f := fun hf => hg (Option.some.inj (hf.symm.trans hown))

/-- So is a component of no feature. -/
theorem shared_ne {c : Component} (hown : c.owner = none) : c.owner ≠ some f := by
  rw [hown]
  exact nofun

theorem lookup_eq (h : SameBut f a b) (c : Component) (hc : c.owner ≠ some f) :
    a.observed.lookup c.name = b.observed.lookup c.name :=
  h.observed c.name fun _ hown hname => hc (name_injective hname ▸ hown)

theorem readStatus_eq (h : SameBut f a b) (c : Component) (hc : c.owner ≠ some f)
    (field : ResourceStatus → Option String) :
    readStatus a.observed c.name field = readStatus b.observed c.name field := by
  rw [readStatus, readStatus, h.lookup_eq c hc]

theorem deployed_eq (h : SameBut f a b) (c : Component) (hc : c.owner ≠ some f) :
    isReleaseDeployed a.observed c.name = isReleaseDeployed b.observed c.name := by
  rw [isReleaseDeployed, isReleaseDeployed, h.readStatus_eq c hc]

/-! #### The license -/

theorem licenseParam (h : SameBut f a b) : a.licenseParam = b.licenseParam :=
  h.param Parameters.license (by cases f <;> exact fun _ => rfl)

/-- The guard does not read the parameters of a feature. -/
theorem checkLicenseConflict_without (f : OptionalFeature) (xr : ControlPlane)
    (lic : Option License) (cps : List ControlPlane) :
    checkLicenseConflict (f.without xr) lic (cps.map f.without) =
      checkLicenseConflict xr lic cps := by
  have hlicense : ∀ cp, (f.without cp).parameters.license = cp.parameters.license := by
    cases f <;> exact fun _ => rfl
  -- who is ahead is decided by metadata and license only
  have hahead : ∀ myKey, aheadOf myKey (f.without xr) (cps.map f.without) =
      (aheadOf myKey xr cps).map f.without := by
    intro myKey
    rw [aheadOf, aheadOf, List.filter_map]
    congr 2
    funext cp
    simp only [Function.comp_apply, hlicense]
    rfl
  unfold checkLicenseConflict
  rw [List.isEmpty_map]
  split_ifs
  · rfl
  · have hkey : ∀ myKey, claimOrder myKey ∘ f.without = claimOrder myKey := fun _ => rfl
    simp only [hahead, Election.argmin_map, hkey]
    cases (aheadOf (secretKey (lic.getD {})) xr cps).argmin
      (claimOrder (secretKey (lic.getD {}))) <;> rfl

theorem licenseConflict (h : SameBut f a b) : a.licenseConflict = b.licenseConflict := by
  rw [Request.licenseConflict, ← checkLicenseConflict_without f, h.composite, h.peers,
    checkLicenseConflict_without, h.licenseParam, Request.licenseConflict]

theorem licenseClaim (h : SameBut f a b) : a.licenseClaim = b.licenseClaim := by
  refine licenseClaim_congr h.licenseParam h.licenseConflict ?_
  have hsecret := h.lookup_eq .uxpLicenseSecret (shared_ne rfl)
  rw [Component.name] at hsecret
  rw [getInstalledLicense, getInstalledLicense, hsecret]

theorem featuresLicensed (h : SameBut f a b) : a.featuresLicensed = b.featuresLicensed := by
  have hlicense := h.lookup_eq .uxpLicense (shared_ne rfl)
  rw [Component.name] at hlicense
  rw [Request.featuresLicensed, Request.featuresLicensed, Request.licenseApplied,
    Request.licenseApplied, isLicenseApplied, isLicenseApplied, h.licenseParam, hlicense]

/-! #### Values shared with the feature -/

theorem vpaOn_eq (h : SameBut f a b) (ha : f.Off a.params) (hb : f.Off b.params) :
    (a.vpaEnabled && a.vpaReady) = (b.vpaEnabled && b.vpaReady) := by
  have hswitch : a.vpaEnabled = b.vpaEnabled := h.switch_eq ha hb .vpa
  by_cases hf : f = .vpa
  · have hoff : b.vpaEnabled = false := (hf ▸ hb : OptionalFeature.vpa.Off b.params).switch_eq
    rw [hswitch, hoff]
    rfl
  · have hready : a.vpaReady = b.vpaReady :=
      h.deployed_eq .vpaRelease (owner_ne hf rfl)
    rw [hswitch, hready]

theorem operatorReady (h : SameBut f a b) (hf : f ≠ .knative) :
    a.knativeOpReady = b.knativeOpReady :=
  h.deployed_eq .knativeOperatorRelease (owner_ne hf rfl)

theorem certmanagerReady (h : SameBut f a b) : a.certmanagerReady = b.certmanagerReady :=
  h.deployed_eq .certmanagerRelease (shared_ne rfl)

theorem knativeDepsReady (h : SameBut f a b) (hf : f ≠ .knative) :
    a.knativeDepsReady = b.knativeDepsReady := by
  rw [Request.knativeDepsReady, Request.knativeDepsReady, h.certmanagerReady, h.operatorReady hf]

theorem knativeOn_eq (h : SameBut f a b) (ha : f.Off a.params) (hb : f.Off b.params) :
    (a.knativeEnabled && a.knativeFullyReady) = (b.knativeEnabled && b.knativeFullyReady) := by
  have hswitch : a.knativeEnabled = b.knativeEnabled := h.switch_eq ha hb .knative
  by_cases hf : f = .knative
  · have hoff : b.knativeEnabled = false :=
      (hf ▸ hb : OptionalFeature.knative.Off b.params).switch_eq
    rw [hswitch, hoff]
    rfl
  · have hserving := h.lookup_eq .knativeServingCr (owner_ne hf rfl)
    rw [Component.name] at hserving
    have hready : a.knativeFullyReady = b.knativeFullyReady := by
      rw [Request.knativeFullyReady, Request.knativeFullyReady, h.knativeDepsReady hf,
        Request.knativeServingReady, Request.knativeServingReady, isKnativeServingReady,
        isKnativeServingReady, hserving]
    rw [hswitch, hready]

theorem mgrArgs (h : SameBut f a b) (ha : f.Off a.params) (hb : f.Off b.params) :
    a.mgrArgs = b.mgrArgs := by
  rw [mgrArgs_eq, mgrArgs_eq, h.vpaOn_eq ha hb, h.knativeOn_eq ha hb, h.featuresLicensed]

theorem capabilities (h : SameBut f a b) (ha : f.Off a.params) (hb : f.Off b.params) :
    runtimeCapabilities a.vpa a.knative a.vpaReady a.knativeFullyReady =
      runtimeCapabilities b.vpa b.knative b.vpaReady b.knativeFullyReady := by
  rw [capabilities_eq, capabilities_eq, h.vpaOn_eq ha hb, h.knativeOn_eq ha hb]

theorem idVal (h : SameBut f a b) : a.idVal = b.idVal :=
  h.param (fun params => params.id.getD "") (by cases f <;> exact fun _ => rfl)

theorem location (h : SameBut f a b) : a.location = b.location :=
  h.param (fun params => params.location.getD "") (by cases f <;> exact fun _ => rfl)

theorem k8gbParam (h : SameBut f a b) (hf : f ≠ .k8gb) : a.k8gb = b.k8gb :=
  h.param Parameters.k8gb (by cases f <;> first | exact fun _ => rfl | exact absurd rfl hf)

theorem geoTags (h : SameBut f a b) (hf : f ≠ .k8gb) :
    a.k8gbGeoTag = b.k8gbGeoTag ∧ a.k8gbExtGeoTags = b.k8gbExtGeoTags := by
  have hk8gb := h.k8gbParam hf
  have henabled : a.k8gbEnabled = b.k8gbEnabled := by
    rw [Request.k8gbEnabled, Request.k8gbEnabled, hk8gb]
  have htag : a.k8gbGeoTag = b.k8gbGeoTag := by
    rw [Request.k8gbGeoTag, Request.k8gbGeoTag, henabled, hk8gb, h.location, h.idVal]
  -- a peer is read for its id, its location and its k8gb alone
  have hround : ∀ idVal zone tag, peerGeoTag? idVal zone tag ∘ f.without =
      peerGeoTag? idVal zone tag := by
    intro idVal zone tag
    cases f <;> first | rfl | exact absurd rfl hf
  have hpeers : ∀ idVal zone tag (cps : List ControlPlane),
      deriveK8gbExtGeoTags idVal zone tag (cps.map f.without) =
        deriveK8gbExtGeoTags idVal zone tag cps := by
    intro idVal zone tag cps
    rw [deriveK8gbExtGeoTags, deriveK8gbExtGeoTags, List.filterMap_map, hround]
  refine ⟨htag, ?_⟩
  rw [Request.k8gbExtGeoTags, Request.k8gbExtGeoTags, ← hpeers, h.peers, hpeers, henabled,
    h.idVal, hk8gb, htag]

/-! #### Values of the other features -/

theorem k8gbIds (h : SameBut f a b) (hf : f ≠ .k8gb) :
    a.k8gbPublicIpId = b.k8gbPublicIpId ∧ a.k8gbClusterPrincipalId = b.k8gbClusterPrincipalId := by
  have hk8gb := h.k8gbParam hf
  have hip : extractK8gbPublicIpId a.observed = extractK8gbPublicIpId b.observed :=
    h.readStatus_eq .k8gbIp (owner_ne hf rfl) _
  have hcluster : getClusterPrincipalId a.observed = getClusterPrincipalId b.observed :=
    h.readStatus_eq .aks (shared_ne rfl) _
  constructor
  · rw [Request.k8gbPublicIpId, Request.k8gbPublicIpId, Request.k8gbEnabled,
      Request.k8gbEnabled, hk8gb, hip]
  · rw [Request.k8gbClusterPrincipalId, Request.k8gbClusterPrincipalId, Request.k8gbEnabled,
      Request.k8gbEnabled, hk8gb, hcluster]

theorem backupParam (h : SameBut f a b) (hf : f ≠ .backup) : a.backup = b.backup :=
  h.param (fun params => params.backup.getD { enabled := some "no" })
    (by cases f <;> first | exact fun _ => rfl | exact absurd rfl hf)

theorem oidcIssuerUrl (h : SameBut f a b) (hf : f ≠ .backup) :
    a.oidcIssuerUrl = b.oidcIssuerUrl := by
  have haks := h.readStatus_eq .aks (shared_ne rfl) fun status => status.aks.oidcUrl
  rw [Component.name] at haks
  rw [Request.oidcIssuerUrl, Request.oidcIssuerUrl, extractOidcInfo, extractOidcInfo,
    h.backupParam hf, haks]

theorem uxpDeployed (h : SameBut f a b) : a.uxpDeployed = b.uxpDeployed :=
  h.deployed_eq .uxpRelease (shared_ne rfl)

theorem gatewayReady (h : SameBut f a b) : a.gatewayReady = b.gatewayReady :=
  h.deployed_eq .envoyGatewayRelease (shared_ne rfl)

theorem argocdDeployed (h : SameBut f a b) (hf : f ≠ .argocd) :
    a.argocdDeployed = b.argocdDeployed :=
  h.deployed_eq .argocdRelease (owner_ne hf rfl)

theorem identityIds (h : SameBut f a b) (hf : f ≠ .backup) :
    a.clientId = b.clientId ∧ a.principalId = b.principalId ∧
      a.storageAccountId = b.storageAccountId := by
  have hidentity := h.readStatus_eq .backupIdentity (owner_ne hf rfl)
  have haccount := h.readStatus_eq .backupStorageAccount (owner_ne hf rfl)
  exact ⟨hidentity fun status => status.atProvider.clientId,
    hidentity fun status => status.atProvider.principalId,
    haccount fun status => status.atProvider.id⟩

/-! #### Gates -/

/-- A component of another feature. -/
theorem gate_other (h : SameBut f a b) {c : Component} {g : OptionalFeature}
    (hown : c.owner = some g) (hg : f ≠ g) : c.gate a.gates = c.gate b.gates := by
  have hswitch := h.switch_of_ne hg
  cases g with
  | backup =>
    obtain ⟨-, hprincipal, haccount⟩ := h.identityIds hg
    change a.backupEnabled = b.backupEnabled at hswitch
    cases c <;> first
      | contradiction
      | simp only [gate, hswitch, Request.gates, Request.installFrom, h.backupParam hg,
          h.oidcIssuerUrl hg, h.uxpDeployed, hprincipal, haccount]
  | k8gb =>
    obtain ⟨hip, hcluster⟩ := h.k8gbIds hg
    change a.k8gbEnabled = b.k8gbEnabled at hswitch
    cases c <;> first
      | contradiction
      | simp only [gate, hswitch, Request.gates, Request.k8gbRoleEmitted, hip, hcluster]
  | argocd =>
    change a.argocdEnabled = b.argocdEnabled at hswitch
    cases c <;> first
      | contradiction
      | simp only [gate, hswitch, Request.gates, h.gatewayReady, h.certmanagerReady,
          h.argocdDeployed hg]
  | vpa =>
    change a.vpaEnabled = b.vpaEnabled at hswitch
    cases c <;> first
      | contradiction
      | simp only [gate, hswitch, Request.gates, h.featuresLicensed]
  | knative =>
    change a.knativeEnabled = b.knativeEnabled at hswitch
    cases c <;> first
      | contradiction
      | simp only [gate, hswitch, Request.gates, h.featuresLicensed, h.knativeDepsReady hg]

/-- A component of no feature. -/
theorem gate_shared (h : SameBut f a b) (ha : f.Off a.params) (hb : f.Off b.params)
    {c : Component} (hown : c.owner = none) : c.gate a.gates = c.gate b.gates := by
  have hk8gb : a.k8gbEnabled = b.k8gbEnabled := h.switch_eq ha hb .k8gb
  have hargocd : a.argocdEnabled = b.argocdEnabled := h.switch_eq ha hb .argocd
  cases c <;> first
    | contradiction
    | rfl
    | simp only [gate, Request.gates, hk8gb, hargocd, h.gatewayReady, h.licenseClaim,
        h.vpaOn_eq ha hb, h.knativeOn_eq ha hb]

/-- The gate of a component of the feature is closed. -/
theorem gate_own (hoff : f.Off a.params) {c : Component} (hown : c.owner = some f) :
    c.gate a.gates = false := by
  rw [← Bool.not_eq_true]
  intro hgate
  have hon := (owner_eq_some_iff c f).mp hown a.gates hgate
  rw [hoff.switch_eq] at hon
  cases hon

theorem gate_eq (h : SameBut f a b) (ha : f.Off a.params) (hb : f.Off b.params) (c : Component) :
    c.gate a.gates = c.gate b.gates := by
  cases hown : c.owner with
  | none => exact h.gate_shared ha hb hown
  | some g =>
    by_cases hg : f = g
    · subst hg
      rw [gate_own ha hown, gate_own hb hown]
    · exact h.gate_other hown hg

/-! #### Resources -/

theorem providerConfig (h : SameBut f a b) : a.providerConfig = b.providerConfig :=
  h.param (fun params => params.providerConfigName.getD "default")
    (by cases f <;> exact fun _ => rfl)

theorem managementMode (h : SameBut f a b) : a.managementMode = b.managementMode :=
  h.param (fun params => params.managementMode.getD "Full") (by cases f <;> exact fun _ => rfl)

theorem mgmtPolicies (h : SameBut f a b) : a.mgmtPolicies = b.mgmtPolicies := by
  rw [Request.mgmtPolicies, Request.mgmtPolicies, h.managementMode]

theorem config (h : SameBut f a b) (now : String) : a.config now = b.config now := by
  have hmetadata : (f.without a.composite).metadata = (f.without b.composite).metadata :=
    congrArg ControlPlane.metadata h.composite
  change a.composite.metadata = b.composite.metadata at hmetadata
  rw [Request.config, Request.config, Request.ns, Request.ns, hmetadata, h.managementMode]

/-- A component of no feature that is not told which features are on. -/
theorem resource_untold (h : SameBut f a b) (now : String) {c : Component} (hown : c.owner = none)
    (huxp : c ≠ .uxpRelease) (hruntime : c ≠ .upboundRuntimeConfig) :
    c.resource now a = c.resource now b := by
  have hversion : a.version = b.version :=
    h.param (fun params => params.version.getD "1.34") (by cases f <;> exact fun _ => rfl)
  have hnodes : a.nodes = b.nodes :=
    h.param (fun params => params.nodes.getD {}) (by cases f <;> exact fun _ => rfl)
  have hnetwork : a.networkParam = b.networkParam :=
    h.param (fun params => params.network.getD {}) (by cases f <;> exact fun _ => rfl)
  cases c <;> first
    | contradiction
    | simp only [resource, h.idVal, h.location, h.providerConfig, h.mgmtPolicies, h.config,
        hversion, hnodes, hnetwork, h.certmanagerReady, h.gatewayReady, h.licenseClaim]

theorem resource_shared (h : SameBut f a b) (ha : f.Off a.params) (hb : f.Off b.params)
    (now : String) {c : Component} (hown : c.owner = none) :
    c.resource now a = c.resource now b := by
  have huxp : a.uxpVersion = b.uxpVersion :=
    h.param (fun params => (params.uxp.getD {}).version.getD "2.2.1-up.1")
      (by cases f <;> exact fun _ => rfl)
  by_cases hrelease : c = .uxpRelease
  · simp only [hrelease, resource, h.idVal, h.config, huxp, h.uxpDeployed, h.mgrArgs ha hb]
  · by_cases hruntime : c = .upboundRuntimeConfig
    · simp only [hruntime, resource, h.idVal, h.config, h.capabilities ha hb]
    · exact h.resource_untold now hown hrelease hruntime

theorem resource_other (h : SameBut f a b) (now : String) {c : Component} {g : OptionalFeature}
    (hown : c.owner = some g) (hg : f ≠ g) : c.resource now a = c.resource now b := by
  cases g with
  | backup =>
    obtain ⟨hclient, hprincipal, haccount⟩ := h.identityIds hg
    cases c <;> first
      | contradiction
      | simp only [resource, h.idVal, h.location, h.providerConfig, h.config,
          Request.bucketRegion, Request.storageAccount, Request.containerName,
          Request.installFrom, h.backupParam hg, h.oidcIssuerUrl hg, hclient, hprincipal,
          haccount]
  | k8gb =>
    obtain ⟨hip, hcluster⟩ := h.k8gbIds hg
    obtain ⟨htag, hext⟩ := h.geoTags hg
    have hk8gb := h.k8gbParam hg
    have hdeployed : a.k8gbDeployed = b.k8gbDeployed :=
      h.deployed_eq .k8gbRelease (owner_ne hg rfl)
    cases c <;> first
      | contradiction
      | simp only [resource, h.idVal, h.location, h.providerConfig, h.config, hk8gb, hip,
          hcluster, htag, hext, hdeployed]
  | argocd =>
    have hargocd : a.argocd = b.argocd := h.param Parameters.argocd
      (by cases f <;> first | exact fun _ => rfl | exact absurd rfl hg)
    cases c <;> first
      | contradiction
      | simp only [resource, h.idVal, h.config, hargocd, h.argocdDeployed hg]
  | vpa =>
    cases c <;> first
      | contradiction
      | simp only [resource, h.idVal, h.config]
  | knative =>
    cases c <;> first
      | contradiction
      | simp only [resource, h.idVal, h.config, h.operatorReady hg]

/-- What is composed behind an open gate is the same. -/
theorem resource_eq (h : SameBut f a b) (ha : f.Off a.params) (hb : f.Off b.params)
    (now : String) {c : Component} (hgate : c.gate a.gates = true) :
    c.resource now a = c.resource now b := by
  cases hown : c.owner with
  | none => exact h.resource_shared ha hb now hown
  | some g =>
    refine h.resource_other now hown fun hg => ?_
    subst hg
    rw [gate_own ha hown] at hgate
    cases hgate

end SameBut

/-- **A disabled feature has no influence.** Two requests that differ only in the
parameters and the observed resources of a feature that both have switched off compose
the same resources, none of them the feature's, and make the same license claim. -/
theorem disabled_without_influence {f : OptionalFeature} {a b : Request} (h : SameBut f a b)
    (ha : f.Off a.params) (hb : f.Off b.params) (now : String) :
    (reconcile now a).resources = (reconcile now b).resources ∧
      a.licenseConflict = b.licenseConflict ∧ a.licenseClaim = b.licenseClaim ∧
      ∀ c : Component, c.owner = some f → c.name ∉ (reconcile now a).resources := by
  refine ⟨?_, h.licenseConflict, h.licenseClaim, fun c hown hmem => ?_⟩
  · exact resources_congr (h.gate_eq ha hb) (fun c => h.resource_eq ha hb now) h.mgmtPolicies
  · rw [mem_reconcile_component, SameBut.gate_own ha hown] at hmem
    cases hmem

/-- A control plane with VPA switched off. -/
def vpaOff (minCpu : String) (observed : Observed) : Request where
  composite :=
    { parameters :=
        { Parameters.required "cp" "eastus" { count := some 3 } with
          providerVerticalPodAutoscaling :=
            some { enabled := some "no", minCpu := some minCpu } } }
  observed := observed

/-- A VPA Release that is still deployed. -/
def leftoverVpa : Observed :=
  (∅ : Observed).insert "vpa-release"
    ((vpaRelease "cp" ⟨"2026-03-01T00:00:00Z", "default", "Full"⟩).observedWith .deployed)

/-- Neither its bounds nor a Release that is still deployed reach what is composed. -/
theorem disabled_without_influence_vpa :
    (reconcile "2026-03-02T00:00:00Z" (vpaOff "100m" ∅)).resources =
      (reconcile "2026-03-02T00:00:00Z" (vpaOff "500m" leftoverVpa)).resources := by
  have hsame : SameBut .vpa (vpaOff "100m" ∅) (vpaOff "500m" leftoverVpa) :=
    { composite := rfl
      peers := rfl
      observed := fun n hn => (AList.lookup_insert_ne (hn .vpaRelease rfl).symm).symm }
  exact (disabled_without_influence hsame ⟨"no", rfl, by decide⟩ ⟨"no", rfl, by decide⟩ _).1

end AzureCtp
