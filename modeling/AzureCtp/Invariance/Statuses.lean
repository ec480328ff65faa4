import AzureCtp.Invariance.Clock
import AzureCtp.License.Claim
import AzureCtp.Reporting

/-!
# What is read of observed resources

Of an observed resource the function reads the status, and of the `uxp-license-secret`
Object the references as well. Whatever else is observed, a spec that was edited by hand
or metadata that a controller added, does not reach the response.

## Main results

* `reconcile_eq_of_statuses`: one status for each name and one claim give one response
* `observed_specs_irrelevant`: what is observed besides the statuses is not read
-/

set_option autoImplicit false

namespace AzureCtp

open Component Document

/-- The statuses of the observed resources, by name. -/
def statuses (observed : Observed) (n : String) : Option ResourceStatus :=
  (observed.lookup n).map (·.status)

/-! ### Reads -/

section Reads

variable {a b : Observed}

theorem readStatus_congr {n : String} (h : statuses a n = statuses b n)
    (field : ResourceStatus → Option String) : readStatus a n field = readStatus b n field := by
  have hread : ∀ observed, readStatus observed n field =
      ((statuses observed n).map fun status => (field status).getD "").getD "" := by
    intro observed
    rw [readStatus, statuses]
    cases observed.lookup n <;> rfl
  rw [hread, hread, h]

theorem isReleaseDeployed_congr {n : String} (h : statuses a n = statuses b n) :
    isReleaseDeployed a n = isReleaseDeployed b n := by
  rw [isReleaseDeployed, isReleaseDeployed, readStatus_congr h]

theorem isKnativeServingReady_congr
    (h : statuses a "knative-serving-cr" = statuses b "knative-serving-cr") :
    isKnativeServingReady a = isKnativeServingReady b := by
  have hread : ∀ observed, isKnativeServingReady observed =
      (statuses observed "knative-serving-cr").any fun status =>
        hasTrueCondition status.atProvider.manifest.conditions "Ready" := by
    intro observed
    rw [isKnativeServingReady, statuses]
    cases observed.lookup "knative-serving-cr" <;> rfl
  rw [hread, hread, h]

theorem isLicenseApplied_congr (h : statuses a "uxp-license" = statuses b "uxp-license") :
    isLicenseApplied a = isLicenseApplied b := by
  have hread : ∀ observed, isLicenseApplied observed =
      (statuses observed "uxp-license").any fun status =>
        hasTrueCondition status.conditions "Ready" := by
    intro observed
    rw [isLicenseApplied, statuses]
    cases observed.lookup "uxp-license" <;> rfl
  rw [hread, hread, h]

theorem extractCorednsEndpoint_congr
    (h : statuses a "k8gb-coredns-observe" = statuses b "k8gb-coredns-observe") :
    extractCorednsEndpoint a = extractCorednsEndpoint b := by
  have hread : ∀ observed, extractCorednsEndpoint observed =
      (((statuses observed "k8gb-coredns-observe").bind fun status =>
        status.atProvider.manifest.ingress.head?).map fun first =>
          orElseEmpty first.ip (orElseEmpty first.hostname "")).getD "" := by
    intro observed
    rw [extractCorednsEndpoint, statuses]
    cases observed.lookup "k8gb-coredns-observe" with
    | none => rfl
    | some obs =>
      dsimp only [Option.map_some, Option.bind_some]
      cases obs.status.atProvider.manifest.ingress <;> rfl
  rw [hread, hread, h]

/-- The counts are made from the statuses. -/
theorem countResources_congr (h : statuses a = statuses b) :
    countResources a = countResources b := by
  have hsome : ∀ n, (a.lookup n).isSome = (b.lookup n).isSome := by
    intro n
    have hn := congrArg Option.isSome (congrFun h n)
    rwa [statuses, statuses, Option.isSome_map, Option.isSome_map] at hn
  have hkeys : a.keys.toFinset = b.keys.toFinset := by
    ext n
    rw [List.mem_toFinset, List.mem_toFinset, ← AList.mem_keys, ← AList.mem_keys,
      ← AList.lookup_isSome, ← AList.lookup_isSome, hsome]
  have hwith : ∀ p : ResourceStatus → Bool,
      keysWith a (fun o => p o.status) = keysWith b (fun o => p o.status) := by
    intro p
    have hmem : ∀ (observed : Observed) n, n ∈ keysWith observed (fun o => p o.status) ↔
        (statuses observed n).any p = true := by
      intro observed n
      rw [mem_keysWith, statuses, Option.any_map, Option.any_eq_true]
    ext n
    rw [hmem, hmem, h]
  rw [countResources_card, countResources_card, hkeys]
  congr 1
  · exact congrArg _ (hwith fun status => hasTrueCondition status.conditions "Synced")
  · exact congrArg _ (hwith fun status => hasTrueCondition status.conditions "Ready")
  · exact congrArg _ (hwith fun status => hasTrueCondition status.conditions "Synced" &&
      hasTrueCondition status.conditions "Ready")

end Reads

/-! ### The response -/

/-- The ControlPlane without the license its status records. -/
def ControlPlane.unrecorded (xr : ControlPlane) : ControlPlane :=
  { xr with statusLicense := none }

/-- Two requests of one spec, under one answer of the guard and with one claim and the same
geo tags of peers, whose observed resources have the same statuses. The recorded license of
the XR may differ: it is read by the guard only. -/
structure SameStatuses (a b : Request) : Prop where
  composite : a.composite.unrecorded = b.composite.unrecorded
  tags : a.k8gbExtGeoTags = b.k8gbExtGeoTags
  conflict : a.licenseConflict = b.licenseConflict
  claim : a.licenseClaim = b.licenseClaim
  statuses : statuses a.observed = statuses b.observed

/-- The geo tags are derived from the parameters and the peers. -/
theorem k8gbExtGeoTags_congr {a b : Request} (hparams : a.params = b.params)
    (hpeers : ∀ idVal dnsZone myTag, deriveK8gbExtGeoTags idVal dnsZone myTag a.allControlPlanes =
      deriveK8gbExtGeoTags idVal dnsZone myTag b.allControlPlanes) :
    a.k8gbExtGeoTags = b.k8gbExtGeoTags := by
  obtain ⟨⟨apiVersion, kind, metadata, parameters, lic⟩, observed, peers⟩ := a
  obtain ⟨⟨apiVersion', kind', metadata', parameters', lic'⟩, observed', peers'⟩ := b
  obtain rfl : parameters = parameters' := hparams
  rw [Request.k8gbExtGeoTags, Request.k8gbExtGeoTags, hpeers]
  rfl

namespace SameStatuses

variable {a b : Request} (h : SameStatuses a b) (now : String)

include h

theorem gates_eq : a.gates = b.gates := by
  obtain ⟨⟨apiVersion, kind, metadata, parameters, lic⟩, observed, peers⟩ := a
  obtain ⟨⟨apiVersion', kind', metadata', parameters', lic'⟩, observed', peers'⟩ := b
  cases h.composite
  simp only [Request.gates, Request.k8gbRoleEmitted, Request.knativeFullyReady,
    Request.knativeDepsReady, Request.featuresLicensed, Request.oidcIssuerUrl, extractOidcInfo,
    Request.uxpDeployed, Request.vpaReady, Request.certmanagerReady, Request.gatewayReady,
    Request.argocdDeployed, Request.knativeOpReady, Request.knativeServingReady,
    Request.licenseApplied, Request.principalId, getWorkloadIdentityPrincipalId,
    Request.storageAccountId, getStorageAccountId, Request.k8gbPublicIpId,
    extractK8gbPublicIpId, Request.k8gbClusterPrincipalId, getClusterPrincipalId, h.claim,
    readStatus_congr (congrFun h.statuses _), isReleaseDeployed_congr (congrFun h.statuses _),
    isKnativeServingReady_congr (congrFun h.statuses _),
    isLicenseApplied_congr (congrFun h.statuses _)]
  rfl

theorem resource_eq (c : Component) : c.resource now a = c.resource now b := by
  obtain ⟨⟨apiVersion, kind, metadata, parameters, lic⟩, observed, peers⟩ := a
  obtain ⟨⟨apiVersion', kind', metadata', parameters', lic'⟩, observed', peers'⟩ := b
  cases h.composite
  have hdeployed := fun n => isReleaseDeployed_congr (congrFun h.statuses n)
  have hread := fun n => readStatus_congr (congrFun h.statuses n)
  have hserving := isKnativeServingReady_congr (congrFun h.statuses _)
  -- the components that read observed state or the claim; the others read the spec
  cases c with
  | uxpRelease =>
    simp only [resource, Request.uxpDeployed, Request.mgrArgs, Request.vpaReady,
      Request.knativeFullyReady, Request.knativeDepsReady, Request.certmanagerReady,
      Request.knativeOpReady, Request.knativeServingReady, Request.featuresLicensed,
      Request.licenseApplied, hdeployed, hserving, isLicenseApplied_congr (congrFun h.statuses _)]
    rfl
  | certmanagerRelease =>
    simp only [resource, Request.certmanagerReady, hdeployed]
    rfl
  | envoyGatewayRelease =>
    simp only [resource, Request.gatewayReady, hdeployed]
    rfl
  | k8gbRelease =>
    simp only [resource, Request.k8gbDeployed, hdeployed, h.tags]
    rfl
  | argocdRelease =>
    simp only [resource, Request.argocdDeployed, hdeployed]
    rfl
  | knativeOperatorRelease =>
    simp only [resource, Request.knativeOpReady, hdeployed]
    rfl
  | k8gbIpRole =>
    simp only [resource, Request.k8gbPublicIpId, extractK8gbPublicIpId,
      Request.k8gbClusterPrincipalId, getClusterPrincipalId, hread]
    rfl
  | backupFederation =>
    simp only [resource, Request.oidcIssuerUrl, extractOidcInfo, hread]
    rfl
  | backupRole =>
    simp only [resource, Request.principalId, getWorkloadIdentityPrincipalId,
      Request.storageAccountId, getStorageAccountId, hread]
    rfl
  | backupSa =>
    simp only [resource, Request.clientId, getWorkloadIdentityClientId, hread]
    rfl
  | uxpLicenseSecret | uxpLicense =>
    simp only [resource, h.claim]
    rfl
  | upboundRuntimeConfig =>
    simp only [resource, Request.vpaReady, Request.knativeFullyReady, Request.knativeDepsReady,
      Request.certmanagerReady, Request.knativeOpReady, Request.knativeServingReady, hdeployed,
      hserving]
    rfl
  | _ => rfl

theorem status_eq (created : Option String) : a.status now created = b.status now created := by
  obtain ⟨⟨apiVersion, kind, metadata, parameters, lic⟩, observed, peers⟩ := a
  obtain ⟨⟨apiVersion', kind', metadata', parameters', lic'⟩, observed', peers'⟩ := b
  cases h.composite
  simp only [Request.status, controlPlaneStatus, backupStatus, k8gbStatus, Request.uxpDeployed,
    Request.clientId, getWorkloadIdentityClientId, Request.ngSizeMismatch, Request.ngActualVmSize,
    getNodepoolActualVmSize, Request.clusterName, getClusterName, Request.k8gbPublicIp,
    extractK8gbPublicIp, Request.k8gbDeployed, h.claim, h.conflict,
    readStatus_congr (congrFun h.statuses _), isReleaseDeployed_congr (congrFun h.statuses _),
    extractCorednsEndpoint_congr (congrFun h.statuses _), countResources_congr h.statuses]
  rfl

end SameStatuses

/-- One status for each name, one claim and one answer of the guard give one response. -/
theorem reconcile_eq_of_statuses {a b : Request} (h : SameStatuses a b) (now : String) :
    reconcile now a = reconcile now b := by
  have hspec := congrArg ControlPlane.request h.composite
  have hpolicies : a.mgmtPolicies = b.mgmtPolicies := by
    have hmode := congrArg Request.mgmtPolicies hspec
    exact hmode
  have hrequirement : (reconcile now a).allControlPlanes = (reconcile now b).allControlPlanes := by
    have hselect := congrArg (fun req => (reconcile now req).allControlPlanes) hspec
    exact hselect
  have hresources : (reconcile now a).resources = (reconcile now b).resources :=
    resources_congr (fun c => by rw [h.gates_eq]) (fun c _ => h.resource_eq now c) hpolicies
  have hcomposite : (reconcile now a).composite = (reconcile now b).composite := by
    rw [reconcile, reconcile, h.status_eq]
  have heta : ∀ rsp : Response, rsp = ⟨rsp.allControlPlanes, rsp.composite, rsp.resources⟩ :=
    fun _ => rfl
  rw [heta (reconcile now a), heta (reconcile now b), hrequirement, hcomposite, hresources]

/-! ### Drift -/

/-- Two requests that differ in the specs and the metadata of observed resources only. -/
structure SameButSpecs (a b : Request) : Prop where
  composite : a.composite = b.composite
  peers : a.allControlPlanes = b.allControlPlanes
  statuses : statuses a.observed = statuses b.observed
  installed : getInstalledLicense a.observed = getInstalledLicense b.observed

/-- **Observed specs are not read.** Requests that differ in the specs and the metadata of
observed resources only get the same response, as long as the observed license Object
refers to the same Secret. -/
theorem observed_specs_irrelevant {a b : Request} (h : SameButSpecs a b) (now : String) :
    reconcile now a = reconcile now b := by
  have hconflict := licenseConflict_congr h.composite h.peers
  exact reconcile_eq_of_statuses
    { composite := by rw [h.composite]
      tags := k8gbExtGeoTags_congr (congrArg ControlPlane.parameters h.composite)
        fun _ _ _ => by rw [h.peers]
      conflict := hconflict
      claim := licenseClaim_congr (congrArg (fun xr => xr.parameters.license) h.composite)
        hconflict h.installed
      statuses := h.statuses } now

/-- A control plane whose UXP Release is observed as the given resource. -/
def observedRelease (r : Resource) : Request where
  composite := { parameters := Parameters.required "cp" "eastus" { count := some 3 } }
  observed := (∅ : Observed).insert "uxp-release" (r.observedWith ResourceStatus.deployed)

theorem observedRelease_sameButSpecs (r r' : Resource) :
    SameButSpecs (observedRelease r) (observedRelease r') where
  composite := rfl
  peers := rfl
  statuses := by
    funext n
    by_cases hn : n = "uxp-release"
    · subst hn
      rfl
    · simp only [AzureCtp.statuses, observedRelease, AList.lookup_insert_ne hn]
  installed := by
    rw [getInstalledLicense_eq, getInstalledLicense_eq, observedLicenseObject,
      observedLicenseObject, observedRelease, observedRelease, AList.lookup_insert_ne (by decide),
      AList.lookup_insert_ne (by decide)]

/-- Arguments added to the observed Release by hand do not reach the response. -/
theorem observed_specs_irrelevant_release :
    reconcile "2026-03-01T00:00:00Z" (observedRelease
      (uxpRelease "cp" "2.2.1-up.1" true [] ⟨"2026-03-01T00:00:00Z", "default", "Full"⟩)) =
    reconcile "2026-03-01T00:00:00Z" (observedRelease
      (uxpRelease "cp" "2.2.1-up.1" true ["--debug"]
        ⟨"2026-03-01T00:00:00Z", "default", "Full"⟩)) :=
  observed_specs_irrelevant (observedRelease_sameButSpecs _ _) _

end AzureCtp
