import AzureCtp.License.Claim

/-!
# What the composed resources read

The composed resources depend on a request through the values listed here: the gates, the
parameters with their fallbacks, what is derived from the peers, and observed state. Two
requests that agree on these values compose the same resources.

## Main results

* `SameReads.resources`: requests with the same reads compose the same resources
-/

set_option autoImplicit false

namespace AzureCtp

open Component

/-- Two requests agree on everything that is read into resources. -/
structure SameReads (a b : Request) : Prop where
  observed : a.observed = b.observed
  gates : a.gates = b.gates
  config : ∀ now, a.config now = b.config now
  idVal : a.idVal = b.idVal
  location : a.location = b.location
  providerConfig : a.providerConfig = b.providerConfig
  mgmtPolicies : a.mgmtPolicies = b.mgmtPolicies
  version : a.version = b.version
  count : a.nodes.count.getD 2 = b.nodes.count.getD 2
  vmSize : a.nodes.vmSize.getD "Standard_D2s_v3" = b.nodes.vmSize.getD "Standard_D2s_v3"
  availabilityZones : a.nodes.availabilityZones.filter (· ≠ []) =
    b.nodes.availabilityZones.filter (· ≠ [])
  addressRange : a.networkParam.addressRange.getD "10.224.0.0/16" =
    b.networkParam.addressRange.getD "10.224.0.0/16"
  generalSubnetRange : a.networkParam.generalSubnetRange.getD "10.224.0.0/24" =
    b.networkParam.generalSubnetRange.getD "10.224.0.0/24"
  uxpVersion : a.uxpVersion = b.uxpVersion
  mgrArgs : a.mgrArgs = b.mgrArgs
  capabilities : runtimeCapabilities a.vpa a.knative a.vpaReady a.knativeFullyReady =
    runtimeCapabilities b.vpa b.knative b.vpaReady b.knativeFullyReady
  oidcIssuerUrl : a.oidcIssuerUrl = b.oidcIssuerUrl
  storageAccount : a.storageAccount = b.storageAccount
  containerName : a.containerName = b.containerName
  bucketRegion : a.bucketRegion = b.bucketRegion
  schedule : a.backup.schedule.getD "" = b.backup.schedule.getD ""
  source : restorable a.installFrom = true →
    restoreSource a.installFrom = restoreSource b.installFrom
  license : secretOf (a.licenseClaim.getD {}) = secretOf (b.licenseClaim.getD {})
  dnsZone : (a.k8gb.getD {}).dnsZone.getD "" = (b.k8gb.getD {}).dnsZone.getD ""
  parentZone : (a.k8gb.getD {}).parentZone.getD "" = (b.k8gb.getD {}).parentZone.getD ""
  geoTag : a.k8gbGeoTag = b.k8gbGeoTag
  extGeoTags : a.k8gbExtGeoTags = b.k8gbExtGeoTags
  publicIpId : a.k8gbPublicIpId = b.k8gbPublicIpId
  clusterPrincipalId : a.k8gbClusterPrincipalId = b.k8gbClusterPrincipalId
  hostname : (a.argocd.getD {}).hostname.getD "" = (b.argocd.getD {}).hostname.getD ""
  url : (a.argocd.getD {}).url.getD "" = (b.argocd.getD {}).url.getD ""

namespace SameReads

variable {a b : Request} {now : String}

/-- The deployment of a Release is read from observed state. -/
theorem deployed (h : SameReads a b) (name : String) :
    isReleaseDeployed a.observed name = isReleaseDeployed b.observed name := by
  rw [h.observed]

theorem resource (h : SameReads a b) {c : Component} (hgate : c.gate a.gates = true) :
    c.resource now a = c.resource now b := by
  cases c with
  | network =>
    simp only [Component.resource, networkXr, h.idVal, h.location, h.providerConfig,
      h.mgmtPolicies, h.addressRange, h.generalSubnetRange, h.config]
  | aks =>
    simp only [Component.resource, aksXr, h.idVal, h.location, h.providerConfig, h.version,
      h.count, h.vmSize, h.availabilityZones, h.mgmtPolicies, h.config]
  | uxpRelease =>
    simp only [Component.resource, h.idVal, h.uxpVersion, h.mgrArgs, h.config,
      Request.uxpDeployed, h.deployed]
  | certmanagerRelease =>
    simp only [Component.resource, h.idVal, h.config, Request.certmanagerReady, h.deployed]
  | envoyGatewayRelease =>
    simp only [Component.resource, h.idVal, h.config, Request.gatewayReady, h.deployed]
  | k8gbRelease =>
    simp only [Component.resource, h.idVal, h.geoTag, h.extGeoTags, h.dnsZone, h.parentZone,
      h.config, Request.k8gbDeployed, h.deployed]
  | argocdRelease =>
    simp only [Component.resource, h.idVal, h.config, Request.argocdDeployed, h.deployed]
  | knativeOperatorRelease =>
    simp only [Component.resource, h.idVal, h.config, Request.knativeOpReady, h.deployed]
  | k8gbIp => simp only [Component.resource, h.idVal, h.location, h.providerConfig, h.config]
  | k8gbIpRole =>
    simp only [Component.resource, h.idVal, h.providerConfig, h.publicIpId, h.clusterPrincipalId,
      h.config]
  | argocdGateway | argocdHttproute | argocdCert =>
    simp only [Component.resource, h.idVal, h.hostname, h.config]
  | argocdApp => simp only [Component.resource, h.idVal, h.url, h.config]
  | backupStorageAccount =>
    simp only [Component.resource, h.idVal, h.bucketRegion, h.providerConfig, h.storageAccount,
      h.config]
  | backupContainer =>
    simp only [Component.resource, h.idVal, h.providerConfig, h.storageAccount, h.containerName,
      h.config]
  | backupConfig =>
    simp only [Component.resource, h.idVal, h.storageAccount, h.containerName, h.config]
  | backupSchedule => simp only [Component.resource, h.idVal, h.schedule, h.config]
  | backupIdentity =>
    simp only [Component.resource, h.idVal, h.location, h.providerConfig, h.config]
  | backupFederation =>
    simp only [Component.resource, h.idVal, h.providerConfig, h.oidcIssuerUrl, h.config]
  | backupRole =>
    simp only [Component.resource, h.idVal, h.providerConfig, h.config, Request.principalId,
      Request.storageAccountId, h.observed]
  | backupSa => simp only [Component.resource, h.idVal, h.config, Request.clientId, h.observed]
  | backupRestore =>
    -- composed from a source that can be restored only
    have hsource := h.source (Bool.and_eq_true_iff.mp hgate).2
    simp only [Component.resource, h.idVal, hsource, h.config]
  | uxpLicenseSecret =>
    obtain ⟨hns, hname⟩ := Prod.mk.inj h.license
    simp only [Component.resource, licenseSecret, h.idVal, hns, hname, h.config]
  | uxpLicense =>
    obtain ⟨-, hname⟩ := Prod.mk.inj h.license
    simp only [Component.resource, licenseCr, h.idVal, hname, h.config]
  | upboundRuntimeConfig => simp only [Component.resource, h.idVal, h.capabilities, h.config]
  | _ => simp only [Component.resource, h.idVal, h.config]

/-- Requests with the same reads compose the same resources. -/
theorem resources (h : SameReads a b) :
    (reconcile now a).resources = (reconcile now b).resources :=
  resources_congr (fun c => by rw [h.gates]) (fun _ hgate => h.resource hgate) h.mgmtPolicies

end SameReads

end AzureCtp
