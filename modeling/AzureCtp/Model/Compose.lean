import AzureCtp.Model.Addons
import AzureCtp.Model.Backup
import AzureCtp.Model.Status
import AzureCtp.Model.Usages

/-!
# The composition function

`compose` of `fn.py`. The values it computes up front from the request are
definitions on `Request` under the source's names; the clock, its only other
input, is the argument `now`. The resources are written in the source's order,
then every managed resource without a policy of its own gets the policies of the
management mode, and the status is written last. `reconcile` is the function as
`composition.yaml` runs it, before any other.
-/

set_option autoImplicit false

namespace AzureCtp

open Document

/-- `_MODE_POLICIES`. -/
def modePolicyTable : List (String × List ManagementPolicy) :=
  [("Provision", [.only .observe, .only .create, .only .update, .only .lateInitialize]),
   ("ObserveOnly", [.only .observe]),
   ("Full", [.all]),
   ("Deprovision", [.only .create, .only .delete, .only .observe])]

/-- The policies of a management mode; an unknown mode is treated as Full. -/
def modePolicies (managementMode : String) : List ManagementPolicy :=
  (modePolicyTable.lookup managementMode).getD [.all]

namespace Request

variable (req : Request)

def params : Parameters := req.composite.parameters

/-- The namespace every composed resource is placed in. -/
def ns : String := orElseEmpty req.composite.metadata.ns "default"

def idVal : String := req.params.id.getD ""

def location : String := req.params.location.getD ""

def providerConfig : String := req.params.providerConfigName.getD "default"

def version : String := req.params.version.getD "1.34"

def nodes : Nodes := req.params.nodes.getD {}

def networkParam : NetworkParam := req.params.network.getD {}

def backup : Backup := req.params.backup.getD { enabled := some "no" }

def installFrom : Option InstallFrom := req.backup.installFrom

def licenseParam : Option License := req.params.license

def managementMode : String := req.params.managementMode.getD "Full"

def mgmtPolicies : List ManagementPolicy := modePolicies req.managementMode

def uxpVersion : String := (req.params.uxp.getD {}).version.getD "2.2.1-up.1"

def vpa : Option Vpa := req.params.providerVerticalPodAutoscaling

def knative : Option Knative := req.params.knative

def k8gb : Option K8gb := req.params.k8gb

def argocd : Option Argocd := req.params.argocd

def config (now : String) : Config :=
  { lastReconcileDate := now, ns := req.ns, managementMode := req.managementMode }

/-! Feature switches. -/

def k8gbEnabled : Bool := req.k8gb.any (·.enabled == some "yes")

def argocdEnabled : Bool := req.argocd.any (·.enabled == some "yes")

def backupEnabled : Bool := req.backup.enabled == some "yes"

def vpaEnabled : Bool := req.vpa.any (·.enabled == some "yes")

def knativeEnabled : Bool := req.knative.any (·.enabled == some "yes")

/-! Values read from the peers and from observed state. -/

def licenseConflict : String :=
  checkLicenseConflict req.composite req.licenseParam req.allControlPlanes

def k8gbGeoTag : String :=
  if req.k8gbEnabled then deriveK8gbGeoTag req.k8gb req.location req.idVal else ""

def k8gbExtGeoTags : String :=
  if req.k8gbEnabled then
    deriveK8gbExtGeoTags req.idVal ((req.k8gb.getD {}).dnsZone.getD "") req.k8gbGeoTag
      req.allControlPlanes
  else ""

def k8gbPublicIp : String :=
  if req.k8gbEnabled then extractK8gbPublicIp req.observed else ""

def k8gbPublicIpId : String :=
  if req.k8gbEnabled then extractK8gbPublicIpId req.observed else ""

def k8gbClusterPrincipalId : String :=
  if req.k8gbEnabled then getClusterPrincipalId req.observed else ""

def oidcIssuerUrl : String := (extractOidcInfo req.backup req.observed).1

def clientId : String := getWorkloadIdentityClientId req.observed

def principalId : String := getWorkloadIdentityPrincipalId req.observed

def storageAccountId : String := getStorageAccountId req.observed

def uxpDeployed : Bool := isReleaseDeployed req.observed "uxp-release"

def vpaReady : Bool := isReleaseDeployed req.observed "vpa-release"

def certmanagerReady : Bool := isReleaseDeployed req.observed "certmanager-release"

def gatewayReady : Bool := isReleaseDeployed req.observed "envoy-gateway-release"

def k8gbDeployed : Bool := isReleaseDeployed req.observed "k8gb-release"

def argocdDeployed : Bool := isReleaseDeployed req.observed "argocd-release"

def knativeOpReady : Bool := isReleaseDeployed req.observed "knative-operator-release"

def knativeDepsReady : Bool := req.certmanagerReady && req.knativeOpReady

def knativeServingReady : Bool := isKnativeServingReady req.observed

def knativeFullyReady : Bool := req.knativeDepsReady && req.knativeServingReady

def licenseApplied : Bool := isLicenseApplied req.observed

def featuresLicensed : Bool := !License.truthy req.licenseParam || req.licenseApplied

def mgrArgs : List String :=
  buildManagerArgs req.vpa req.knative req.vpaReady req.knativeFullyReady req.featuresLicensed

def storageAccount : String := (parseBlobLocation (req.backup.location.getD "")).1

def containerName : String := (parseBlobLocation (req.backup.location.getD "")).2

def bucketRegion : String := orElseEmpty req.backup.bucketRegion req.location

def ngActualVmSize : String := getNodepoolActualVmSize req.observed

def ngSizeMismatch : Bool :=
  req.ngActualVmSize != "" && req.ngActualVmSize != req.nodes.vmSize.getD ""

def clusterName : String := getClusterName req.observed

def k8gbRoleEmitted : Bool := req.k8gbPublicIpId != "" && req.k8gbClusterPrincipalId != ""

/-- The license already installed, consulted only on a conflict. -/
def installedLicense : Option License :=
  if req.licenseConflict ≠ "" then getInstalledLicense req.observed else none

/-- The license this reconcile composes and records: on a conflict the installed
one is kept, otherwise the requested one is claimed. -/
def licenseClaim : Option License :=
  if License.truthy req.licenseParam ∧
      (req.licenseConflict = "" ∨ req.installedLicense.isSome) then
    -- without a conflict nothing installed is looked up, so the request is claimed
    req.installedLicense.or req.licenseParam
  else none

/-! The calls of the `add_*` functions, each behind its gate. -/

def gatewayWrites (now : String) : List Write :=
  if req.k8gbEnabled || req.argocdEnabled then
    addGatewayResources req.idVal req.gatewayReady (req.config now)
  else []

def k8gbWrites (now : String) : List Write :=
  if req.k8gbEnabled then
    addK8gbResources req.idVal (req.k8gb.getD {}) req.k8gbGeoTag req.k8gbExtGeoTags
      req.k8gbDeployed req.location req.providerConfig req.k8gbPublicIpId
      req.k8gbClusterPrincipalId (req.config now)
  else []

def argocdWrites (now : String) : List Write :=
  if req.argocdEnabled then
    addArgocdResources req.idVal (req.argocd.getD {}) req.argocdDeployed req.certmanagerReady
      req.gatewayReady (req.config now)
  else []

def backupWrites (now : String) : List Write :=
  if req.backupEnabled then
    addBackupResources req.idVal req.location req.bucketRegion req.providerConfig
      req.storageAccount req.containerName req.backup req.uxpDeployed req.clientId
      (req.config now)
  else []

def workloadIdentityWrites (now : String) : List Write :=
  -- the ServiceAccount to patch exists only once UXP is deployed
  if req.backupEnabled && req.oidcIssuerUrl != "" && req.uxpDeployed then
    addWorkloadIdentityResources req.idVal req.location req.providerConfig req.oidcIssuerUrl
      req.storageAccount req.containerName req.observed req.installFrom req.clientId
      req.principalId req.storageAccountId (req.config now)
  else []

def licenseWrites (now : String) : List Write :=
  match req.licenseClaim with
  | some claim => addLicenseResources req.idVal claim (req.config now)
  | none => []

def vpaWrites (now : String) : List Write :=
  if req.vpaEnabled && req.featuresLicensed then
    addVpaResources req.idVal req.vpa req.vpaReady (req.config now)
  else []

def knativeWrites (now : String) : List Write :=
  if req.knativeEnabled && req.featuresLicensed then
    addKnativeResources req.idVal req.knativeOpReady req.knativeDepsReady
      req.knativeServingReady req.observed (req.config now)
  else []

def runtimeConfigWrites (now : String) : List Write :=
  -- unlike the features themselves, not gated on the license
  if (req.vpaEnabled && req.vpaReady) || (req.knativeEnabled && req.knativeFullyReady) then
    addRuntimeConfig req.idVal req.vpa req.knative req.vpaReady req.knativeFullyReady
      (req.config now)
  else []

/-- The resources `compose` writes, in order. -/
def writes (now : String) : List Write :=
  addNetworkResources req.idVal req.location req.providerConfig req.mgmtPolicies
    req.networkParam (req.config now) ++
  addAksResources req.idVal req.location req.providerConfig req.version req.nodes
    req.mgmtPolicies (req.config now) ++
  addUxpRelease req.idVal req.uxpVersion req.uxpDeployed req.mgrArgs (req.config now) ++
  addUsageResources req.idVal (req.config now) req.k8gbEnabled req.argocdEnabled
    req.k8gbRoleEmitted ++
  -- always installed: the add-ons and knative rely on it
  addCertmanagerResources req.idVal req.certmanagerReady (req.config now) ++
  req.gatewayWrites now ++
  req.k8gbWrites now ++
  req.argocdWrites now ++
  req.backupWrites now ++
  req.workloadIdentityWrites now ++
  req.licenseWrites now ++
  req.vpaWrites now ++
  req.knativeWrites now ++
  req.runtimeConfigWrites now

/-- The status block of this reconcile. -/
def status (now : String) (creationTimestamp : Option String) : ControlPlaneStatus :=
  controlPlaneStatus creationTimestamp req.uxpVersion req.uxpDeployed req.backup req.clientId
    (req.backup.location.getD "") req.observed req.nodes req.ngActualVmSize req.ngSizeMismatch
    req.clusterName req.vpa req.knative req.k8gb req.k8gbGeoTag req.k8gbPublicIp
    req.k8gbDeployed req.licenseConflict req.licenseClaim (req.config now)

end Request

/-- One round of the orphan-policy sweep: a resource with `forProvider` and no
policy of its own inherits the mode's. -/
def orphanPolicy (mgmtPolicies : List ManagementPolicy) (res : Resource) : Resource :=
  match res.spec with
  | .managed spec =>
    -- backup storage, CoreDNS observe Object and knative operator
    if spec.managementPolicies.isSome then res
    else { res with spec := .managed { spec with managementPolicies := some mgmtPolicies } }
  | _ => res

/-- The selector of the peers, fetched for the license guard and the k8gb geo tags. -/
def Request.peersSelector (req : Request) : Option ResourceSelector :=
  if License.truthy req.licenseParam || req.k8gbEnabled then
    some
      { apiVersion := req.composite.apiVersion
        kind := req.composite.kind
        matchLabels := [] }
  else none

/-- What the function answers as the first pipeline step: nothing is desired before it, so
every write adds a resource and the desired XR has no metadata. -/
def reconcile (now : String) (req : Request) : Response :=
  { allControlPlanes := req.peersSelector
    composite := { status := some (req.status now none) }
    resources := mapValues (orphanPolicy req.mgmtPolicies) (writeAll ∅ (req.writes now)) }

end AzureCtp
