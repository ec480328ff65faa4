import AzureCtp.Model.Request
import Mathlib.Data.Finset.Sort
import Mathlib.Data.List.DropRight
import Mathlib.Data.List.MinMax
import Mathlib.Data.Prod.Lex
import Mathlib.Data.String.Basic

/-!
# Shared extractors and helpers

The functions of `prelude.py`. Missing fields read as the fallbacks the source
gives them, nearly always the empty string.
-/

set_option autoImplicit false

namespace AzureCtp

open Document

/-- The per-reconcile `config` dictionary. -/
structure Config where
  lastReconcileDate : String
  ns : String
  managementMode : String

/-- Python's `value or fallback` for a string that may be missing. -/
def orElseEmpty (value : Option String) (fallback : String) : String :=
  match value with
  | some s => if s = "" then fallback else s
  | none => fallback

/-- Stamp a resource with the reconcile time: an annotation, and on request a
tag in `spec.forProvider.tags`. -/
def stamp (resource : Resource) (config : Config) (azureTags : Bool) : Resource :=
  let annotations :=
    setField resource.metadata.annotations "last-reconcile-date" config.lastReconcileDate
  let tagged : Spec :=
    match azureTags, resource.spec with
    | true, .managed spec =>
      -- `setdefault`: tags the resource already has are kept
      let tags := (spec.forProvider.get? "tags").getD (.dict [])
      .managed { spec with
        forProvider := spec.forProvider.set "tags"
          (tags.set "last-reconcile-date" config.lastReconcileDate) }
    | _, spec => spec
  { resource with
    metadata := { resource.metadata with annotations := annotations }
    spec := tagged }

/-! ### The license guard -/

/-- The comparison key of the Secret a license refers to. -/
def secretKey (lic : License) : String :=
  let ref := lic.secretRef.getD {}
  ref.ns.getD "default" ++ "/" ++ ref.name.getD ""

/-- A ControlPlane's (namespace, name). -/
def identity (obj : ControlPlane) : String × String :=
  (obj.metadata.ns.getD "", obj.metadata.name.getD "")

theorem eq_of_identity_eq {members : List ControlPlane}
    (hdistinct : (members.map identity).Nodup) {a b : ControlPlane} (ha : a ∈ members)
    (hb : b ∈ members) (heq : identity a = identity b) : a = b :=
  List.inj_on_of_nodup_map hdistinct ha hb heq

/-- The license refers to a named Secret whose key is `myKey`. -/
def onSecret (myKey : String) (lic : License) : Bool :=
  ((lic.secretRef.getD {}).name.getD "" != "") && (secretKey lic == myKey)

/-- The ControlPlane records in its status that it installs the Secret. -/
def holds (myKey : String) (obj : ControlPlane) : Bool :=
  onSecret myKey (obj.statusLicense.getD {})

/-- The type of the five-part claim order, compared lexicographically. -/
abbrev ClaimKey := Bool ×ₗ Bool ×ₗ String ×ₗ String ×ₗ String

/-- Holders first, then the oldest, a missing timestamp last, then
namespace/name. -/
def claimOrder (myKey : String) (obj : ControlPlane) : ClaimKey :=
  let ts := obj.metadata.creationTimestamp.getD ""
  -- `false` before `true`: holders, then those with a timestamp
  toLex (!holds myKey obj, toLex (ts == "", toLex (ts, toLex (identity obj))))

/-- `metadata.deletionTimestamp` is set. -/
def terminating (obj : ControlPlane) : Bool :=
  obj.metadata.deletionTimestamp.getD "" != ""

/-- `"/".join` of an identity. -/
def joinIdentity (obj : ControlPlane) : String :=
  (identity obj).1 ++ "/" ++ (identity obj).2

/-- The other ControlPlanes with a claim on the Secret that go before `xr`. -/
def aheadOf (myKey : String) (xr : ControlPlane) (allCtps : List ControlPlane) :
    List ControlPlane :=
  allCtps.filter fun ctp =>
    -- a terminating ControlPlane holds no claim
    identity ctp != identity xr && !terminating ctp &&
      (onSecret myKey (ctp.parameters.license.getD {}) || holds myKey ctp) &&
      decide (claimOrder myKey ctp < claimOrder myKey xr)

/-- The namespace/name of the other ControlPlane that owns the requested license
Secret, or `""` when this one owns it. -/
def checkLicenseConflict (xr : ControlPlane) (licenseParam : Option License)
    (allCtps : List ControlPlane) : String :=
  if !License.truthy licenseParam || allCtps.isEmpty then ""
  else
    let myKey := secretKey (licenseParam.getD {})
    -- `min` of an empty `ahead` is never taken: then this one is the owner
    match (aheadOf myKey xr allCtps).argmin (claimOrder myKey) with
    | some owner => joinIdentity owner
    | none => ""

/-! ### Observed state -/

/-- Read a string from the status of an observed resource, `""` when the
resource or the field is missing. -/
def readStatus (observed : Observed) (name : String)
    (field : ResourceStatus → Option String) : String :=
  match observed.lookup name with
  | some obs => (field obs.status).getD ""
  | none => ""

/-- The OIDC issuer URL and host of the composed AKS XR. -/
def extractOidcInfo (backup : Backup) (observed : Observed) : String × String :=
  if backup.enabled != some "yes" then ("", "")
  else
    let issuerUrl := readStatus observed "aks" fun status => status.aks.oidcUrl
    -- the host is extracted and not used by any caller
    let issuerHost :=
      if issuerUrl = "" then ""
      else String.ofList ((issuerUrl.replace "https://" "").toList.rdropWhile (· == '/'))
    (issuerUrl, issuerHost)

def getWorkloadIdentityClientId (observed : Observed) : String :=
  readStatus observed "backup-identity" fun status => status.atProvider.clientId

def getWorkloadIdentityPrincipalId (observed : Observed) : String :=
  readStatus observed "backup-identity" fun status => status.atProvider.principalId

def getStorageAccountId (observed : Observed) : String :=
  readStatus observed "backup-storage-account" fun status => status.atProvider.id

/-- The observed Helm Release reports `atProvider.state == "deployed"`. -/
def isReleaseDeployed (observed : Observed) (name : String) : Bool :=
  readStatus observed name (fun status => status.atProvider.state) == "deployed"

/-- Some condition of the type is `"True"`. -/
def hasTrueCondition (conditions : List Condition) (type : String) : Bool :=
  conditions.any fun cond => cond.type == some type && cond.status == some "True"

/-- The KnativeServing manifest reports Ready=True. -/
def isKnativeServingReady (observed : Observed) : Bool :=
  match observed.lookup "knative-serving-cr" with
  | some obs => hasTrueCondition obs.status.atProvider.manifest.conditions "Ready"
  | none => false

/-- The License Object reports Ready=True. -/
def isLicenseApplied (observed : Observed) : Bool :=
  match observed.lookup "uxp-license" with
  | some obs => hasTrueCondition obs.status.conditions "Ready"
  | none => false

/-- The license a references list was composed from: its first named Secret. -/
def licenseOfReferences : List Reference → Option License
  | [] => none
  | ref :: rest =>
    match ref.patchesFrom with
    | some pf =>
      if pf.name.getD "" != "" then
        some { secretRef := some { name := pf.name, ns := some (pf.ns.getD "default") } }
      else licenseOfReferences rest
    | none => licenseOfReferences rest

/-- The license already installed, read from `spec.references` of the observed
`uxp-license-secret` Object. -/
def getInstalledLicense (observed : Observed) : Option License :=
  match observed.lookup "uxp-license-secret" with
  | some obs =>
    match obs.spec with
    | .managed spec => licenseOfReferences spec.references
    | _ => none
  | none => none

/-- `upbound.manager.args` of the UXP Release. -/
def buildManagerArgs (vpa : Option Vpa) (knative : Option Knative) (vpaReady knativeReady
    featuresLicensed : Bool) : List String :=
  let vpaArgs :=
    if vpa.any (·.enabled == some "yes") && vpaReady && featuresLicensed then
      ["--enable-provider-vpa"]
    else []
  let knativeArgs :=
    if knative.any (·.enabled == some "yes") && knativeReady && featuresLicensed then
      ["--enable-knative-runtime"]
    else []
  vpaArgs ++ knativeArgs

/-! ### Backup locations -/

/-- The character class `[a-z0-9]`. -/
def isAccountChar (c : Char) : Bool := c.isLower || c.isDigit

/-- The character class `[a-z0-9-]`. -/
def isContainerChar (c : Char) : Bool := c.isLower || c.isDigit || c == '-'

/-- Match `^([a-z0-9]+)/([a-z0-9-]+)$`. Neither class contains the character that
ends its group, so greedy matching needs no backtracking. `$` also matches before
a final newline. -/
def parseBlobLocation (location : String) : String × String :=
  if location = "" then ("", "")
  else
    let account := location.toList.takeWhile isAccountChar
    match location.toList.dropWhile isAccountChar with
    | '/' :: rest =>
      let container := rest.takeWhile isContainerChar
      -- what is left of the string where `$` must match
      let tail := rest.dropWhile isContainerChar
      if account ≠ [] ∧ container ≠ [] ∧ (tail = [] ∨ tail = ['\n']) then
        (String.ofList account, String.ofList container)
      else ("", "")
    | _ => ("", "")

/-! ### The AKS XR -/

def getNodepoolActualVmSize (observed : Observed) : String :=
  readStatus observed "aks" fun status => status.aks.vmSize

def getClusterName (observed : Observed) : String :=
  readStatus observed "aks" fun status => status.aks.clusterName

def getClusterPrincipalId (observed : Observed) : String :=
  readStatus observed "aks" fun status => status.aks.identityPrincipalId

/-! ### k8gb -/

/-- The k8gb clusterGeoTag: the explicit one, else `azure-<location>-<id>`. -/
def deriveK8gbGeoTag (k8gbParam : Option K8gb) (location idVal : String) : String :=
  orElseEmpty ((k8gbParam.getD {}).clusterGeoTag) ("azure-" ++ location ++ "-" ++ idVal)

/-- The geo tag a listed ControlPlane adds to another one's peers, if any. -/
def peerGeoTag? (idVal dnsZone myTag : String) (ctp : ControlPlane) : Option String :=
  let params := ctp.parameters
  let peerId := params.id.getD ""
  let peerK8gb := params.k8gb.getD {}
  -- the list contains this ControlPlane as well
  if peerId = "" ∨ peerId = idVal then none
  else if peerK8gb.enabled ≠ some "yes" ∨ peerK8gb.dnsZone ≠ some dnsZone then none
  else
    let tag := deriveK8gbGeoTag (some peerK8gb) (params.location.getD "") peerId
    if tag ≠ "" ∧ tag ≠ myTag then some tag else none

/-- The sorted, comma-joined geo tags of the peers on the same dnsZone. -/
def deriveK8gbExtGeoTags (idVal dnsZone myTag : String) (allCtps : List ControlPlane) :
    String :=
  let tags : Finset String := (allCtps.filterMap (peerGeoTag? idVal dnsZone myTag)).toFinset
  ",".intercalate (tags.sort (· ≤ ·))

/-- The observed CoreDNS LoadBalancer endpoint: the first ingress point's ip, else
its hostname. -/
def extractCorednsEndpoint (observed : Observed) : String :=
  match observed.lookup "k8gb-coredns-observe" with
  | some obs =>
    match obs.status.atProvider.manifest.ingress with
    -- an Azure load balancer surfaces an ip
    | first :: _ => orElseEmpty first.ip (orElseEmpty first.hostname "")
    | [] => ""
  | none => ""

def extractK8gbPublicIp (observed : Observed) : String :=
  readStatus observed "k8gb-ip" fun status => status.atProvider.ipAddress

def extractK8gbPublicIpId (observed : Observed) : String :=
  readStatus observed "k8gb-ip" fun status => status.atProvider.id

end AzureCtp
