import AzureCtp.Model.Resource

/-!
# Requests and responses

A request of the composition function: the observed ControlPlane XR, the
observed composed resources, and the list of all ControlPlanes that Crossplane
fetches for the `allControlPlanes` requirement. Parameters are optional field by
field, since the source reads each with its own fallback.

A response: the requirement, the desired composed resources and the desired XR,
whose status `update_status` writes.
-/

set_option autoImplicit false

namespace AzureCtp

open Document

/-- `license.secretRef`. -/
structure SecretRef where
  name : Option String := none
  ns : Option String := none
  deriving DecidableEq, Repr

/-- The `license` parameter, also the shape of `status.controlplane.license`. -/
structure License where
  secretRef : Option SecretRef := none
  deriving DecidableEq, Repr

/-- `nodes`. -/
structure Nodes where
  count : Option Int := none
  vmSize : Option String := none
  availabilityZones : Option (List String) := none

/-- `network`. -/
structure NetworkParam where
  addressRange : Option String := none
  generalSubnetRange : Option String := none

/-- `uxp`. -/
structure UxpParam where
  version : Option String := none

/-- `backup.installFrom`. -/
structure InstallFrom where
  location : Option String := none
  name : Option String := none

/-- `backup`. -/
structure Backup where
  enabled : Option String := none
  location : Option String := none
  bucketRegion : Option String := none
  schedule : Option String := none
  installFrom : Option InstallFrom := none

/-- `providerVerticalPodAutoscaling`. -/
structure Vpa where
  enabled : Option String := none
  minCpu : Option String := none
  maxCpu : Option String := none
  minMemory : Option String := none
  maxMemory : Option String := none

/-- `knative`. -/
structure Knative where
  enabled : Option String := none

/-- `k8gb`. -/
structure K8gb where
  enabled : Option String := none
  dnsZone : Option String := none
  parentZone : Option String := none
  clusterGeoTag : Option String := none
  strategy : Option String := none

/-- `argocd`. -/
structure Argocd where
  enabled : Option String := none
  hostname : Option String := none
  url : Option String := none

/-- `spec.parameters` of the ControlPlane XR. -/
structure Parameters where
  id : Option String := none
  location : Option String := none
  providerConfigName : Option String := none
  version : Option String := none
  nodes : Option Nodes := none
  network : Option NetworkParam := none
  uxp : Option UxpParam := none
  backup : Option Backup := none
  license : Option License := none
  providerVerticalPodAutoscaling : Option Vpa := none
  knative : Option Knative := none
  k8gb : Option K8gb := none
  argocd : Option Argocd := none
  managementMode : Option String := none

/-- The parameters the XRD requires, the others left out. -/
def Parameters.required (id location : String) (nodes : Nodes) : Parameters where
  id := some id
  location := some location
  nodes := some nodes

/-- The metadata of a ControlPlane, as the API server serves it. -/
structure ObjectMeta where
  ns : Option String := none
  name : Option String := none
  creationTimestamp : Option String := none
  deletionTimestamp : Option String := none
  deriving DecidableEq, Repr

/-- A ControlPlane XR. Of its status only `controlplane.license` is read. -/
structure ControlPlane where
  apiVersion : String := "azure.platform.upbound.io/v1alpha1"
  kind : String := "ControlPlane"
  metadata : ObjectMeta := {}
  parameters : Parameters := {}
  statusLicense : Option License := none

/-- What one run of the function receives. -/
structure Request where
  composite : ControlPlane
  observed : Observed := ∅
  allControlPlanes : List ControlPlane := []

/-- Python truthiness of an optional dictionary: present, with some field. -/
def License.truthy (license : Option License) : Bool :=
  license.any fun l => l.secretRef.isSome

/-- Truthiness of the `providerVerticalPodAutoscaling` dictionary. -/
def Vpa.truthy (vpa : Option Vpa) : Bool :=
  vpa.any fun v => v.enabled.isSome || v.minCpu.isSome || v.maxCpu.isSome ||
    v.minMemory.isSome || v.maxMemory.isSome

/-- Truthiness of the `knative` dictionary. -/
def Knative.truthy (knative : Option Knative) : Bool :=
  knative.any fun k => k.enabled.isSome

/-- Truthiness of the `k8gb` dictionary. -/
def K8gb.truthy (k8gb : Option K8gb) : Bool :=
  k8gb.any fun k => k.enabled.isSome || k.dnsZone.isSome || k.parentZone.isSome ||
    k.clusterGeoTag.isSome || k.strategy.isSome

/-- `status.controlplane.uxp`. -/
structure UxpStatus where
  version : String
  ready : Bool

/-- `status.controlplane.backup`. -/
structure BackupStatus where
  enabled : String
  containerRef : String
  identityClientId : Option String
  lastBackupTime : Option String

/-- `status.controlplane.resources`. -/
structure ResourceCounts where
  total : Nat := 0
  synced : Nat := 0
  ready : Nat := 0
  syncedAndReady : Nat := 0
  deriving DecidableEq, Repr

/-- `status.controlplane.nodes`. -/
structure NodesStatus where
  vmSize : String
  currentVmSize : Option String

/-- `status.controlplane.k8gb`. -/
structure K8gbStatus where
  enabled : String
  nsName : Option String := none
  coreDNSEndpoint : Option String := none
  glueAddresses : Option (List String) := none
  delegationRecord : Option String := none

/-- An entry of `status.controlplane.conditions`. -/
structure StatusCondition where
  type : String
  status : String
  reason : String
  message : String

/-- `status.controlplane`, as one reconcile writes it. -/
structure ControlPlaneStatus where
  created : String
  lastReconcileDate : String
  uxp : UxpStatus
  backup : Option BackupStatus
  resources : ResourceCounts
  clusterName : Option String
  nodes : NodesStatus
  license : Option License
  providerVerticalPodAutoscaling : Option String
  knative : Option String
  k8gb : Option K8gbStatus
  conditions : List StatusCondition

/-- `rsp.requirements.resources["allControlPlanes"]`. -/
structure ResourceSelector where
  apiVersion : String
  kind : String
  matchLabels : List (String × String)

/-- The desired XR inside a response, as far as the function reads and writes it. -/
structure DesiredComposite where
  creationTimestamp : Option String := none
  status : Option ControlPlaneStatus := none

/-- A response. The default is what `response.to` returns for a request without
desired state: `composition.yaml` runs this function first. -/
structure Response where
  allControlPlanes : Option ResourceSelector := none
  composite : DesiredComposite := {}
  resources : Resources := ∅

end AzureCtp
