import AzureCtp.Library.Document

/-!
# Kubernetes resources

The resources a reconcile composes and observes. Every dictionary the source
builds for a resource has `apiVersion`, `kind`, `metadata` with a name, a
namespace and annotations, and a `spec` of one of four shapes: the parameters of
a composed `Network` or `AKS` XR, a deletion guard (`Usage`), or the spec of a
managed resource, which is the one that carries `forProvider`. Provider payloads
and Kubernetes manifests are free-form documents.

The observed counterpart of a resource adds the status fields that the function
reads.
-/

set_option autoImplicit false

namespace AzureCtp

open Document

/-- The actions a management policy can allow. -/
inductive Action where
  | observe
  | create
  | update
  | delete
  | lateInitialize
  deriving DecidableEq, Repr

/-- An entry of a `managementPolicies` list: one action, or `"*"`. -/
inductive ManagementPolicy where
  | all
  | only (action : Action)
  deriving DecidableEq, Repr

/-- The actions a `managementPolicies` list allows, `"*"` allowing all of them. -/
def allows (policies : List ManagementPolicy) (action : Action) : Bool :=
  policies.contains .all || policies.contains (.only action)

/-- `metadata` of a resource. -/
structure Metadata where
  name : String
  ns : String
  annotations : List (String × String)

/-- `spec.providerConfigRef`. -/
structure ProviderConfigRef where
  name : String
  kind : String

/-- `spec.references[].patchesFrom` of a provider-kubernetes `Object`. -/
structure PatchesFrom where
  apiVersion : String
  kind : String
  name : Option String
  ns : Option String
  fieldPath : Option String

/-- `spec.references[]` of a provider-kubernetes `Object`. -/
structure Reference where
  patchesFrom : Option PatchesFrom
  toFieldPath : Option String

/-- The spec of a managed resource: Helm Release, provider-kubernetes Object or
Azure resource. Without a `managementPolicies` key the list is `none`. -/
structure ManagedSpec where
  managementPolicies : Option (List ManagementPolicy) := none
  forProvider : Value
  references : List Reference := []
  providerConfigRef : ProviderConfigRef

/-- `spec.parameters` of the composed Network XR. -/
structure NetworkParameters where
  id : String
  region : String
  addressRange : String
  generalSubnetRange : String
  managementPolicies : List ManagementPolicy
  providerConfigName : String

/-- `spec.parameters.nodes` of the composed AKS XR. -/
structure AksNodes where
  count : Int
  instanceType : String
  availabilityZones : Option (List String) := none

/-- `spec.parameters` of the composed AKS XR. -/
structure AksParameters where
  id : String
  region : String
  version : String
  nodes : AksNodes
  managementPolicies : List ManagementPolicy
  providerConfigName : String

/-- `spec.of` of a Usage: the protected resource. -/
structure UsageOf where
  apiVersion : String
  kind : String
  name : String
  ns : String

/-- `spec.by` of a Usage: the resource that still needs the protected one. -/
structure UsageBy where
  apiVersion : String
  kind : String
  name : String

/-- The spec of a Usage. -/
structure UsageSpec where
  ofResource : UsageOf
  byResource : UsageBy
  reason : String
  replayDeletion : Bool

/-- The four shapes of `spec`. -/
inductive Spec where
  | network (parameters : NetworkParameters)
  | aks (parameters : AksParameters)
  | usage (spec : UsageSpec)
  | managed (spec : ManagedSpec)

/-- A composed resource. -/
structure Resource where
  apiVersion : String
  kind : String
  metadata : Metadata
  spec : Spec

/-- The map of desired composed resources, by composition-resource-name. -/
abbrev Resources := Map Resource

/-- One write `rsp.desired.resources[name] = resource`. -/
abbrev Write := Entry Resource

namespace Resource

/-- The managed spec of a resource that has `spec.forProvider`. -/
def managed? (r : Resource) : Option ManagedSpec :=
  match r.spec with
  | .managed spec => some spec
  | _ => none

/-- The Usage spec of a deletion guard. -/
def usage? (r : Resource) : Option UsageSpec :=
  match r.spec with
  | .usage spec => some spec
  | _ => none

/-- The parameters of a composed Network XR. -/
def network? (r : Resource) : Option NetworkParameters :=
  match r.spec with
  | .network parameters => some parameters
  | _ => none

/-- The parameters of a composed AKS XR. -/
def aks? (r : Resource) : Option AksParameters :=
  match r.spec with
  | .aks parameters => some parameters
  | _ => none

/-- Read below `spec.forProvider`. -/
def forProvider? (r : Resource) (path : List String) : Option Value :=
  r.managed?.bind fun spec => spec.forProvider.at? path

/-- The policies that bound what Crossplane does with a resource: the
`managementPolicies` of a managed resource, the parameter of a composed XR. -/
def policies? (r : Resource) : Option (List ManagementPolicy) :=
  match r.spec with
  | .network parameters => some parameters.managementPolicies
  | .aks parameters => some parameters.managementPolicies
  | .usage _ => none
  | .managed spec => spec.managementPolicies

end Resource

/-- A status condition. -/
structure Condition where
  type : Option String
  status : Option String
  deriving DecidableEq, Repr

/-- One ingress point of an observed LoadBalancer Service. -/
structure Ingress where
  ip : Option String
  hostname : Option String

/-- The fields read from `status.atProvider.manifest.status`. -/
structure ManifestStatus where
  conditions : List Condition := []
  ingress : List Ingress := []
  lastBackup : Option String := none

/-- The fields read from `status.atProvider`. -/
structure AtProvider where
  state : Option String := none
  clientId : Option String := none
  principalId : Option String := none
  id : Option String := none
  ipAddress : Option String := none
  manifest : ManifestStatus := {}

/-- The fields read from `status.aks` of the AKS XR. -/
structure AksStatus where
  oidcUrl : Option String := none
  vmSize : Option String := none
  clusterName : Option String := none
  identityPrincipalId : Option String := none

/-- The status of an observed resource. -/
structure ResourceStatus where
  conditions : List Condition := []
  atProvider : AtProvider := {}
  aks : AksStatus := {}

/-- An observed composed resource. -/
structure ObservedResource extends Resource where
  status : ResourceStatus := {}

/-- A resource observed with a status. -/
def Resource.observedWith (r : Resource) (status : ResourceStatus) : ObservedResource where
  toResource := r
  status := status

/-- The status of a deployed Release. -/
def ResourceStatus.deployed : ResourceStatus where
  atProvider := { state := some "deployed" }

/-- The map of observed composed resources, by composition-resource-name. -/
abbrev Observed := Map ObservedResource

end AzureCtp
