import AzureCtp.Model.Compose

/-!
# The function as a step of a pipeline

A composition is a pipeline. Each function is handed the desired state of those before it and
answers with its own, in which a resource is a document with a readiness flag and connection
details. `compose` is the function on this state: `resource.update` assigns the top-level
fields of a resource, whatever else the state has for it, and the orphan-policy sweep runs over
the documents of all functions.
-/

set_option autoImplicit false

namespace AzureCtp

open Document

/-! ### The documents of composed resources -/

/-- A field that is only there when it has a value. -/
def optionalField {α : Type} (key : String) (value : Option α) (f : α → Value) :
    List (String × Value) :=
  (value.map fun v => (key, f v)).toList

/-- The text of an entry of a `managementPolicies` list. -/
def ManagementPolicy.text : ManagementPolicy → String
  | all => "*"
  | only .observe => "Observe"
  | only .create => "Create"
  | only .update => "Update"
  | only .delete => "Delete"
  | only .lateInitialize => "LateInitialize"

/-- A `managementPolicies` list. -/
def policiesDocument (policies : List ManagementPolicy) : Value :=
  .strings (policies.map ManagementPolicy.text)

def Metadata.document (metadata : Metadata) : Value :=
  .dict [
    ("name", metadata.name),
    ("namespace", metadata.ns),
    ("annotations", .dict (metadata.annotations.map fun ann => (ann.1, .str ann.2)))]

def PatchesFrom.document (source : PatchesFrom) : Value :=
  .dict (
    [("apiVersion", .str source.apiVersion), ("kind", .str source.kind)] ++
    optionalField "name" source.name .str ++
    optionalField "namespace" source.ns .str ++
    optionalField "fieldPath" source.fieldPath .str)

def Reference.document (reference : Reference) : Value :=
  .dict (
    optionalField "patchesFrom" reference.patchesFrom PatchesFrom.document ++
    optionalField "toFieldPath" reference.toFieldPath .str)

def NetworkParameters.document (parameters : NetworkParameters) : Value :=
  .dict [
    ("id", parameters.id),
    ("region", parameters.region),
    ("addressRange", parameters.addressRange),
    ("generalSubnetRange", parameters.generalSubnetRange),
    ("managementPolicies", policiesDocument parameters.managementPolicies),
    ("providerConfigName", parameters.providerConfigName)]

def AksNodes.document (nodes : AksNodes) : Value :=
  .dict (
    [("count", .num nodes.count), ("instanceType", .str nodes.instanceType)] ++
    optionalField "availabilityZones" nodes.availabilityZones .strings)

def AksParameters.document (parameters : AksParameters) : Value :=
  .dict [
    ("id", parameters.id),
    ("region", parameters.region),
    ("version", parameters.version),
    ("nodes", parameters.nodes.document),
    ("managementPolicies", policiesDocument parameters.managementPolicies),
    ("providerConfigName", parameters.providerConfigName)]

def UsageSpec.document (spec : UsageSpec) : Value :=
  .dict [
    ("of", .dict [
      ("apiVersion", spec.ofResource.apiVersion),
      ("kind", spec.ofResource.kind),
      ("resourceRef", .dict [
        ("name", spec.ofResource.name),
        ("namespace", spec.ofResource.ns)])]),
    ("by", .dict [
      ("apiVersion", spec.byResource.apiVersion),
      ("kind", spec.byResource.kind),
      ("resourceRef", .dict [("name", spec.byResource.name)])]),
    ("reason", spec.reason),
    ("replayDeletion", spec.replayDeletion)]

/-- The fields of a managed resource's spec. Their order is free; the policies come last, where
the sweep puts them. -/
def ManagedSpec.fields (spec : ManagedSpec) : List (String × Value) :=
  [("forProvider", spec.forProvider)] ++
  (if spec.references = [] then []
    else [("references", .list (spec.references.map Reference.document))]) ++
  [("providerConfigRef", .dict [
    ("name", spec.providerConfigRef.name),
    ("kind", spec.providerConfigRef.kind)])] ++
  optionalField "managementPolicies" spec.managementPolicies policiesDocument

def Spec.document : Spec → Value
  | network parameters => .dict [("parameters", parameters.document)]
  | aks parameters => .dict [("parameters", parameters.document)]
  | usage spec => spec.document
  | managed spec => .dict spec.fields

/-- The dictionary the source builds for a resource. -/
def Resource.document (r : Resource) : List (String × Value) :=
  [("apiVersion", r.apiVersion),
   ("kind", r.kind),
   ("metadata", r.metadata.document),
   ("spec", r.spec.document)]

/-! ### Desired state -/

/-- The readiness flag of a desired resource. -/
inductive Ready where
  | unspecified
  | ready
  | unready
  deriving DecidableEq, Repr

/-- A resource in the desired state. -/
structure DesiredResource where
  fields : List (String × Value) := []
  connectionDetails : List (String × String) := []
  ready : Ready := .unspecified

/-- The XR in the desired state. A status that is already there is overwritten unread. -/
structure DesiredXr where
  fields : List (String × Value) := []
  connectionDetails : List (String × String) := []
  ready : Ready := .unspecified
  status : Option ControlPlaneStatus := none

/-- The desired state that one function hands to the next. -/
structure DesiredState where
  composite : DesiredXr := {}
  resources : Map DesiredResource := ∅

/-- What a function answers. -/
structure FunctionResponse where
  allControlPlanes : Option ResourceSelector
  desired : DesiredState

/-- `metadata.creationTimestamp` of the desired XR. -/
def DesiredXr.creationTimestamp (xr : DesiredXr) : Option String :=
  match (xr.fields.lookup "metadata").bind (·.get? "creationTimestamp") with
  | some (.str timestamp) => some timestamp
  | _ => none

/-- `resource.update`: the fields of the resource overwrite those of the document; its other
fields, its connection details and its flag are kept. -/
def DesiredResource.update (desired : DesiredResource) (r : Resource) : DesiredResource :=
  { desired with fields := updateFields desired.fields r.document }

/-- One round of the orphan-policy sweep, over a document of any function. -/
def DesiredResource.orphanPolicy (mgmtPolicies : List ManagementPolicy)
    (desired : DesiredResource) : DesiredResource :=
  match desired.fields.lookup "spec" with
  | some spec =>
    -- a composed XR or a Usage, or a resource with policies of its own
    if (spec.get? "forProvider").isNone || (spec.get? "managementPolicies").isSome then desired
    else
      { desired with
        fields := setField desired.fields "spec"
          (spec.set "managementPolicies" (policiesDocument mgmtPolicies)) }
  | none => desired

/-- Main composition function entry point, called by `RunFunction` with the desired state it is
handed. A name that is not there yet is added. -/
def compose (now : String) (req : Request) (desired : DesiredState) : FunctionResponse where
  allControlPlanes := req.peersSelector
  desired :=
    { composite :=
        { desired.composite with
          status := some (req.status now desired.composite.creationTimestamp) }
      resources :=
        mapValues (DesiredResource.orphanPolicy req.mgmtPolicies)
          (updateAll (fun known r => (known.getD {}).update r) desired.resources
            (req.writes now)) }

end AzureCtp
