import AzureCtp.Model.Prelude

/-!
# Status writeback

`update_status` of `status.py`: readiness counts over the observed resources, the
feature blocks, and the operator-facing conditions.
-/

set_option autoImplicit false

namespace AzureCtp

open Document

/-- The two flags of the loop over one resource's conditions. -/
def syncedReadyFlags (conditions : List Condition) : Bool × Bool :=
  conditions.foldl
    (fun flags cond =>
      (flags.1 || (cond.type == some "Synced" && cond.status == some "True"),
       flags.2 || (cond.type == some "Ready" && cond.status == some "True")))
    (false, false)

/-- One round of the counting loop over the observed resources. -/
def countResource (counts : ResourceCounts) (obs : ObservedResource) : ResourceCounts :=
  let flags := syncedReadyFlags obs.status.conditions
  { total := counts.total + 1
    synced := if flags.1 then counts.synced + 1 else counts.synced
    ready := if flags.2 then counts.ready + 1 else counts.ready
    syncedAndReady :=
      if flags.1 && flags.2 then counts.syncedAndReady + 1 else counts.syncedAndReady }

/-- The readiness counts over the observed resources. -/
def countResources (observed : Observed) : ResourceCounts :=
  observed.entries.foldl (fun counts entry => countResource counts entry.2) {}

/-- `status.controlplane.backup`. -/
def backupStatus (backup : Backup) (clientId containerRef : String) (observed : Observed) :
    Option BackupStatus :=
  if backup.enabled == some "yes" then
    let lastBackup :=
      readStatus observed "backup-schedule" fun status => status.atProvider.manifest.lastBackup
    some
      { enabled := "yes"
        containerRef := containerRef
        identityClientId := if clientId ≠ "" then some clientId else none
        lastBackupTime := if lastBackup ≠ "" then some lastBackup else none }
  else none

/-- `status.controlplane.license`: the claim, with both fields filled in. -/
def licenseStatus (licenseClaim : Option License) : Option License :=
  if License.truthy licenseClaim then
    let ref := (licenseClaim.getD {}).secretRef.getD {}
    let named : SecretRef := { name := some (ref.name.getD ""), ns := some (ref.ns.getD "default") }
    some { secretRef := some named }
  else none

/-- `zone_label[: -len(suffix)]` when the zone ends with the suffix. -/
def stripSuffix (zone suffix : String) : String :=
  if suffix.toList.isSuffixOf zone.toList then
    String.ofList (zone.toList.take (zone.toList.length - suffix.toList.length))
  else zone

/-- The NS name k8gb derives: the geo tag before the flattened zone. -/
def nsName (geoTag dnsZone parentZone : String) : String :=
  let stripped := stripSuffix dnsZone ("." ++ parentZone)
  let zoneLabel := String.ofList (stripped.toList.map fun c => if c = '.' then '-' else c)
  "gslb-ns-" ++ geoTag ++ "-" ++ zoneLabel ++ "." ++ parentZone

/-- `status.controlplane.k8gb`, the contract FleetGslb consumes. -/
def k8gbStatus (k8gb : Option K8gb) (geoTag publicIp : String) (k8gbDeployed : Bool)
    (observed : Observed) : Option K8gbStatus :=
  if !K8gb.truthy k8gb then none
  else
    let param := k8gb.getD {}
    if param.enabled == some "yes" then
      let dnsZone := param.dnsZone.getD ""
      let parentZone := param.parentZone.getD ""
      let name := nsName geoTag dnsZone parentZone
      let endpoint := extractCorednsEndpoint observed
      -- the record is published once the LB answers on the reserved IP
      let delegated := publicIp ≠ "" ∧ k8gbDeployed = true ∧ endpoint = publicIp
      some
        { enabled := param.enabled.getD "no"
          nsName := some name
          coreDNSEndpoint := if endpoint ≠ "" then some endpoint else none
          glueAddresses := if delegated then some [publicIp] else none
          delegationRecord :=
            if delegated then
              some ("\n".intercalate
                [dnsZone ++ ". 30 IN NS " ++ name ++ ".",
                 name ++ ". 30 IN A " ++ publicIp])
            else none }
    else some { enabled := param.enabled.getD "no" }

/-- The Ready condition. -/
def readyCondition (counts : ResourceCounts) : StatusCondition :=
  if counts.syncedAndReady = counts.total ∧ counts.total > 0 then
    { type := "Ready"
      status := "True"
      reason := "Available"
      message := "Control plane is ready" }
  else
    { type := "Ready"
      status := "False"
      reason := "Creating"
      message := "Waiting for resources: " ++ toString counts.syncedAndReady ++ "/" ++
        toString counts.total ++ " ready" }

/-- The condition for a default node pool whose vmSize was changed in place. -/
def vmSizeCondition (nodes : Nodes) (actualVmSize : String) : StatusCondition :=
  { type := "NodePoolVmSizeImmutable"
    status := "True"
    reason := "ImmutableField"
    message := "AKS default node pool vmSize is immutable. Current: " ++ actualVmSize ++
      ", Desired: " ++ nodes.vmSize.getD "None" ++ ". To change VM size, " ++
      "provision a new ControlPlane with backup.installFrom pointing to " ++
      "this control plane's backup." }

/-- The condition that names the owner of the requested license Secret. -/
def licenseCondition (licenseConflict : String) : StatusCondition :=
  { type := "LicenseConflict"
    status := "True"
    reason := "DuplicateSecret"
    message := "License secret is already claimed by ControlPlane '" ++ licenseConflict ++
      "'. Each ControlPlane must use a unique license secret." }

/-- The status block; `creationTimestamp` is read from the desired XR. The `id_val`
and `params` arguments of the source are not read. -/
def controlPlaneStatus (creationTimestamp : Option String) (uxpVersion : String)
    (uxpDeployed : Bool) (backup : Backup) (clientId containerRef : String)
    (observed : Observed) (nodes : Nodes) (actualVmSize : String) (sizeMismatch : Bool)
    (clusterName : String) (vpa : Option Vpa) (knative : Option Knative) (k8gb : Option K8gb)
    (geoTag publicIp : String) (k8gbDeployed : Bool) (licenseConflict : String)
    (licenseClaim : Option License) (config : Config) : ControlPlaneStatus :=
  let counts := countResources observed
  { created := creationTimestamp.getD ""
    lastReconcileDate := config.lastReconcileDate
    uxp := { version := uxpVersion, ready := uxpDeployed }
    backup := backupStatus backup clientId containerRef observed
    resources := counts
    clusterName := if clusterName ≠ "" then some clusterName else none
    nodes :=
      { vmSize := nodes.vmSize.getD ""
        currentVmSize := if actualVmSize ≠ "" then some actualVmSize else none }
    license := licenseStatus licenseClaim
    providerVerticalPodAutoscaling :=
      if Vpa.truthy vpa then some ((vpa.getD {}).enabled.getD "no") else none
    knative :=
      if Knative.truthy knative then some ((knative.getD {}).enabled.getD "no") else none
    k8gb := k8gbStatus k8gb geoTag publicIp k8gbDeployed observed
    conditions :=
      [readyCondition counts] ++
      (if sizeMismatch then [vmSizeCondition nodes actualVmSize] else []) ++
      if licenseConflict ≠ "" then [licenseCondition licenseConflict] else [] }

end AzureCtp
