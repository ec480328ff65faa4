import AzureCtp.Model.Infrastructure

/-!
# Backup and workload identity

The resources of `backup.py` and `workload_identity.py`.
-/

set_option autoImplicit false

namespace AzureCtp

open Document

/-! ### backup.py -/

/-- StorageAccount and Container never include Delete. -/
def storagePolicies (config : Config) : List ManagementPolicy :=
  -- Full and Provision share the fallback: everything but Delete
  let byMode : List (String × List ManagementPolicy) :=
    [("ObserveOnly", [.only .observe]),
     ("Deprovision", [.only .observe, .only .create])]
  (byMode.lookup config.managementMode).getD
    [.only .observe, .only .create, .only .update, .only .lateInitialize]

def storageAcct (idVal bucketRegion providerConfig storageAccount : String) (config : Config) :
    Resource :=
  stamp
    { apiVersion := "storage.azure.m.upbound.io/v1beta1"
      kind := "Account"
      metadata :=
        { name := storageAccount
          ns := config.ns
          annotations :=
            [compositionResourceName "backup-storage-account",
              ("crossplane.io/external-name", storageAccount)] }
      spec := .managed
        { managementPolicies := some (storagePolicies config)
          -- placed in the resource group that the Network XR owns
          forProvider := .dict [
            ("location", bucketRegion),
            ("resourceGroupNameSelector", networkIdSelector idVal),
            ("accountTier", "Standard"),
            ("accountReplicationType", "LRS"),
            ("accountKind", "StorageV2")]
          providerConfigRef := { name := providerConfig, kind := "ProviderConfig" } } }
    config true

def backupContainer (idVal providerConfig storageAccount containerName : String)
    (config : Config) : Resource :=
  stamp
    { apiVersion := "storage.azure.m.upbound.io/v1beta1"
      kind := "Container"
      metadata :=
        { name := idVal ++ "-backup-container"
          ns := config.ns
          annotations :=
            [compositionResourceName "backup-container",
              ("crossplane.io/external-name", containerName)] }
      spec := .managed
        { managementPolicies := some (storagePolicies config)
          -- a Container accepts no Azure tags
          forProvider := .dict [
            ("storageAccountNameRef", .dict [("name", storageAccount)]),
            ("containerAccessType", "private")]
          providerConfigRef := { name := providerConfig, kind := "ProviderConfig" } } }
    config false

/-- `spec.objectStorage` of the BackupConfig manifest. -/
def objectStorage (storageAccount containerName : String) : Value :=
  .dict [
    ("provider", "Azure"),
    ("bucket", containerName),
    ("credentials", .dict [("source", "InjectedIdentity")]),
    -- passed through to the object store, which reads the account from this key
    ("config", .dict [("storage_account", storageAccount)])]

def backupConfig (idVal storageAccount containerName : String) (config : Config) : Resource :=
  stamp
    { apiVersion := "kubernetes.m.crossplane.io/v1alpha1"
      kind := "Object"
      metadata :=
        { name := idVal ++ "-backup-config"
          ns := config.ns
          annotations := [compositionResourceName "backup-config"] }
      spec := .managed
        { forProvider := .dict [("manifest", .dict [
            ("apiVersion", "admin.uxp.upbound.io/v1beta1"),
            ("kind", "BackupConfig"),
            ("metadata", .dict [("name", idVal ++ "-backup")]),
            ("spec", .dict [("objectStorage", objectStorage storageAccount containerName)])])]
          providerConfigRef := { name := idVal, kind := "ProviderConfig" } } }
    config false

def backupRbac (idVal : String) (config : Config) : Resource :=
  stamp
    { apiVersion := "kubernetes.m.crossplane.io/v1alpha1"
      kind := "Object"
      metadata :=
        { name := idVal ++ "-backup-rbac"
          ns := config.ns
          annotations := [compositionResourceName "backup-rbac"] }
      spec := .managed
        { forProvider := .dict [("manifest", .dict [
            ("apiVersion", "rbac.authorization.k8s.io/v1"),
            ("kind", "ClusterRole"),
            ("metadata", .dict [("name", "upbound-backup-storeconfigs")]),
            ("rules", .list [.dict [
              ("apiGroups", .strings ["secrets.crossplane.io"]),
              ("resources", .strings ["storeconfigs"]),
              ("verbs", .strings ["get", "list"])]])])]
          providerConfigRef := { name := idVal, kind := "ProviderConfig" } } }
    config false

def backupRbacBinding (idVal : String) (config : Config) : Resource :=
  stamp
    { apiVersion := "kubernetes.m.crossplane.io/v1alpha1"
      kind := "Object"
      metadata :=
        { name := idVal ++ "-backup-rbac-binding"
          ns := config.ns
          annotations := [compositionResourceName "backup-rbac-binding"] }
      spec := .managed
        { forProvider := .dict [("manifest", .dict [
            ("apiVersion", "rbac.authorization.k8s.io/v1"),
            ("kind", "ClusterRoleBinding"),
            ("metadata", .dict [("name", "upbound-backup-storeconfigs")]),
            ("roleRef", .dict [
              ("apiGroup", "rbac.authorization.k8s.io"),
              ("kind", "ClusterRole"),
              ("name", "upbound-backup-storeconfigs")]),
            ("subjects", .list [.dict [
              ("kind", "ServiceAccount"),
              ("name", "upbound-controller-manager"),
              ("namespace", "crossplane-system")]])])]
          providerConfigRef := { name := idVal, kind := "ProviderConfig" } } }
    config false

def backupSchedule (idVal schedule : String) (config : Config) : Resource :=
  stamp
    { apiVersion := "kubernetes.m.crossplane.io/v1alpha1"
      kind := "Object"
      metadata :=
        { name := idVal ++ "-backup-schedule"
          ns := config.ns
          annotations := [compositionResourceName "backup-schedule"] }
      spec := .managed
        { forProvider := .dict [("manifest", .dict [
            ("apiVersion", "admin.uxp.upbound.io/v1beta1"),
            ("kind", "BackupSchedule"),
            ("metadata", .dict [("name", idVal ++ "-schedule")]),
            ("spec", .dict [
              ("schedule", schedule),
              ("configRef", .dict [("name", idVal ++ "-backup")])])])]
          providerConfigRef := { name := idVal, kind := "ProviderConfig" } } }
    config false

/-- The `location`, `uxp_deployed` and `client_id` arguments of the source are not
read. -/
def addBackupResources (idVal _location bucketRegion providerConfig storageAccount
    containerName : String) (backup : Backup) (_uxpDeployed : Bool) (_clientId : String)
    (config : Config) : List Write :=
  let schedule := backup.schedule.getD ""
  [⟨"backup-storage-account",
      storageAcct idVal bucketRegion providerConfig storageAccount config⟩,
   ⟨"backup-container",
      backupContainer idVal providerConfig storageAccount containerName config⟩,
   ⟨"backup-config", backupConfig idVal storageAccount containerName config⟩,
   ⟨"backup-rbac", backupRbac idVal config⟩,
   ⟨"backup-rbac-binding", backupRbacBinding idVal config⟩] ++
  if schedule ≠ "" then [⟨"backup-schedule", backupSchedule idVal schedule config⟩] else []

/-! ### workload_identity.py -/

def backupIdentity (idVal location providerConfig : String) (config : Config) : Resource :=
  stamp
    { apiVersion := "managedidentity.azure.m.upbound.io/v1beta1"
      kind := "UserAssignedIdentity"
      metadata :=
        { name := idVal ++ "-backup-identity"
          ns := config.ns
          annotations := [compositionResourceName "backup-identity"] }
      spec := .managed
        { forProvider := .dict [
            ("name", idVal ++ "-backup-identity"),
            ("location", location),
            ("resourceGroupNameSelector", networkIdSelector idVal)]
          providerConfigRef := { name := providerConfig, kind := "ProviderConfig" } } }
    config true

def backupFederation (idVal providerConfig oidcIssuerUrl : String) (config : Config) :
    Resource :=
  stamp
    { apiVersion := "managedidentity.azure.m.upbound.io/v1beta1"
      kind := "FederatedIdentityCredential"
      metadata :=
        { name := idVal ++ "-backup-federation"
          ns := config.ns
          annotations := [compositionResourceName "backup-federation"] }
      spec := .managed
        { forProvider := .dict [
            ("resourceGroupNameSelector", networkIdSelector idVal),
            ("parentIdRef", .dict [("name", idVal ++ "-backup-identity")]),
            ("audience", .strings ["api://AzureADTokenExchange"]),
            ("issuer", oidcIssuerUrl),
            ("subject",
              "system:serviceaccount:crossplane-system:upbound-controller-manager")]
          providerConfigRef := { name := providerConfig, kind := "ProviderConfig" } } }
    config false

def backupRole (idVal providerConfig principalId storageAccountId : String) (config : Config) :
    Resource :=
  stamp
    { apiVersion := "authorization.azure.m.upbound.io/v1beta1"
      kind := "RoleAssignment"
      metadata :=
        { name := idVal ++ "-backup-role"
          ns := config.ns
          annotations := [compositionResourceName "backup-role"] }
      spec := .managed
        { forProvider := .dict [
            ("principalId", principalId),
            ("roleDefinitionName", "Storage Blob Data Contributor"),
            ("scope", storageAccountId)]
          providerConfigRef := { name := providerConfig, kind := "ProviderConfig" } } }
    config false

/-- The annotations of the UXP ServiceAccount: the client id, once it is known. -/
def saAnnotations (clientId : String) : Value :=
  .dict (if clientId ≠ "" then [("azure.workload.identity/client-id", clientId)] else [])

def backupSa (idVal clientId : String) (config : Config) : Resource :=
  stamp
    { apiVersion := "kubernetes.m.crossplane.io/v1alpha1"
      kind := "Object"
      metadata :=
        { name := idVal ++ "-backup-sa"
          ns := config.ns
          annotations := [compositionResourceName "backup-sa"] }
      spec := .managed
        { forProvider := .dict [("manifest", .dict [
            ("apiVersion", "v1"),
            ("kind", "ServiceAccount"),
            ("metadata", .dict [
              ("name", "upbound-controller-manager"),
              ("namespace", "crossplane-system"),
              ("annotations", saAnnotations clientId),
              ("labels", .dict [("azure.workload.identity/use", "true")])])])]
          providerConfigRef := { name := idVal, kind := "ProviderConfig" } } }
    config false

/-- The manifest that rolls the controller Deployment: a constant, so it forces a
single rollout when the Object is first applied. -/
def controllerRestartManifest : Value :=
  .dict [
    ("apiVersion", "apps/v1"),
    ("kind", "Deployment"),
    ("metadata", .dict [
      ("name", "upbound-controller-manager"),
      ("namespace", "crossplane-system"),
      ("annotations", .dict [
        -- a literal string, written once
        ("kubectl.kubernetes.io/restartedAt", "\x7b\x7b now \x7d\x7d")])]),
    ("spec", .dict [("template", .dict [("metadata", .dict [
      ("labels", .dict [("azure.workload.identity/use", "true")])])])])]

def controllerRestart (idVal : String) (config : Config) : Resource :=
  stamp
    { apiVersion := "kubernetes.m.crossplane.io/v1alpha1"
      kind := "Object"
      metadata :=
        { name := idVal ++ "-controller-restart"
          ns := config.ns
          annotations := [compositionResourceName "controller-restart"] }
      spec := .managed
        { forProvider := .dict [("manifest", controllerRestartManifest)]
          providerConfigRef := { name := idVal, kind := "ProviderConfig" } } }
    config false

/-- `spec.backupLocation` of the Restore manifest. -/
def backupLocation (srcAccount srcContainer : String) : Value :=
  .dict [
    ("provider", "Azure"),
    ("bucket", srcContainer),
    ("credentials", .dict [("source", "InjectedIdentity")]),
    ("config", .dict [("endpoint", srcAccount ++ ".blob.core.windows.net")])]

def backupRestore (idVal srcAccount srcContainer restoreName : String) (config : Config) :
    Resource :=
  stamp
    { apiVersion := "kubernetes.m.crossplane.io/v1alpha1"
      kind := "Object"
      metadata :=
        { name := idVal ++ "-backup-restore"
          ns := config.ns
          annotations := [compositionResourceName "backup-restore"] }
      spec := .managed
        { forProvider := .dict [("manifest", .dict [
            ("apiVersion", "admin.uxp.upbound.io/v1beta1"),
            ("kind", "Restore"),
            ("metadata", .dict [("name", idVal ++ "-restore")]),
            ("spec", .dict [
              ("backupRef", .dict [("name", restoreName)]),
              ("backupLocation", backupLocation srcAccount srcContainer)])])]
          providerConfigRef := { name := idVal, kind := "ProviderConfig" } } }
    config false

/-- The source account and container and the backup name of `installFrom`. -/
def restoreSource (installFrom : Option InstallFrom) : String × String × String :=
  let source := installFrom.getD {}
  let location := parseBlobLocation (source.location.getD "")
  (location.1, location.2, source.name.getD "")

/-- `src_account and src_container and restore_name`. -/
def restorable (installFrom : Option InstallFrom) : Bool :=
  let source := restoreSource installFrom
  source.1 != "" && source.2.1 != "" && source.2.2 != ""

/-- The `storage_account`, `container_name` and `observed` arguments of the source
are not read. -/
def addWorkloadIdentityResources (idVal location providerConfig oidcIssuerUrl
    _storageAccount _containerName : String) (_observed : Observed)
    (installFrom : Option InstallFrom) (clientId principalId storageAccountId : String)
    (config : Config) : List Write :=
  let source := restoreSource installFrom
  [⟨"backup-identity", backupIdentity idVal location providerConfig config⟩,
   ⟨"backup-federation", backupFederation idVal providerConfig oidcIssuerUrl config⟩] ++
  -- the RoleAssignment has no references to resolve, so both ids must be observed
  (if principalId ≠ "" ∧ storageAccountId ≠ "" then
    [⟨"backup-role", backupRole idVal providerConfig principalId storageAccountId config⟩]
  else []) ++
  -- neither waits for the client id
  [⟨"backup-sa", backupSa idVal clientId config⟩,
   ⟨"controller-restart", controllerRestart idVal config⟩] ++
  if restorable installFrom then
    [⟨"backup-restore", backupRestore idVal source.1 source.2.1 source.2.2 config⟩]
  else []

end AzureCtp
