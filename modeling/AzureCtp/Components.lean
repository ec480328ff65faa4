import AzureCtp.Model.Compose

/-!
# The components of a control plane

Every reconcile composes a subset of one fixed family of resources. A
`Component` names a member of the family; its gate decides, from the feature
switches and readiness signals of a request, whether it is composed, and
`Component.resource` is what it is composed as. `writes_eq` shows that a
reconcile writes exactly the gated components, so that later results read the gate
table and the resources, and never unfold the composition again.

## Main results

* `writes_eq`: the writes of a reconcile are the components with an open gate
* `lookup_reconcile_iff`: reading a composed resource back by its name
* `mem_reconcile_iff`: the composed names
* `at?_reconcile`: reading below `spec.forProvider` of a composed resource
-/

set_option autoImplicit false

namespace AzureCtp

open Document

/-- The resources the function can compose, in the order it writes them. -/
inductive Component where
  | network
  | aks
  | uxpRelease
  | usageReleaseAks
  | usageAksNetwork
  | usageEnvoyGatewayAks
  | usageEnvoyProxyConfigAks
  | usageGatewayClassAks
  | usageK8gbAks
  | usageK8gbCorednsAks
  | usageK8gbIpRelease
  | usageK8gbIpRoleRelease
  | usageArgocdAks
  | usageArgocdIssuerAks
  | usageArgocdCertAks
  | usageArgocdGatewayAks
  | usageArgocdHttprouteAks
  | usageArgocdAppAks
  | certmanagerRelease
  | envoyGatewayRelease
  | envoyProxyConfig
  | gatewayClass
  | k8gbIp
  | k8gbIpRole
  | k8gbRelease
  | k8gbCorednsObserve
  | argocdRelease
  | argocdGateway
  | argocdHttproute
  | argocdIssuer
  | argocdCert
  | argocdApp
  | backupStorageAccount
  | backupContainer
  | backupConfig
  | backupRbac
  | backupRbacBinding
  | backupSchedule
  | backupIdentity
  | backupFederation
  | backupRole
  | backupSa
  | controllerRestart
  | backupRestore
  | uxpLicenseSecret
  | uxpLicense
  | vpaRelease
  | knativeOperatorRelease
  | knativeServingNs
  | knativeServingCr
  | upboundRuntimeConfig
  deriving DecidableEq, Repr

/-- The switches and signals that decide which components are composed. -/
structure Gates where
  k8gb : Bool
  argocd : Bool
  backup : Bool
  vpa : Bool
  knative : Bool
  k8gbRole : Bool
  gatewayReady : Bool
  certmanagerReady : Bool
  argocdDeployed : Bool
  schedule : Bool
  workloadIdentity : Bool
  backupRole : Bool
  restore : Bool
  licenseClaimed : Bool
  featuresLicensed : Bool
  knativeDepsReady : Bool
  vpaReady : Bool
  knativeFullyReady : Bool

/-- The gates of a request. -/
def Request.gates (req : Request) : Gates where
  k8gb := req.k8gbEnabled
  argocd := req.argocdEnabled
  backup := req.backupEnabled
  vpa := req.vpaEnabled
  knative := req.knativeEnabled
  k8gbRole := req.k8gbRoleEmitted
  gatewayReady := req.gatewayReady
  certmanagerReady := req.certmanagerReady
  argocdDeployed := req.argocdDeployed
  schedule := req.backup.schedule.getD "" != ""
  workloadIdentity := req.oidcIssuerUrl != "" && req.uxpDeployed
  backupRole := req.principalId != "" && req.storageAccountId != ""
  restore := restorable req.installFrom
  licenseClaimed := req.licenseClaim.isSome
  featuresLicensed := req.featuresLicensed
  knativeDepsReady := req.knativeDepsReady
  vpaReady := req.vpaReady
  knativeFullyReady := req.knativeFullyReady

namespace Component

/-- The composition-resource-name. -/
def name : Component → String
  | network => "network"
  | aks => "aks"
  | uxpRelease => "uxp-release"
  | usageReleaseAks => "usage-release-aks"
  | usageAksNetwork => "usage-aks-network"
  | usageEnvoyGatewayAks => "usage-envoy-gateway-aks"
  | usageEnvoyProxyConfigAks => "usage-envoy-proxy-config-aks"
  | usageGatewayClassAks => "usage-gateway-class-aks"
  | usageK8gbAks => "usage-k8gb-aks"
  | usageK8gbCorednsAks => "usage-k8gb-coredns-aks"
  | usageK8gbIpRelease => "usage-k8gb-ip-release"
  | usageK8gbIpRoleRelease => "usage-k8gb-ip-role-release"
  | usageArgocdAks => "usage-argocd-aks"
  | usageArgocdIssuerAks => "usage-argocd-issuer-aks"
  | usageArgocdCertAks => "usage-argocd-cert-aks"
  | usageArgocdGatewayAks => "usage-argocd-gateway-aks"
  | usageArgocdHttprouteAks => "usage-argocd-httproute-aks"
  | usageArgocdAppAks => "usage-argocd-app-aks"
  | certmanagerRelease => "certmanager-release"
  | envoyGatewayRelease => "envoy-gateway-release"
  | envoyProxyConfig => "envoy-proxy-config"
  | gatewayClass => "gateway-class"
  | k8gbIp => "k8gb-ip"
  | k8gbIpRole => "k8gb-ip-role"
  | k8gbRelease => "k8gb-release"
  | k8gbCorednsObserve => "k8gb-coredns-observe"
  | argocdRelease => "argocd-release"
  | argocdGateway => "argocd-gateway"
  | argocdHttproute => "argocd-httproute"
  | argocdIssuer => "argocd-issuer"
  | argocdCert => "argocd-cert"
  | argocdApp => "argocd-app"
  | backupStorageAccount => "backup-storage-account"
  | backupContainer => "backup-container"
  | backupConfig => "backup-config"
  | backupRbac => "backup-rbac"
  | backupRbacBinding => "backup-rbac-binding"
  | backupSchedule => "backup-schedule"
  | backupIdentity => "backup-identity"
  | backupFederation => "backup-federation"
  | backupRole => "backup-role"
  | backupSa => "backup-sa"
  | controllerRestart => "controller-restart"
  | backupRestore => "backup-restore"
  | uxpLicenseSecret => "uxp-license-secret"
  | uxpLicense => "uxp-license"
  | vpaRelease => "vpa-release"
  | knativeOperatorRelease => "knative-operator-release"
  | knativeServingNs => "knative-serving-ns"
  | knativeServingCr => "knative-serving-cr"
  | upboundRuntimeConfig => "upbound-runtime-config"

/-- The Kubernetes kind. -/
def kind : Component → String
  | network => "Network"
  | aks => "AKS"
  | uxpRelease | certmanagerRelease | envoyGatewayRelease | k8gbRelease | argocdRelease
  | vpaRelease | knativeOperatorRelease => "Release"
  | usageReleaseAks | usageAksNetwork | usageEnvoyGatewayAks | usageEnvoyProxyConfigAks
  | usageGatewayClassAks | usageK8gbAks | usageK8gbCorednsAks | usageK8gbIpRelease
  | usageK8gbIpRoleRelease | usageArgocdAks | usageArgocdIssuerAks | usageArgocdCertAks
  | usageArgocdGatewayAks | usageArgocdHttprouteAks | usageArgocdAppAks => "Usage"
  | k8gbIp => "PublicIP"
  | k8gbIpRole | backupRole => "RoleAssignment"
  | backupStorageAccount => "Account"
  | backupContainer => "Container"
  | backupIdentity => "UserAssignedIdentity"
  | backupFederation => "FederatedIdentityCredential"
  | _ => "Object"

/-- Whether the component is composed. -/
def gate (g : Gates) : Component → Bool
  | network | aks | uxpRelease | usageReleaseAks | usageAksNetwork | certmanagerRelease => true
  | usageEnvoyGatewayAks | usageEnvoyProxyConfigAks | usageGatewayClassAks
  | envoyGatewayRelease => g.k8gb || g.argocd
  | envoyProxyConfig | gatewayClass => (g.k8gb || g.argocd) && g.gatewayReady
  | usageK8gbAks | usageK8gbCorednsAks | usageK8gbIpRelease | k8gbIp | k8gbRelease
  | k8gbCorednsObserve => g.k8gb
  | usageK8gbIpRoleRelease | k8gbIpRole => g.k8gb && g.k8gbRole
  | usageArgocdAks | usageArgocdIssuerAks | usageArgocdCertAks | usageArgocdGatewayAks
  | usageArgocdHttprouteAks | usageArgocdAppAks | argocdRelease => g.argocd
  | argocdGateway | argocdHttproute => g.argocd && g.gatewayReady
  | argocdIssuer | argocdCert => g.argocd && g.certmanagerReady
  | argocdApp => g.argocd && g.argocdDeployed
  | backupStorageAccount | backupContainer | backupConfig | backupRbac
  | backupRbacBinding => g.backup
  | backupSchedule => g.backup && g.schedule
  | backupIdentity | backupFederation | backupSa
  | controllerRestart => g.backup && g.workloadIdentity
  | backupRole => g.backup && g.workloadIdentity && g.backupRole
  | backupRestore => g.backup && g.workloadIdentity && g.restore
  | uxpLicenseSecret | uxpLicense => g.licenseClaimed
  | vpaRelease => g.vpa && g.featuresLicensed
  | knativeOperatorRelease => g.knative && g.featuresLicensed
  | knativeServingNs | knativeServingCr => g.knative && g.featuresLicensed && g.knativeDepsReady
  | upboundRuntimeConfig => (g.vpa && g.vpaReady) || (g.knative && g.knativeFullyReady)

/-- The resource the component is written as, before the orphan-policy sweep. -/
def resource (now : String) (req : Request) : Component → Resource
  | network => networkXr req.idVal req.location req.providerConfig req.mgmtPolicies
      req.networkParam (req.config now)
  | aks => aksXr req.idVal req.location req.providerConfig req.version req.nodes
      req.mgmtPolicies (req.config now)
  | uxpRelease => AzureCtp.uxpRelease req.idVal req.uxpVersion req.uxpDeployed req.mgrArgs
      (req.config now)
  | usageReleaseAks => AzureCtp.usageReleaseAks req.idVal (req.config now)
  | usageAksNetwork => AzureCtp.usageAksNetwork req.idVal (req.config now)
  | usageEnvoyGatewayAks =>
      (emitAksUsage req.idVal "usage-envoy-gateway-aks"
        (usageByRelease (req.idVal ++ "-envoy-gateway"))
        "Envoy Gateway Release must finish uninstalling before the AKS cluster is deleted"
        (req.config now)).2
  | usageEnvoyProxyConfigAks =>
      (envoyGatewayObjectUsage req.idVal "envoy-proxy-config" (req.config now)).2
  | usageGatewayClassAks =>
      (envoyGatewayObjectUsage req.idVal "gateway-class" (req.config now)).2
  | usageK8gbAks =>
      (emitAksUsage req.idVal "usage-k8gb-aks" (usageByRelease (req.idVal ++ "-k8gb"))
        "k8gb Release must finish uninstalling before the AKS cluster is deleted"
        (req.config now)).2
  | usageK8gbCorednsAks =>
      (emitAksUsage req.idVal "usage-k8gb-coredns-aks"
        (usageByObject (req.idVal ++ "-k8gb-coredns"))
        "k8gb CoreDNS observe Object must be removed before the AKS cluster is deleted"
        (req.config now)).2
  | usageK8gbIpRelease => usageK8gbIp req.idVal (req.config now)
  | usageK8gbIpRoleRelease => usageK8gbIpRole req.idVal (req.config now)
  | usageArgocdAks =>
      (emitAksUsage req.idVal "usage-argocd-aks" (usageByRelease (req.idVal ++ "-argocd"))
        "ArgoCD Release must finish uninstalling before the AKS cluster is deleted"
        (req.config now)).2
  | usageArgocdIssuerAks => (argocdObjectUsage req.idVal "argocd-issuer" (req.config now)).2
  | usageArgocdCertAks => (argocdObjectUsage req.idVal "argocd-cert" (req.config now)).2
  | usageArgocdGatewayAks => (argocdObjectUsage req.idVal "argocd-gateway" (req.config now)).2
  | usageArgocdHttprouteAks =>
      (argocdObjectUsage req.idVal "argocd-httproute" (req.config now)).2
  | usageArgocdAppAks => (argocdObjectUsage req.idVal "argocd-app" (req.config now)).2
  | certmanagerRelease =>
      AzureCtp.certmanagerRelease req.idVal req.certmanagerReady (req.config now)
  | envoyGatewayRelease =>
      AzureCtp.envoyGatewayRelease req.idVal req.gatewayReady (req.config now)
  | envoyProxyConfig => envoyProxy req.idVal (req.config now)
  | gatewayClass => AzureCtp.gatewayClass req.idVal (req.config now)
  | k8gbIp => k8gbPublicIp req.idVal req.location req.providerConfig (req.config now)
  | k8gbIpRole => AzureCtp.k8gbIpRole req.idVal req.providerConfig req.k8gbPublicIpId
      req.k8gbClusterPrincipalId (req.config now)
  | k8gbRelease => AzureCtp.k8gbRelease req.idVal
      (k8gbValues req.idVal req.k8gbGeoTag req.k8gbExtGeoTags
        ((req.k8gb.getD {}).dnsZone.getD "") ((req.k8gb.getD {}).parentZone.getD ""))
      req.k8gbDeployed (req.config now)
  | k8gbCorednsObserve => corednsObserve req.idVal (req.config now)
  | argocdRelease => AzureCtp.argocdRelease req.idVal req.argocdDeployed (req.config now)
  | argocdGateway => AzureCtp.argocdGateway req.idVal
      ((req.argocd.getD {}).hostname.getD "") (req.config now)
  | argocdHttproute => AzureCtp.argocdHttproute req.idVal
      ((req.argocd.getD {}).hostname.getD "") (req.config now)
  | argocdIssuer => AzureCtp.argocdIssuer req.idVal (req.config now)
  | argocdCert => AzureCtp.argocdCert req.idVal
      ((req.argocd.getD {}).hostname.getD "") (req.config now)
  | argocdApp => AzureCtp.argocdApp req.idVal ((req.argocd.getD {}).url.getD "")
      (req.config now)
  | backupStorageAccount => storageAcct req.idVal req.bucketRegion req.providerConfig
      req.storageAccount (req.config now)
  | backupContainer => AzureCtp.backupContainer req.idVal req.providerConfig
      req.storageAccount req.containerName (req.config now)
  | backupConfig => AzureCtp.backupConfig req.idVal req.storageAccount req.containerName
      (req.config now)
  | backupRbac => AzureCtp.backupRbac req.idVal (req.config now)
  | backupRbacBinding => AzureCtp.backupRbacBinding req.idVal (req.config now)
  | backupSchedule => AzureCtp.backupSchedule req.idVal (req.backup.schedule.getD "")
      (req.config now)
  | backupIdentity => AzureCtp.backupIdentity req.idVal req.location req.providerConfig
      (req.config now)
  | backupFederation => AzureCtp.backupFederation req.idVal req.providerConfig
      req.oidcIssuerUrl (req.config now)
  | backupRole => AzureCtp.backupRole req.idVal req.providerConfig req.principalId
      req.storageAccountId (req.config now)
  | backupSa => AzureCtp.backupSa req.idVal req.clientId (req.config now)
  | controllerRestart => AzureCtp.controllerRestart req.idVal (req.config now)
  | backupRestore =>
      let source := restoreSource req.installFrom
      AzureCtp.backupRestore req.idVal source.1 source.2.1 source.2.2 (req.config now)
  | uxpLicenseSecret => licenseSecret req.idVal (req.licenseClaim.getD {}) (req.config now)
  | uxpLicense => licenseCr req.idVal (req.licenseClaim.getD {}) (req.config now)
  | vpaRelease => AzureCtp.vpaRelease req.idVal (req.config now)
  | knativeOperatorRelease =>
      AzureCtp.knativeOperatorRelease req.idVal req.knativeOpReady (req.config now)
  | knativeServingNs => AzureCtp.knativeServingNs req.idVal (req.config now)
  | knativeServingCr => AzureCtp.knativeServingCr req.idVal (req.config now)
  | upboundRuntimeConfig => runtimeConfig req.idVal
      (runtimeCapabilities req.vpa req.knative req.vpaReady req.knativeFullyReady)
      (req.config now)

/-! ### The components by module -/

def base : List Component := [network, aks, uxpRelease]

def usages : List Component :=
  [usageReleaseAks, usageAksNetwork, usageEnvoyGatewayAks, usageEnvoyProxyConfigAks,
    usageGatewayClassAks, usageK8gbAks, usageK8gbCorednsAks, usageK8gbIpRelease,
    usageK8gbIpRoleRelease, usageArgocdAks, usageArgocdIssuerAks, usageArgocdCertAks,
    usageArgocdGatewayAks, usageArgocdHttprouteAks, usageArgocdAppAks]

def gatewayComponents : List Component := [envoyGatewayRelease, envoyProxyConfig, gatewayClass]

def k8gbComponents : List Component := [k8gbIp, k8gbIpRole, k8gbRelease, k8gbCorednsObserve]

def argocdComponents : List Component :=
  [argocdRelease, argocdGateway, argocdHttproute, argocdIssuer, argocdCert, argocdApp]

def backupComponents : List Component :=
  [backupStorageAccount, backupContainer, backupConfig, backupRbac, backupRbacBinding,
    backupSchedule]

def workloadIdentityComponents : List Component :=
  [backupIdentity, backupFederation, backupRole, backupSa, controllerRestart, backupRestore]

def knativeComponents : List Component :=
  [knativeOperatorRelease, knativeServingNs, knativeServingCr]

/-- All components, in the order they are written. -/
def all : List Component :=
  base ++ usages ++ [certmanagerRelease] ++ gatewayComponents ++ k8gbComponents ++
    argocdComponents ++ backupComponents ++ workloadIdentityComponents ++
    [uxpLicenseSecret, uxpLicense] ++ [vpaRelease] ++ knativeComponents ++
    [upboundRuntimeConfig]

theorem mem_all (c : Component) : c ∈ all := by
  cases c <;> decide

theorem names_nodup : (all.map name).Nodup := by decide

theorem name_injective : Function.Injective name := by
  intro c d hname
  exact List.inj_on_of_nodup_map names_nodup (mem_all c) (mem_all d) hname

/-- The write of a component. -/
def write (now : String) (req : Request) (c : Component) : Write :=
  ⟨c.name, c.resource now req⟩

/-- The writes of those listed components whose gate is open. -/
def gated (now : String) (req : Request) (cs : List Component) : List Write :=
  (cs.filter (gate req.gates)).map (write now req)

theorem gated_append (now : String) (req : Request) (cs ds : List Component) :
    gated now req (cs ++ ds) = gated now req cs ++ gated now req ds := by
  simp [gated]

/-! ### Each module writes its gated components -/

section Modules

variable (now : String) (req : Request)

theorem baseWrites_eq :
    addNetworkResources req.idVal req.location req.providerConfig req.mgmtPolicies
        req.networkParam (req.config now) ++
      addAksResources req.idVal req.location req.providerConfig req.version req.nodes
        req.mgmtPolicies (req.config now) ++
      addUxpRelease req.idVal req.uxpVersion req.uxpDeployed req.mgrArgs (req.config now) =
    gated now req base := rfl

theorem usageWrites_eq :
    addUsageResources req.idVal (req.config now) req.k8gbEnabled req.argocdEnabled
      req.k8gbRoleEmitted = gated now req usages := by
  unfold addUsageResources gated usages
  cases hk : req.k8gbEnabled <;> cases ha : req.argocdEnabled <;>
    cases hr : req.k8gbRoleEmitted <;>
    simp [List.filter_cons, gate, Request.gates, write, name, resource, emitAksUsage,
      envoyGatewayObjectUsage, argocdObjectUsage, hk, ha, hr]

theorem certmanagerWrites_eq :
    addCertmanagerResources req.idVal req.certmanagerReady (req.config now) =
      gated now req [certmanagerRelease] := rfl

theorem gatewayWrites_eq : req.gatewayWrites now = gated now req gatewayComponents := by
  unfold Request.gatewayWrites addGatewayResources gated gatewayComponents
  cases hk : req.k8gbEnabled <;> cases ha : req.argocdEnabled <;>
    cases hg : req.gatewayReady <;>
    simp [gate, Request.gates, write, name, resource, hk, ha, hg]

theorem k8gbWrites_eq : req.k8gbWrites now = gated now req k8gbComponents := by
  have hrole : (req.k8gbPublicIpId ≠ "" ∧ req.k8gbClusterPrincipalId ≠ "") ↔
      req.k8gbRoleEmitted = true := by
    simp [Request.k8gbRoleEmitted]
  unfold Request.k8gbWrites addK8gbResources gated k8gbComponents
  simp only [hrole]
  cases hk : req.k8gbEnabled <;> cases hr : req.k8gbRoleEmitted <;>
    simp [List.filter_cons, gate, Request.gates, write, name, resource, hk, hr]

theorem argocdWrites_eq : req.argocdWrites now = gated now req argocdComponents := by
  unfold Request.argocdWrites addArgocdResources gated argocdComponents
  cases ha : req.argocdEnabled <;> cases hg : req.gatewayReady <;>
    cases hc : req.certmanagerReady <;> cases hd : req.argocdDeployed <;>
    simp [List.filter_cons, gate, Request.gates, write, name, resource, ha, hg, hc, hd]

theorem backupWrites_eq : req.backupWrites now = gated now req backupComponents := by
  unfold Request.backupWrites addBackupResources gated backupComponents
  cases hb : req.backupEnabled <;> by_cases hs : req.backup.schedule.getD "" = "" <;>
    simp [List.filter_cons, gate, Request.gates, write, name, resource, hb, hs]

theorem workloadIdentityWrites_eq :
    req.workloadIdentityWrites now = gated now req workloadIdentityComponents := by
  unfold Request.workloadIdentityWrites addWorkloadIdentityResources gated
    workloadIdentityComponents
  rw [Bool.and_assoc]
  -- issuer and deployment only matter together
  cases hb : req.backupEnabled <;>
    cases hw : (req.oidcIssuerUrl != "" && req.uxpDeployed) <;>
    by_cases hp : req.principalId = "" <;> by_cases hi : req.storageAccountId = "" <;>
    cases hr : restorable req.installFrom <;>
    simp [gate, Request.gates, write, name, resource, hb, hw, hp, hi, hr]

theorem licenseWrites_eq :
    req.licenseWrites now = gated now req [uxpLicenseSecret, uxpLicense] := by
  unfold Request.licenseWrites addLicenseResources gated
  cases hl : req.licenseClaim <;>
    simp [List.filter_cons, gate, Request.gates, write, name, resource, hl]

theorem vpaWrites_eq : req.vpaWrites now = gated now req [vpaRelease] := by
  unfold Request.vpaWrites addVpaResources gated
  cases hv : req.vpaEnabled <;> cases hf : req.featuresLicensed <;>
    simp [gate, Request.gates, write, name, resource, hv, hf]

theorem knativeWrites_eq : req.knativeWrites now = gated now req knativeComponents := by
  unfold Request.knativeWrites addKnativeResources gated knativeComponents
  cases hk : req.knativeEnabled <;> cases hf : req.featuresLicensed <;>
    cases hd : req.knativeDepsReady <;>
    simp [gate, Request.gates, write, name, resource, hk, hf, hd]

/-- The runtime config's own emptiness check repeats its gate. -/
theorem runtimeConfigWrites_eq :
    req.runtimeConfigWrites now = gated now req [upboundRuntimeConfig] := by
  have hvpa : req.vpaEnabled = req.vpa.any (·.enabled == some "yes") := rfl
  have hknative : req.knativeEnabled = req.knative.any (·.enabled == some "yes") := rfl
  unfold Request.runtimeConfigWrites addRuntimeConfig gated runtimeCapabilities
  cases hv : req.vpaEnabled <;> cases hr : req.vpaReady <;>
    cases hk : req.knativeEnabled <;> cases hf : req.knativeFullyReady <;>
    simp [gate, Request.gates, write, name, resource, runtimeCapabilities, ← hvpa, ← hknative,
      hv, hr, hk, hf]

/-- A reconcile writes exactly the components whose gate is open. -/
theorem writes_eq : req.writes now = gated now req all := by
  simp only [Request.writes, all, gated_append, usageWrites_eq, certmanagerWrites_eq,
    gatewayWrites_eq, k8gbWrites_eq, argocdWrites_eq, backupWrites_eq,
    workloadIdentityWrites_eq, licenseWrites_eq, vpaWrites_eq, knativeWrites_eq,
    runtimeConfigWrites_eq, baseWrites_eq]

theorem writes_names :
    (req.writes now).map Sigma.fst = (all.filter (gate req.gates)).map name := by
  rw [writes_eq, gated, List.map_map]
  rfl

theorem writes_nodup : ((req.writes now).map Sigma.fst).Nodup := by
  rw [writes_names]
  exact names_nodup.sublist (List.filter_sublist.map name)

theorem mem_writes_iff {n : String} {r : Resource} :
    (⟨n, r⟩ : Write) ∈ req.writes now ↔
      ∃ c : Component, c.gate req.gates = true ∧ c.name = n ∧ c.resource now req = r := by
  rw [writes_eq, gated, List.mem_map]
  constructor
  · rintro ⟨c, hc, heq⟩
    cases heq
    exact ⟨c, (List.mem_filter.mp hc).2, rfl, rfl⟩
  · rintro ⟨c, hgate, rfl, rfl⟩
    exact ⟨c, List.mem_filter.mpr ⟨mem_all c, hgate⟩, rfl⟩

end Modules

/-- The component as it stands in the response, after the orphan-policy sweep. -/
def composed (now : String) (req : Request) (c : Component) : Resource :=
  orphanPolicy req.mgmtPolicies (c.resource now req)

theorem kind_composed {now : String} {req : Request} (c : Component) :
    (c.composed now req).kind = c.kind := by
  cases c <;> rfl

end Component

open Component

variable {now : String} {req : Request}

/-- Reading the response: a name is bound exactly to the swept resource of the gated
component it belongs to. -/
theorem lookup_reconcile_iff {n : String} {r : Resource} :
    (reconcile now req).resources.lookup n = some r ↔
      ∃ c : Component, c.gate req.gates = true ∧ c.name = n ∧ c.composed now req = r := by
  -- the response is the sweep over the map of writes, whose names are distinct
  change (mapValues _ (writeAll ∅ (req.writes now))).lookup n = some r ↔ _
  rw [lookup_mapValues, Option.map_eq_some_iff]
  simp only [lookup_writeAll_empty_iff (writes_nodup now req), mem_writes_iff]
  constructor
  · rintro ⟨_, ⟨c, hgate, hname, rfl⟩, rfl⟩
    exact ⟨c, hgate, hname, rfl⟩
  · rintro ⟨c, hgate, hname, rfl⟩
    exact ⟨_, ⟨c, hgate, hname, rfl⟩, rfl⟩

theorem lookup_reconcile_component (c : Component) {r : Resource} :
    (reconcile now req).resources.lookup c.name = some r ↔
      c.gate req.gates = true ∧ c.composed now req = r := by
  rw [lookup_reconcile_iff]
  constructor
  · rintro ⟨d, hgate, hname, hres⟩
    obtain rfl := name_injective hname
    exact ⟨hgate, hres⟩
  · rintro ⟨hgate, hres⟩
    exact ⟨c, hgate, rfl, hres⟩

/-- The composed names are the names of the gated components. -/
theorem mem_reconcile_iff {n : String} :
    n ∈ (reconcile now req).resources ↔
      ∃ c : Component, c.gate req.gates = true ∧ c.name = n := by
  rw [← AList.lookup_isSome, Option.isSome_iff_exists]
  simp only [lookup_reconcile_iff]
  constructor
  · rintro ⟨r, c, hgate, hname, -⟩
    exact ⟨c, hgate, hname⟩
  · rintro ⟨c, hgate, hname⟩
    exact ⟨_, c, hgate, hname, rfl⟩

theorem mem_reconcile_component (c : Component) :
    c.name ∈ (reconcile now req).resources ↔ c.gate req.gates = true := by
  rw [mem_reconcile_iff]
  constructor
  · rintro ⟨d, hgate, hname⟩
    exact name_injective hname ▸ hgate
  · exact fun hgate => ⟨c, hgate, rfl⟩

theorem lookup_component (c : Component) :
    (reconcile now req).resources.lookup c.name =
      if c.gate req.gates then some (c.composed now req) else none := by
  split_ifs with hgate
  · exact (lookup_reconcile_component c).mpr ⟨hgate, rfl⟩
  · rw [Option.eq_none_iff_forall_ne_some]
    exact fun r hr => hgate ((lookup_reconcile_component c).mp hr).1

/-- Two responses compared name by name are compared component by component. -/
theorem lookup_map_congr {α : Type*} {f : Resource → α} {now' : String} {req' : Request}
    {n : String} (hgate : ∀ c : Component, c.gate req.gates = c.gate req'.gates)
    (hcomposed : ∀ c : Component, c.name = n → f (c.composed now req) = f (c.composed now' req')) :
    ((reconcile now req).resources.lookup n).map f =
      ((reconcile now' req').resources.lookup n).map f := by
  by_cases hname : ∃ c : Component, c.name = n
  · obtain ⟨c, rfl⟩ := hname
    rw [lookup_component, lookup_component, hgate c]
    split_ifs
    · exact congrArg some (hcomposed c rfl)
    · rfl
  · -- a name of no component is composed in neither
    have hnone : ∀ now req, (reconcile now req).resources.lookup n = none := by
      intro now req
      rw [AList.lookup_eq_none, mem_reconcile_iff]
      exact fun ⟨c, _, hc⟩ => hname ⟨c, hc⟩
    rw [hnone, hnone]

/-- Two requests with the same open gates and the same resources behind them compose the
same. -/
theorem resources_congr {now' : String} {req' : Request}
    (hgate : ∀ c : Component, c.gate req.gates = c.gate req'.gates)
    (hresource : ∀ c : Component, c.gate req.gates = true →
      c.resource now req = c.resource now' req')
    (hpolicies : req.mgmtPolicies = req'.mgmtPolicies) :
    (reconcile now req).resources = (reconcile now' req').resources := by
  have hwrites : req.writes now = req'.writes now' := by
    have hfilter : all.filter (gate req'.gates) = all.filter (gate req.gates) :=
      List.filter_congr fun c _ => (hgate c).symm
    rw [writes_eq, writes_eq, gated, gated, hfilter]
    refine List.map_congr_left fun c hc => ?_
    rw [write, write, hresource c (List.mem_filter.mp hc).2]
  simp only [reconcile, hwrites, hpolicies]

/-- The sweep changes policies only. -/
theorem forProvider?_orphanPolicy (policies : List ManagementPolicy) (r : Resource)
    (path : List String) : (orphanPolicy policies r).forProvider? path = r.forProvider? path := by
  unfold orphanPolicy
  split
  · split_ifs
    · rfl
    · rename_i spec hspec _
      simp [Resource.forProvider?, Resource.managed?, hspec]
  · rfl

/-- Read below `spec.forProvider` of a composed resource. -/
def Response.at? (rsp : Response) (n : String) (path : List String) : Option Value :=
  (rsp.resources.lookup n).bind (·.forProvider? path)

theorem at?_reconcile (c : Component) (path : List String) :
    (reconcile now req).at? c.name path =
      if c.gate req.gates then (c.resource now req).forProvider? path else none := by
  rw [Response.at?, lookup_component]
  split_ifs
  · exact forProvider?_orphanPolicy req.mgmtPolicies (c.resource now req) path
  · rfl

/-- One reconcile of a run. -/
structure Round where
  now : String
  req : Request

/-! ### Observed control planes -/

/-- A status in which every field the function reads is ideal. -/
def idealStatus : ResourceStatus where
  conditions :=
    [{ type := some "Synced", status := some "True" },
      { type := some "Ready", status := some "True" }]
  atProvider :=
    { state := some "deployed"
      clientId := some "client"
      principalId := some "principal"
      id := some "/subscriptions/x/resourceGroups/cp-rg/providers/y"
      ipAddress := some "20.1.2.3"
      manifest := { conditions := [{ type := some "Ready", status := some "True" }] } }
  aks :=
    { oidcUrl := some "https://eastus.oic.example/cp"
      clusterName := some "cp"
      identityPrincipalId := some "principal" }

/-- The composed resources, each observed with the ideal status. -/
def observeIdeal (rsp : Response) : Observed :=
  mapValues (fun r => r.observedWith idealStatus) rsp.resources

theorem lookup_observeIdeal (rsp : Response) (n : String) :
    (observeIdeal rsp).lookup n =
      (rsp.resources.lookup n).map fun r => r.observedWith idealStatus :=
  lookup_mapValues _ rsp.resources n

/-- A control plane with backup, k8gb and Argo CD. -/
def equipped : ControlPlane where
  parameters :=
    { Parameters.required "cp" "eastus" { count := some 3 } with
      backup := some { enabled := some "yes", location := some "acct/backups" }
      k8gb := some
        { enabled := some "yes"
          dnsZone := some "gslb.example.com"
          parentZone := some "example.com" }
      argocd := some
        { enabled := some "yes"
          hostname := some "argocd.example.com"
          url := some "https://git.example.com/apps" } }

/-- Its request when these components are observed, each with the ideal status. -/
def equippedWith (observed : List Component) : Request where
  composite := equipped
  observed :=
    observed.foldr (fun c rest =>
      rest.insert c.name ((c.resource "2026-03-01T00:00:00Z" { composite := equipped }).observedWith
        idealStatus)) ∅

/-- The components whose status the gates of the others read. -/
def awaited : List Component :=
  [.aks, .uxpRelease, .certmanagerRelease, .envoyGatewayRelease, .k8gbIp, .argocdRelease,
    .backupStorageAccount, .backupIdentity]

end AzureCtp
