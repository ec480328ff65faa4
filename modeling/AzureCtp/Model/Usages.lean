import AzureCtp.Model.Infrastructure

/-!
# Deletion-order guards

The Usages of `usages.py`. A Usage protects the resource named by `of` from
deletion while the resource named by `by` exists.
-/

set_option autoImplicit false

namespace AzureCtp

/-- The common shape of the Usages. -/
def usage (idVal crName : String) (target : UsageOf) (user : UsageBy) (reason : String)
    (config : Config) : Resource :=
  stamp
    { apiVersion := "protection.crossplane.io/v1beta1"
      kind := "Usage"
      metadata :=
        { name := idVal ++ "-" ++ crName
          ns := config.ns
          annotations := [compositionResourceName crName] }
      spec := .usage
        { ofResource := target
          byResource := user
          reason := reason
          replayDeletion := true } }
    config false

/-- `of: AKS`. -/
def usageOfAks (idVal : String) (config : Config) : UsageOf :=
  { apiVersion := "azure.platform.upbound.io/v1alpha1"
    kind := "AKS"
    name := idVal
    ns := config.ns }

/-- `by` a Helm Release. -/
def usageByRelease (name : String) : UsageBy :=
  { apiVersion := "helm.m.crossplane.io/v1beta1", kind := "Release", name := name }

/-- `by` a provider-kubernetes Object. -/
def usageByObject (name : String) : UsageBy :=
  { apiVersion := "kubernetes.m.crossplane.io/v1alpha1", kind := "Object", name := name }

/-- `_emit_aks_usage`: an `of: AKS, by: <resource>` guard. -/
def emitAksUsage (idVal crName : String) (user : UsageBy) (reason : String) (config : Config) :
    Write :=
  ⟨crName, usage idVal crName (usageOfAks idVal config) user reason config⟩

/-- The guard of the AKS XR by an Envoy Gateway Object. -/
def envoyGatewayObjectUsage (idVal crName : String) (config : Config) : Write :=
  emitAksUsage idVal ("usage-" ++ crName ++ "-aks") (usageByObject (idVal ++ "-" ++ crName))
    ("Envoy Gateway " ++ crName ++ " Object must be removed before the AKS cluster is deleted")
    config

/-- The guard of the AKS XR by an ArgoCD Object. -/
def argocdObjectUsage (idVal crName : String) (config : Config) : Write :=
  emitAksUsage idVal ("usage-" ++ crName ++ "-aks") (usageByObject (idVal ++ "-" ++ crName))
    ("ArgoCD " ++ crName ++ " Object must be removed before the AKS cluster is deleted")
    config

def usageReleaseAks (idVal : String) (config : Config) : Resource :=
  usage idVal "usage-release-aks" (usageOfAks idVal config)
    (usageByRelease (idVal ++ "-uxp"))
    "UXP Helm Release must finish uninstalling before the AKS cluster is deleted" config

def usageAksNetwork (idVal : String) (config : Config) : Resource :=
  usage idVal "usage-aks-network"
    { apiVersion := "azure.platform.upbound.io/v1alpha1"
      kind := "Network"
      name := idVal
      ns := config.ns }
    { apiVersion := "azure.platform.upbound.io/v1alpha1", kind := "AKS", name := idVal }
    "AKS cluster must be fully deleted before the network is removed" config

def usageK8gbIp (idVal : String) (config : Config) : Resource :=
  usage idVal "usage-k8gb-ip-release"
    { apiVersion := "network.azure.m.upbound.io/v1beta1"
      kind := "PublicIP"
      name := idVal ++ "-k8gb-ip"
      ns := config.ns }
    (usageByRelease (idVal ++ "-k8gb"))
    "CoreDNS reserved Public IP must be released only after the k8gb Release (and its LB) is gone"
    config

def usageK8gbIpRole (idVal : String) (config : Config) : Resource :=
  usage idVal "usage-k8gb-ip-role-release"
    { apiVersion := "authorization.azure.m.upbound.io/v1beta1"
      kind := "RoleAssignment"
      name := idVal ++ "-k8gb-ip-role"
      ns := config.ns }
    (usageByRelease (idVal ++ "-k8gb"))
    ("CoreDNS Public IP RoleAssignment must be released only after the k8gb Release " ++
      "(and its LB) is gone")
    config

def addUsageResources (idVal : String) (config : Config)
    (k8gbEnabled argocdEnabled k8gbRoleEmitted : Bool) : List Write :=
  [⟨"usage-release-aks", usageReleaseAks idVal config⟩,
   ⟨"usage-aks-network", usageAksNetwork idVal config⟩] ++
  -- the gateway serves either add-on
  (if k8gbEnabled || argocdEnabled then
    [emitAksUsage idVal "usage-envoy-gateway-aks" (usageByRelease (idVal ++ "-envoy-gateway"))
      "Envoy Gateway Release must finish uninstalling before the AKS cluster is deleted" config,
     envoyGatewayObjectUsage idVal "envoy-proxy-config" config,
     envoyGatewayObjectUsage idVal "gateway-class" config]
  else []) ++
  (if k8gbEnabled then
    [emitAksUsage idVal "usage-k8gb-aks" (usageByRelease (idVal ++ "-k8gb"))
      "k8gb Release must finish uninstalling before the AKS cluster is deleted" config,
     emitAksUsage idVal "usage-k8gb-coredns-aks" (usageByObject (idVal ++ "-k8gb-coredns"))
      "k8gb CoreDNS observe Object must be removed before the AKS cluster is deleted" config,
     ⟨"usage-k8gb-ip-release", usageK8gbIp idVal config⟩] ++
    -- without the RoleAssignment this Usage would refer to nothing
    if k8gbRoleEmitted then
      [⟨"usage-k8gb-ip-role-release", usageK8gbIpRole idVal config⟩]
    else []
  else []) ++
  -- Objects that are not composed yet are guarded already
  if argocdEnabled then
    [emitAksUsage idVal "usage-argocd-aks" (usageByRelease (idVal ++ "-argocd"))
      "ArgoCD Release must finish uninstalling before the AKS cluster is deleted" config,
     argocdObjectUsage idVal "argocd-issuer" config,
     argocdObjectUsage idVal "argocd-cert" config,
     argocdObjectUsage idVal "argocd-gateway" config,
     argocdObjectUsage idVal "argocd-httproute" config,
     argocdObjectUsage idVal "argocd-app" config]
  else []

end AzureCtp
