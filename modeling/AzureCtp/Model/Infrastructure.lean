import AzureCtp.Model.Prelude

/-!
# Infrastructure, UXP and licensed features

The resources of `network.py`, `aks.py`, `uxp.py`, `certmanager.py`,
`licensing.py`, `vpa.py` and `runtime_config.py`. Each resource dictionary is a
definition of its own. An `add_*` function of the source only assigns entries of
`rsp.desired.resources`, so it is modelled by the entries it writes, in order.
-/

set_option autoImplicit false

namespace AzureCtp

open Document

/-- The annotation every composed resource carries. -/
def compositionResourceName (name : String) : String × String :=
  ("crossplane.io/composition-resource-name", name)

/-- The readiness mark of the provider-helm stale-Ready workaround. -/
def readyMark (deployed : Bool) : List (String × String) :=
  if deployed then [("crossplane.io/ready", "True")] else []

/-- The selector that places an Azure resource in the network's resource group. -/
def networkIdSelector (idVal : String) : Value :=
  .dict [("matchLabels", .dict [("azure.platform.upbound.io/network-id", idVal)])]

/-! ### network.py -/

def networkXr (idVal location providerConfig : String) (mgmtPolicies : List ManagementPolicy)
    (networkParam : NetworkParam) (config : Config) : Resource :=
  stamp
    { apiVersion := "azure.platform.upbound.io/v1alpha1"
      kind := "Network"
      metadata :=
        { name := idVal
          ns := config.ns
          annotations := [compositionResourceName "network"] }
      spec := .network
        { id := idVal
          region := location
          addressRange := networkParam.addressRange.getD "10.224.0.0/16"
          generalSubnetRange := networkParam.generalSubnetRange.getD "10.224.0.0/24"
          managementPolicies := mgmtPolicies
          providerConfigName := providerConfig } }
    config false

def addNetworkResources (idVal location providerConfig : String)
    (mgmtPolicies : List ManagementPolicy) (networkParam : NetworkParam) (config : Config) :
    List Write :=
  [⟨"network", networkXr idVal location providerConfig mgmtPolicies networkParam config⟩]

/-! ### aks.py -/

def aksXr (idVal location providerConfig version : String) (nodes : Nodes)
    (mgmtPolicies : List ManagementPolicy) (config : Config) : Resource :=
  stamp
    { apiVersion := "azure.platform.upbound.io/v1alpha1"
      kind := "AKS"
      metadata :=
        { name := idVal
          ns := config.ns
          annotations := [compositionResourceName "aks"] }
      spec := .aks
        { id := idVal
          region := location
          version := version
          nodes :=
            { count := nodes.count.getD 2
              instanceType := nodes.vmSize.getD "Standard_D2s_v3"
              -- only forwarded when the list names a zone
              availabilityZones := nodes.availabilityZones.filter (· ≠ []) }
          managementPolicies := mgmtPolicies
          providerConfigName := providerConfig } }
    config false

def addAksResources (idVal location providerConfig version : String) (nodes : Nodes)
    (mgmtPolicies : List ManagementPolicy) (config : Config) : List Write :=
  [⟨"aks", aksXr idVal location providerConfig version nodes mgmtPolicies config⟩]

/-! ### uxp.py -/

/-- The Helm values of the UXP Release; `args` is only set when there are some. -/
def uxpValues (mgrArgs : List String) : Value :=
  .dict [("upbound", .dict [("manager", .dict (
    [("metering", .dict [("podSecurityContext", .dict [
      ("fsGroup", .num 65532),
      ("fsGroupChangePolicy", "OnRootMismatch")])])] ++
    -- an empty list leaves the chart's default
    if mgrArgs.isEmpty then [] else [("args", .strings mgrArgs)]))])]

def uxpRelease (idVal uxpVersion : String) (uxpDeployed : Bool) (mgrArgs : List String)
    (config : Config) : Resource :=
  stamp
    { apiVersion := "helm.m.crossplane.io/v1beta1"
      kind := "Release"
      metadata :=
        { name := idVal ++ "-uxp"
          ns := config.ns
          annotations := compositionResourceName "uxp-release" :: readyMark uxpDeployed }
      spec := .managed
        { forProvider := .dict [
            ("chart", .dict [
              ("name", "crossplane"),
              ("repository", "oci://xpkg.upbound.io/upbound"),
              ("version", uxpVersion)]),
            ("namespace", "crossplane-system"),
            ("skipCreateNamespace", false),
            ("wait", true),
            ("waitTimeout", "20m"),
            ("values", uxpValues mgrArgs)]
          providerConfigRef := { name := idVal, kind := "ProviderConfig" } } }
    config false

def addUxpRelease (idVal uxpVersion : String) (uxpDeployed : Bool) (mgrArgs : List String)
    (config : Config) : List Write :=
  [⟨"uxp-release", uxpRelease idVal uxpVersion uxpDeployed mgrArgs config⟩]

/-! ### certmanager.py -/

def certmanagerRelease (idVal : String) (certmanagerReady : Bool) (config : Config) : Resource :=
  stamp
    { apiVersion := "helm.m.crossplane.io/v1beta1"
      kind := "Release"
      metadata :=
        { name := idVal ++ "-certmanager"
          ns := config.ns
          annotations := compositionResourceName "certmanager-release" ::
            readyMark certmanagerReady }
      spec := .managed
        { forProvider := .dict [
            ("chart", .dict [
              ("name", "cert-manager"),
              ("repository", "https://charts.jetstack.io"),
              ("version", "v1.20.3")]),
            ("namespace", "cert-manager"),
            ("skipCreateNamespace", false),
            ("wait", true),
            ("set", .list [.dict [("name", "crds.enabled"), ("value", "true")]])]
          providerConfigRef := { name := idVal, kind := "ProviderConfig" } } }
    config false

def addCertmanagerResources (idVal : String) (certmanagerReady : Bool) (config : Config) :
    List Write :=
  [⟨"certmanager-release", certmanagerRelease idVal certmanagerReady config⟩]

/-! ### licensing.py -/

/-- The Object that copies the license from its Secret on the management cluster. -/
def licenseSecret (idVal : String) (licenseParam : License) (config : Config) : Resource :=
  let secretRef := licenseParam.secretRef.getD {}
  let licName := secretRef.name.getD ""
  let licNs := secretRef.ns.getD "default"
  stamp
    { apiVersion := "kubernetes.m.crossplane.io/v1alpha1"
      kind := "Object"
      metadata :=
        { name := idVal ++ "-uxp-license-secret"
          ns := config.ns
          annotations := [compositionResourceName "uxp-license-secret"] }
      spec := .managed
        { forProvider := .dict [("manifest", .dict [
            ("apiVersion", "v1"),
            ("kind", "Secret"),
            ("metadata", .dict [("name", licName), ("namespace", "crossplane-system")]),
            ("type", "Opaque"),
            ("data", .dict [])])]
          -- read back as the installed license by a later reconcile
          references := [
            { patchesFrom := some
                { apiVersion := "v1"
                  kind := "Secret"
                  name := some licName
                  ns := some licNs
                  fieldPath := some "data[\"license.json\"]" }
              toFieldPath := some "data[\"license.json\"]" }]
          providerConfigRef := { name := idVal, kind := "ProviderConfig" } } }
    config false

def licenseCr (idVal : String) (licenseParam : License) (config : Config) : Resource :=
  let licName := (licenseParam.secretRef.getD {}).name.getD ""
  stamp
    { apiVersion := "kubernetes.m.crossplane.io/v1alpha1"
      kind := "Object"
      metadata :=
        { name := idVal ++ "-uxp-license"
          ns := config.ns
          annotations := [compositionResourceName "uxp-license"] }
      spec := .managed
        { forProvider := .dict [("manifest", .dict [
            ("apiVersion", "licensing.upbound.io/v1alpha1"),
            ("kind", "License"),
            ("metadata", .dict [("name", "uxp")]),
            ("spec", .dict [("secretRef", .dict [
              ("name", licName),
              ("namespace", "crossplane-system")])])])]
          providerConfigRef := { name := idVal, kind := "ProviderConfig" } } }
    config false

def addLicenseResources (idVal : String) (licenseParam : License) (config : Config) :
    List Write :=
  [⟨"uxp-license-secret", licenseSecret idVal licenseParam config⟩,
   ⟨"uxp-license", licenseCr idVal licenseParam config⟩]

/-! ### vpa.py -/

/-- The VPA Release. It is the one Release without the readiness mark. -/
def vpaRelease (idVal : String) (config : Config) : Resource :=
  stamp
    { apiVersion := "helm.m.crossplane.io/v1beta1"
      kind := "Release"
      metadata :=
        { name := idVal ++ "-vpa"
          ns := config.ns
          annotations := [compositionResourceName "vpa-release"] }
      spec := .managed
        { forProvider := .dict [
            ("chart", .dict [
              ("name", "vpa"),
              ("repository", "https://charts.fairwinds.com/stable"),
              ("version", "4.10.1")]),
            ("namespace", "kube-system"),
            ("skipCreateNamespace", false),
            ("wait", true)]
          providerConfigRef := { name := idVal, kind := "ProviderConfig" } } }
    config false

/-- The `vpa` and `vpa_ready` arguments of the source are not read. -/
def addVpaResources (idVal : String) (_vpa : Option Vpa) (_vpaReady : Bool) (config : Config) :
    List Write :=
  [⟨"vpa-release", vpaRelease idVal config⟩]

/-! ### runtime_config.py -/

/-- The capabilities of the UpboundRuntimeConfig. -/
def runtimeCapabilities (vpa : Option Vpa) (knative : Option Knative)
    (vpaReady knativeReady : Bool) : List String :=
  let vpaCapabilities :=
    if vpa.any (·.enabled == some "yes") && vpaReady then ["ProviderVPA"] else []
  let knativeCapabilities :=
    if knative.any (·.enabled == some "yes") && knativeReady then
      ["FunctionKnativeRuntime"]
    else []
  vpaCapabilities ++ knativeCapabilities

def runtimeConfig (idVal : String) (capabilities : List String) (config : Config) : Resource :=
  stamp
    { apiVersion := "kubernetes.m.crossplane.io/v1alpha1"
      kind := "Object"
      metadata :=
        { name := idVal ++ "-upbound-runtime-config"
          ns := config.ns
          annotations := [compositionResourceName "upbound-runtime-config"] }
      spec := .managed
        { forProvider := .dict [("manifest", .dict [
            ("apiVersion", "pkg.upbound.io/v1beta1"),
            ("kind", "UpboundRuntimeConfig"),
            ("metadata", .dict [("name", "default")]),
            ("spec", .dict [("capabilities", .strings capabilities)])])]
          providerConfigRef := { name := idVal, kind := "ProviderConfig" } } }
    config false

def addRuntimeConfig (idVal : String) (vpa : Option Vpa) (knative : Option Knative)
    (vpaReady knativeReady : Bool) (config : Config) : List Write :=
  let capabilities := runtimeCapabilities vpa knative vpaReady knativeReady
  if capabilities.isEmpty then []
  else [⟨"upbound-runtime-config", runtimeConfig idVal capabilities config⟩]

end AzureCtp
