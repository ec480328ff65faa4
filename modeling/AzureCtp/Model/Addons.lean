import AzureCtp.Model.Infrastructure

/-!
# Add-ons

The resources of `gateway.py`, `k8gb.py`, `argo.py` and `knative.py`.
-/

set_option autoImplicit false

namespace AzureCtp

open Document

/-- The provider-kubernetes Object for a child-cluster manifest (`_child_object`,
written alike in `gateway.py` and `argo.py`). -/
def childObject (idVal crName : String) (manifest : Value) (config : Config) : Resource :=
  { apiVersion := "kubernetes.m.crossplane.io/v1alpha1"
    kind := "Object"
    metadata :=
      { name := idVal ++ "-" ++ crName
        ns := config.ns
        annotations := [compositionResourceName crName] }
    spec := .managed
      { forProvider := .dict [("manifest", manifest)]
        providerConfigRef := { name := idVal, kind := "ProviderConfig" } } }

/-! ### gateway.py -/

def envoyGatewayRelease (idVal : String) (gatewayReady : Bool) (config : Config) : Resource :=
  stamp
    { apiVersion := "helm.m.crossplane.io/v1beta1"
      kind := "Release"
      metadata :=
        { name := idVal ++ "-envoy-gateway"
          ns := config.ns
          annotations := compositionResourceName "envoy-gateway-release" ::
            readyMark gatewayReady }
      spec := .managed
        { forProvider := .dict [
            ("chart", .dict [
              ("name", "gateway-helm"),
              ("repository", "oci://docker.io/envoyproxy"),
              ("version", "v1.8.2")]),
            ("namespace", "envoy-gateway-system"),
            ("skipCreateNamespace", false),
            ("wait", true)]
          providerConfigRef := { name := idVal, kind := "ProviderConfig" } } }
    config false

def envoyProxy (idVal : String) (config : Config) : Resource :=
  stamp
    (childObject idVal "envoy-proxy-config"
      (.dict [
        ("apiVersion", "gateway.envoyproxy.io/v1alpha1"),
        ("kind", "EnvoyProxy"),
        ("metadata", .dict [("name", "eg-proxy"), ("namespace", "envoy-gateway-system")]),
        ("spec", .dict [("provider", .dict [
          ("type", "Kubernetes"),
          ("kubernetes", .dict [("envoyService", .dict [("type", "LoadBalancer")])])])])])
      config)
    config false

def gatewayClass (idVal : String) (config : Config) : Resource :=
  stamp
    (childObject idVal "gateway-class"
      (.dict [
        ("apiVersion", "gateway.networking.k8s.io/v1"),
        ("kind", "GatewayClass"),
        ("metadata", .dict [("name", "eg")]),
        ("spec", .dict [
          ("controllerName", "gateway.envoyproxy.io/gatewayclass-controller"),
          ("parametersRef", .dict [
            ("group", "gateway.envoyproxy.io"),
            ("kind", "EnvoyProxy"),
            ("name", "eg-proxy"),
            ("namespace", "envoy-gateway-system")])])])
      config)
    config false

def addGatewayResources (idVal : String) (gatewayReady : Bool) (config : Config) : List Write :=
  [⟨"envoy-gateway-release", envoyGatewayRelease idVal gatewayReady config⟩] ++
  -- both need the Envoy Gateway CRDs, so they wait until the release is deployed
  if !gatewayReady then []
  else
    [⟨"envoy-proxy-config", envoyProxy idVal config⟩,
     ⟨"gateway-class", gatewayClass idVal config⟩]

/-! ### k8gb.py -/

def k8gbPublicIp (idVal location providerConfig : String) (config : Config) : Resource :=
  stamp
    { apiVersion := "network.azure.m.upbound.io/v1beta1"
      kind := "PublicIP"
      metadata :=
        { name := idVal ++ "-k8gb-ip"
          ns := config.ns
          annotations := [compositionResourceName "k8gb-ip"] }
      spec := .managed
        { forProvider := .dict [
            ("location", location),
            ("sku", "Standard"),
            ("allocationMethod", "Static"),
            ("resourceGroupNameSelector", networkIdSelector idVal)]
          providerConfigRef := { name := providerConfig, kind := "ProviderConfig" } } }
    config false

/-- `text.split(sep)[0]`: the part before the first occurrence of `sep`. -/
def beforeFirst (sep : List Char) : List Char → List Char
  | [] => []
  | c :: rest => if sep.isPrefixOf (c :: rest) then [] else c :: beforeFirst sep rest

def k8gbIpRole (idVal providerConfig publicIpId clusterPrincipalId : String) (config : Config) :
    Resource :=
  stamp
    { apiVersion := "authorization.azure.m.upbound.io/v1beta1"
      kind := "RoleAssignment"
      metadata :=
        { name := idVal ++ "-k8gb-ip-role"
          ns := config.ns
          annotations := [compositionResourceName "k8gb-ip-role"] }
      spec := .managed
        { forProvider := .dict [
            ("principalId", clusterPrincipalId),
            ("principalType", "ServicePrincipal"),
            ("skipServicePrincipalAadCheck", true),
            ("roleDefinitionName", "Network Contributor"),
            -- the grant covers the resource group of the IP
            ("scope", String.ofList (beforeFirst "/providers/".toList publicIpId.toList))]
          providerConfigRef := { name := providerConfig, kind := "ProviderConfig" } } }
    config false

/-- The Helm values of the k8gb Release. -/
def k8gbValues (idVal geoTag extGeoTags dnsZone parentZone : String) : Value :=
  .dict [
    ("k8gb", .dict [
      ("deployCrds", true),
      ("deployRbac", true),
      -- keeps the Gslb CRD group its consumers still use
      ("installLegacyCrds", true),
      ("clusterGeoTag", geoTag),
      ("extGslbClustersGeoTags", extGeoTags),
      ("dnsZones", .list [.dict [
        ("loadBalancedZone", dnsZone),
        ("parentZone", parentZone)]]),
      ("edgeDNSServers", .strings ["1.1.1.1"])]),
    -- the parent side writes the NS delegation
    ("extdns", .dict [("enabled", false)]),
    ("coredns", .dict [
      ("serviceType", "LoadBalancer"),
      ("servers", .list [.dict [
        ("zones", .list [.dict [("zone", "."), ("use_tcp", true)]]),
        ("port", .num 5353),
        ("servicePort", .num 53),
        ("plugins", .list [.dict [
          ("name", "prometheus"),
          ("parameters", "0.0.0.0:9153")]])]]),
      ("service", .dict [("annotations", .dict [
        ("service.beta.kubernetes.io/azure-pip-name", idVal ++ "-k8gb-ip"),
        ("service.beta.kubernetes.io/azure-load-balancer-resource-group", idVal ++ "-rg")])])])]

def k8gbRelease (idVal : String) (values : Value) (k8gbDeployed : Bool) (config : Config) :
    Resource :=
  stamp
    { apiVersion := "helm.m.crossplane.io/v1beta1"
      kind := "Release"
      metadata :=
        { name := idVal ++ "-k8gb"
          ns := config.ns
          -- the external name fixes the name of the CoreDNS Service
          annotations :=
            [compositionResourceName "k8gb-release", ("crossplane.io/external-name", "k8gb")] ++
              readyMark k8gbDeployed }
      spec := .managed
        { forProvider := .dict [
            ("chart", .dict [
              ("name", "k8gb"),
              ("repository", "https://www.k8gb.io"),
              ("version", "v0.20.0")]),
            ("namespace", "k8gb"),
            ("skipCreateNamespace", false),
            ("wait", true),
            ("waitTimeout", "8m"),
            ("values", values)]
          providerConfigRef := { name := idVal, kind := "ProviderConfig" } } }
    config false

/-- The observe-only Object on the child CoreDNS Service. -/
def corednsObserve (idVal : String) (config : Config) : Resource :=
  stamp
    { apiVersion := "kubernetes.m.crossplane.io/v1alpha1"
      kind := "Object"
      metadata :=
        { name := idVal ++ "-k8gb-coredns"
          ns := config.ns
          annotations := [compositionResourceName "k8gb-coredns-observe"] }
      spec := .managed
        { managementPolicies := some [.only .observe]
          forProvider := .dict [("manifest", .dict [
            ("apiVersion", "v1"),
            ("kind", "Service"),
            ("metadata", .dict [("name", "k8gb-coredns"), ("namespace", "k8gb")])])]
          providerConfigRef := { name := idVal, kind := "ProviderConfig" } } }
    config false

def addK8gbResources (idVal : String) (k8gbParam : K8gb) (geoTag extGeoTags : String)
    (k8gbDeployed : Bool) (location providerConfig publicIpId clusterPrincipalId : String)
    (config : Config) : List Write :=
  let dnsZone := k8gbParam.dnsZone.getD ""
  let parentZone := k8gbParam.parentZone.getD ""
  let values := k8gbValues idVal geoTag extGeoTags dnsZone parentZone
  [⟨"k8gb-ip", k8gbPublicIp idVal location providerConfig config⟩] ++
  -- the RoleAssignment has no references to resolve, so both ids must be observed
  (if publicIpId ≠ "" ∧ clusterPrincipalId ≠ "" then
    [⟨"k8gb-ip-role", k8gbIpRole idVal providerConfig publicIpId clusterPrincipalId config⟩]
  else []) ++
  [⟨"k8gb-release", k8gbRelease idVal values k8gbDeployed config⟩,
   ⟨"k8gb-coredns-observe", corednsObserve idVal config⟩]

/-! ### argo.py -/

def argocdRelease (idVal : String) (argocdDeployed : Bool) (config : Config) : Resource :=
  stamp
    { apiVersion := "helm.m.crossplane.io/v1beta1"
      kind := "Release"
      metadata :=
        { name := idVal ++ "-argocd"
          ns := config.ns
          annotations :=
            [compositionResourceName "argocd-release",
              ("crossplane.io/external-name", "argocd")] ++ readyMark argocdDeployed }
      spec := .managed
        { forProvider := .dict [
            ("chart", .dict [
              ("name", "argo-cd"),
              ("repository", "https://argoproj.github.io/argo-helm"),
              ("version", "10.1.4")]),
            ("namespace", "argocd"),
            ("skipCreateNamespace", false),
            ("wait", true),
            ("values", .dict [("configs", .dict [("params", .dict [
              ("server.insecure", true)])])])]
          providerConfigRef := { name := idVal, kind := "ProviderConfig" } } }
    config false

def argocdGateway (idVal hostname : String) (config : Config) : Resource :=
  stamp
    (childObject idVal "argocd-gateway"
      (.dict [
        ("apiVersion", "gateway.networking.k8s.io/v1"),
        ("kind", "Gateway"),
        ("metadata", .dict [("name", "argocd"), ("namespace", "argocd")]),
        ("spec", .dict [
          ("gatewayClassName", "eg"),
          ("listeners", .list [.dict [
            ("name", "https"),
            ("protocol", "HTTPS"),
            ("port", .num 443),
            ("hostname", hostname),
            ("allowedRoutes", .dict [("namespaces", .dict [("from", "Same")])]),
            ("tls", .dict [
              ("mode", "Terminate"),
              ("certificateRefs", .list [.dict [("name", "argocd-server-tls")]])])]])])])
      config)
    config false

def argocdHttproute (idVal hostname : String) (config : Config) : Resource :=
  stamp
    (childObject idVal "argocd-httproute"
      (.dict [
        ("apiVersion", "gateway.networking.k8s.io/v1"),
        ("kind", "HTTPRoute"),
        ("metadata", .dict [("name", "argocd-server"), ("namespace", "argocd")]),
        ("spec", .dict [
          ("parentRefs", .list [.dict [("name", "argocd"), ("sectionName", "https")]]),
          ("hostnames", .strings [hostname]),
          ("rules", .list [.dict [("backendRefs", .list [.dict [
            ("name", "argocd-server"),
            ("port", .num 80)]])]])])])
      config)
    config false

def argocdIssuer (idVal : String) (config : Config) : Resource :=
  stamp
    (childObject idVal "argocd-issuer"
      (.dict [
        ("apiVersion", "cert-manager.io/v1"),
        ("kind", "ClusterIssuer"),
        ("metadata", .dict [("name", "argocd-selfsigned")]),
        ("spec", .dict [("selfSigned", .dict [])])])
      config)
    config false

def argocdCert (idVal hostname : String) (config : Config) : Resource :=
  stamp
    (childObject idVal "argocd-cert"
      (.dict [
        ("apiVersion", "cert-manager.io/v1"),
        ("kind", "Certificate"),
        ("metadata", .dict [("name", "argocd-server-cert"), ("namespace", "argocd")]),
        ("spec", .dict [
          ("secretName", "argocd-server-tls"),
          ("dnsNames", .strings [hostname]),
          ("issuerRef", .dict [
            ("name", "argocd-selfsigned"),
            ("kind", "ClusterIssuer")])])])
      config)
    config false

def argocdApp (idVal url : String) (config : Config) : Resource :=
  stamp
    (childObject idVal "argocd-app"
      (.dict [
        ("apiVersion", "argoproj.io/v1alpha1"),
        ("kind", "Application"),
        ("metadata", .dict [("name", "root"), ("namespace", "argocd")]),
        ("spec", .dict [
          ("project", "default"),
          ("source", .dict [
            ("repoURL", url),
            ("path", "."),
            ("targetRevision", "HEAD")]),
          ("destination", .dict [
            ("server", "https://kubernetes.default.svc"),
            ("namespace", "default")]),
          ("syncPolicy", .dict [("automated", .dict [("prune", true), ("selfHeal", true)])])])])
      config)
    config false

def addArgocdResources (idVal : String) (argocdParam : Argocd)
    (argocdDeployed certmanagerReady gatewayReady : Bool) (config : Config) : List Write :=
  let hostname := argocdParam.hostname.getD ""
  let url := argocdParam.url.getD ""
  [⟨"argocd-release", argocdRelease idVal argocdDeployed config⟩] ++
  -- Gateway and HTTPRoute wait on the Envoy Gateway CRDs
  (if gatewayReady then
    [⟨"argocd-gateway", argocdGateway idVal hostname config⟩,
     ⟨"argocd-httproute", argocdHttproute idVal hostname config⟩]
  else []) ++
  -- Issuer and Certificate wait on the cert-manager CRDs
  (if certmanagerReady then
    [⟨"argocd-issuer", argocdIssuer idVal config⟩,
     ⟨"argocd-cert", argocdCert idVal hostname config⟩]
  else []) ++
  -- the root Application waits on the Argo CD CRDs
  if argocdDeployed then [⟨"argocd-app", argocdApp idVal url config⟩] else []

/-! ### knative.py -/

/-- The operator is installed once and left alone: no Update, no Delete. -/
def knativeOperatorPolicies (config : Config) : List ManagementPolicy :=
  if config.managementMode = "ObserveOnly" then [.only .observe]
  else [.only .create, .only .observe]

def knativeOperatorRelease (idVal : String) (knativeOpReady : Bool) (config : Config) :
    Resource :=
  stamp
    { apiVersion := "helm.m.crossplane.io/v1beta1"
      kind := "Release"
      metadata :=
        { name := idVal ++ "-knative-operator"
          ns := config.ns
          annotations := compositionResourceName "knative-operator-release" ::
            readyMark knativeOpReady }
      spec := .managed
        { managementPolicies := some (knativeOperatorPolicies config)
          forProvider := .dict [
            ("chart", .dict [
              ("name", "knative-operator"),
              ("repository", "https://knative.github.io/operator"),
              ("version", "v1.21.1")]),
            ("namespace", "default"),
            ("skipCreateNamespace", false),
            ("wait", true)]
          providerConfigRef := { name := idVal, kind := "ProviderConfig" } } }
    config false

def knativeServingNs (idVal : String) (config : Config) : Resource :=
  stamp
    { apiVersion := "kubernetes.m.crossplane.io/v1alpha1"
      kind := "Object"
      metadata :=
        { name := idVal ++ "-knative-serving-ns"
          ns := config.ns
          annotations := [compositionResourceName "knative-serving-ns"] }
      spec := .managed
        { forProvider := .dict [("manifest", .dict [
            ("apiVersion", "v1"),
            ("kind", "Namespace"),
            ("metadata", .dict [("name", "knative-serving")])])]
          providerConfigRef := { name := idVal, kind := "ProviderConfig" } } }
    config false

def knativeServingCr (idVal : String) (config : Config) : Resource :=
  stamp
    { apiVersion := "kubernetes.m.crossplane.io/v1alpha1"
      kind := "Object"
      metadata :=
        { name := idVal ++ "-knative-serving-cr"
          ns := config.ns
          annotations := [compositionResourceName "knative-serving-cr"] }
      spec := .managed
        { forProvider := .dict [("manifest", .dict [
            ("apiVersion", "operator.knative.dev/v1beta1"),
            ("kind", "KnativeServing"),
            ("metadata", .dict [("name", "knative-serving"), ("namespace", "knative-serving")]),
            ("spec", .dict [("config", .dict [("network", .dict [
              ("auto-tls", "Enabled"),
              ("http-protocol", "Redirected")])])])])]
          providerConfigRef := { name := idVal, kind := "ProviderConfig" } } }
    config false

/-- The `knative_serving_ready` and `observed` arguments of the source are not
read. -/
def addKnativeResources (idVal : String) (knativeOpReady knativeDepsReady
    _knativeServingReady : Bool) (_observed : Observed) (config : Config) : List Write :=
  [⟨"knative-operator-release", knativeOperatorRelease idVal knativeOpReady config⟩] ++
  -- the operator does not create the namespace its CR needs
  if knativeDepsReady then
    [⟨"knative-serving-ns", knativeServingNs idVal config⟩,
     ⟨"knative-serving-cr", knativeServingCr idVal config⟩]
  else []

end AzureCtp
