import AzureCtp.Model.Prelude

/-!
# The ControlPlane schema

What the API server does with `spec.parameters` before the function sees them:
`definition.yaml` gives defaults for omitted fields and then admits or rejects.
An object with defaults below it is filled in only where the object itself is given.
-/

set_option autoImplicit false

namespace AzureCtp

/-! ### Defaults -/

/-- A scalar default: an omitted field gets it. -/
def withDefault (value : Option String) (default : String) : Option String :=
  some (value.getD default)

def Nodes.defaulted (nodes : Nodes) : Nodes :=
  { nodes with vmSize := withDefault nodes.vmSize "Standard_D2s_v3" }

def NetworkParam.defaulted (network : NetworkParam) : NetworkParam where
  addressRange := withDefault network.addressRange "10.224.0.0/16"
  generalSubnetRange := withDefault network.generalSubnetRange "10.224.0.0/24"

def UxpParam.defaulted (uxp : UxpParam) : UxpParam where
  version := withDefault uxp.version "2.2.1-up.1"

def Backup.defaulted (backup : Backup) : Backup :=
  { backup with enabled := withDefault backup.enabled "no" }

def SecretRef.defaulted (ref : SecretRef) : SecretRef :=
  { ref with ns := withDefault ref.ns "default" }

def License.defaulted (license : License) : License where
  secretRef := license.secretRef.map SecretRef.defaulted

def Vpa.defaulted (vpa : Vpa) : Vpa :=
  { vpa with enabled := withDefault vpa.enabled "no" }

def Knative.defaulted (knative : Knative) : Knative where
  enabled := withDefault knative.enabled "no"

def K8gb.defaulted (k8gb : K8gb) : K8gb :=
  { k8gb with
    enabled := withDefault k8gb.enabled "no"
    strategy := withDefault k8gb.strategy "failover" }

def Argocd.defaulted (argocd : Argocd) : Argocd :=
  { argocd with enabled := withDefault argocd.enabled "no" }

/-- The parameters with the defaults of the schema filled in. -/
def Parameters.defaulted (params : Parameters) : Parameters where
  id := params.id
  location := params.location
  providerConfigName := withDefault params.providerConfigName "default"
  version := withDefault params.version "1.34"
  nodes := params.nodes.map Nodes.defaulted
  network := params.network.map NetworkParam.defaulted
  -- the one object that has a default of its own
  uxp := some (params.uxp.getD {}).defaulted
  backup := params.backup.map Backup.defaulted
  license := params.license.map License.defaulted
  providerVerticalPodAutoscaling := params.providerVerticalPodAutoscaling.map Vpa.defaulted
  knative := params.knative.map Knative.defaulted
  k8gb := params.k8gb.map K8gb.defaulted
  argocd := params.argocd.map Argocd.defaulted
  managementMode := withDefault params.managementMode "Full"

/-- Filling in the defaults a second time changes nothing. -/
theorem Parameters.defaulted_defaulted (params : Parameters) :
    params.defaulted.defaulted = params.defaulted := by
  have hsecret : SecretRef.defaulted ∘ SecretRef.defaulted = SecretRef.defaulted := rfl
  have hlicense : License.defaulted ∘ License.defaulted = License.defaulted := by
    funext license
    simp [License.defaulted, Option.map_map, hsecret]
  have hnodes : Nodes.defaulted ∘ Nodes.defaulted = Nodes.defaulted := rfl
  have hnetwork : NetworkParam.defaulted ∘ NetworkParam.defaulted = NetworkParam.defaulted := rfl
  have hbackup : Backup.defaulted ∘ Backup.defaulted = Backup.defaulted := rfl
  have hvpa : Vpa.defaulted ∘ Vpa.defaulted = Vpa.defaulted := rfl
  have hknative : Knative.defaulted ∘ Knative.defaulted = Knative.defaulted := rfl
  have hk8gb : K8gb.defaulted ∘ K8gb.defaulted = K8gb.defaulted := rfl
  have hargocd : Argocd.defaulted ∘ Argocd.defaulted = Argocd.defaulted := rfl
  simp [Parameters.defaulted, withDefault, UxpParam.defaulted, Option.map_map, hlicense, hnodes,
    hnetwork, hbackup, hvpa, hknative, hk8gb, hargocd]

/-! ### Validation -/

/-- `enum`: a given value is a listed one. -/
def oneOf (values : List String) (value : Option String) : Bool := value.all values.contains

/-- The enum of every feature switch. -/
def isSwitch (enabled : Option String) : Bool := oneOf ["yes", "no"] enabled

/-- The whole string matches `^[a-z0-9]+/[a-z0-9-]+$`. In the schema's regular
expressions `$` is the end of the text. -/
def matchesBlobPattern (location : String) : Bool :=
  let account := location.toList.takeWhile isAccountChar
  match location.toList.dropWhile isAccountChar with
  | '/' :: container => !account.isEmpty && !container.isEmpty && container.all isContainerChar
  | _ => false

def Nodes.valid (nodes : Nodes) : Bool := nodes.count.isSome && nodes.vmSize.isSome

def InstallFrom.valid (source : InstallFrom) : Bool :=
  source.location.any matchesBlobPattern && source.name.isSome

def Backup.valid (backup : Backup) : Bool :=
  isSwitch backup.enabled && backup.location.all matchesBlobPattern &&
    backup.installFrom.all InstallFrom.valid

def License.valid (license : License) : Bool :=
  license.secretRef.any fun ref => ref.name.isSome

/-- `zone.endsWith("." + parent)`. -/
def subdomain (zone parent : String) : Bool :=
  ("." ++ parent).toList.isSuffixOf zone.toList

/-- The validation rule of k8gb: with the feature on, both zones are given and the
load-balanced one lies under the parent zone. -/
def K8gb.zonesValid (k8gb : K8gb) : Bool :=
  k8gb.enabled != some "yes" ||
    (k8gb.dnsZone.any (· != "") && k8gb.parentZone.any (· != "") &&
      subdomain (k8gb.dnsZone.getD "") (k8gb.parentZone.getD ""))

def K8gb.valid (k8gb : K8gb) : Bool :=
  isSwitch k8gb.enabled && oneOf ["failover", "roundRobin", "geoip"] k8gb.strategy &&
    k8gb.zonesValid

/-- Validation of parameters that have their defaults. -/
def Parameters.valid (params : Parameters) : Bool :=
  params.id.any (fun id => id.length ≤ 24) && params.location.isSome &&
    oneOf ["1.35", "1.34", "1.33", "1.32"] params.version &&
    params.nodes.any Nodes.valid &&
    params.backup.all Backup.valid &&
    params.license.all License.valid &&
    params.providerVerticalPodAutoscaling.all (fun vpa => isSwitch vpa.enabled) &&
    params.knative.all (fun knative => isSwitch knative.enabled) &&
    params.k8gb.all K8gb.valid &&
    params.argocd.all (fun argocd => isSwitch argocd.enabled) &&
    oneOf ["Provision", "ObserveOnly", "Full", "Deprovision"] params.managementMode

/-- The checks of the schema, one by one. -/
structure Parameters.Checked (params : Parameters) : Prop where
  id : params.id.any (fun id => id.length ≤ 24) = true
  location : params.location.isSome = true
  version : oneOf ["1.35", "1.34", "1.33", "1.32"] params.version = true
  nodes : params.nodes.any Nodes.valid = true
  backup : params.backup.all Backup.valid = true
  license : params.license.all License.valid = true
  vpa : params.providerVerticalPodAutoscaling.all (fun vpa => isSwitch vpa.enabled) = true
  knative : params.knative.all (fun knative => isSwitch knative.enabled) = true
  k8gb : params.k8gb.all K8gb.valid = true
  argocd : params.argocd.all (fun argocd => isSwitch argocd.enabled) = true
  managementMode :
    oneOf ["Provision", "ObserveOnly", "Full", "Deprovision"] params.managementMode = true

theorem Parameters.checked_of_valid {params : Parameters} (hvalid : params.valid = true) :
    params.Checked := by
  simp only [Parameters.valid, Bool.and_eq_true] at hvalid
  obtain ⟨⟨⟨⟨⟨⟨⟨⟨⟨⟨hid, hlocation⟩, hversion⟩, hnodes⟩, hbackup⟩, hlicense⟩, hvpa⟩, hknative⟩,
    hk8gb⟩, hargocd⟩, hmode⟩ := hvalid
  exact ⟨hid, hlocation, hversion, hnodes, hbackup, hlicense, hvpa, hknative, hk8gb, hargocd,
    hmode⟩

/-- The XRD admits the parameters. -/
def Parameters.admitted (params : Parameters) : Bool := params.defaulted.valid

/-- The defaults pass the schema's own checks: required parameters alone are admitted. -/
theorem Parameters.admitted_required {id : String} (hid : id.length ≤ 24) (location : String)
    (nodes : Nodes) (hcount : nodes.count.isSome = true) :
    (Parameters.required id location nodes).admitted = true := by
  have hversion : oneOf ["1.35", "1.34", "1.33", "1.32"] (some "1.34") = true := by decide
  have hmode : oneOf ["Provision", "ObserveOnly", "Full", "Deprovision"] (some "Full") = true := by
    decide
  simp [admitted, valid, required, defaulted, withDefault, Nodes.valid, Nodes.defaulted, hid,
    hcount, hversion, hmode]

end AzureCtp
