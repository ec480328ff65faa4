import AzureCtp.Backup.Location
import AzureCtp.Bootstrap
import AzureCtp.Invariance.Features
import AzureCtp.Model.Definition
import AzureCtp.Releases

/-!
# Every gate open

Parameters that are admitted, have their defaults and turn every feature on, and an
observed state in which everything is reported. A request with both has every gate open,
but for the components that a parameter of their own asks for. Every bootstrap with a
license gets there.

## Main results

* `OpenRequest.gates_eq`: the gates of an open request
* `Bootstrap.allReported`: a bootstrap reaches a state in which all is reported
-/

set_option autoImplicit false

namespace AzureCtp

open Component

/-- The request with other parameters. -/
def Request.withParams (req : Request) (params : Parameters) : Request :=
  { req with composite := { req.composite with parameters := params } }

/-- Every Release is deployed, Knative Serving is ready, the license is applied, and all ids,
addresses and URLs are reported. -/
structure AllReported (observed : Observed) : Prop where
  releases : ∀ n ∈ releaseNames, isReleaseDeployed observed n = true
  serving : isKnativeServingReady observed = true
  license : isLicenseApplied observed = true
  oidcUrl : readStatus observed "aks" (fun status => status.aks.oidcUrl) ≠ ""
  clusterPrincipalId : getClusterPrincipalId observed ≠ ""
  clientId : getWorkloadIdentityClientId observed ≠ ""
  principalId : getWorkloadIdentityPrincipalId observed ≠ ""
  storageAccountId : getStorageAccountId observed ≠ ""
  publicIpId : extractK8gbPublicIpId observed ≠ ""
  publicIp : extractK8gbPublicIp observed ≠ ""

/-- The parameters have their defaults, are admitted, and turn every feature on. -/
structure Parameters.Full (params : Parameters) : Prop where
  defaulted : params.defaulted = params
  admitted : params.admitted = true
  enabled : ∀ f : OptionalFeature, f.enabled? params = some "yes"

/-- A request with full parameters for which every gate is open. -/
structure OpenRequest (req : Request) : Prop where
  full : req.params.Full
  reported : AllReported req.observed
  free : req.licenseConflict = ""

/-! ### What full parameters give -/

namespace Parameters.Full

variable {p : Parameters}

theorem checked (h : p.Full) : p.Checked := by
  have hadmitted := h.admitted
  rw [Parameters.admitted, h.defaulted] at hadmitted
  exact Parameters.checked_of_valid hadmitted

/-- A scalar with a default is given. -/
theorem given_of_default {value : Option String} {default : String}
    (heq : withDefault value default = value) : value.isSome = true := by
  rw [← heq]
  rfl

theorem providerConfigName (h : p.Full) : p.providerConfigName.isSome = true :=
  given_of_default (congrArg Parameters.providerConfigName h.defaulted)

theorem version (h : p.Full) : p.version.isSome = true :=
  given_of_default (congrArg Parameters.version h.defaulted)

theorem uxp (h : p.Full) : ∃ version, p.uxp = some ⟨some version⟩ := by
  have huxp := congrArg Parameters.uxp h.defaulted
  exact ⟨_, huxp.symm⟩

theorem id (h : p.Full) : p.id.isSome = true := by
  obtain ⟨id, hid, -⟩ := (Option.any_eq_true _ _).mp h.checked.id
  rw [hid]
  rfl

theorem location (h : p.Full) : p.location.isSome = true := h.checked.location

theorem nodes (h : p.Full) :
    ∃ nodes, p.nodes = some nodes ∧ nodes.count.isSome = true ∧ nodes.vmSize.isSome = true := by
  obtain ⟨nodes, hnodes, hgiven⟩ := (Option.any_eq_true _ _).mp h.checked.nodes
  exact ⟨nodes, hnodes, Bool.and_eq_true_iff.mp hgiven⟩

/-- A feature that is on is given. -/
theorem backup (h : p.Full) :
    ∃ backup, p.backup = some backup ∧ backup.enabled = some "yes" ∧ backup.valid = true := by
  obtain ⟨backup, hbackup, henabled⟩ := Option.bind_eq_some_iff.mp (h.enabled .backup)
  have hvalid := h.checked.backup
  rw [hbackup, Option.all_some] at hvalid
  exact ⟨backup, hbackup, henabled, hvalid⟩

/-- The locations of the backups match the pattern. -/
theorem locations (h : p.Full) : (p.backup.getD {}).location.all matchesBlobPattern = true ∧
    ∀ source, (p.backup.getD {}).installFrom = some source → source.valid = true := by
  obtain ⟨backup, hbackup, -, hvalid⟩ := h.backup
  simp only [Backup.valid, Bool.and_eq_true] at hvalid
  rw [hbackup, Option.getD_some]
  refine ⟨hvalid.1.2, fun source hsource => ?_⟩
  have hall := hvalid.2
  rwa [hsource, Option.all_some] at hall

theorem k8gb (h : p.Full) : ∃ k8gb, p.k8gb = some k8gb ∧ k8gb.enabled = some "yes" ∧
    k8gb.dnsZone.isSome = true ∧ k8gb.parentZone.isSome = true := by
  obtain ⟨k8gb, hk8gb, henabled⟩ := Option.bind_eq_some_iff.mp (h.enabled .k8gb)
  have hvalid := h.checked.k8gb
  simp only [hk8gb, Option.all_some, K8gb.valid, K8gb.zonesValid, henabled, bne_self_eq_false,
    Bool.false_or, Bool.and_eq_true] at hvalid
  obtain ⟨-, ⟨hdns, hparent⟩, -⟩ := hvalid
  obtain ⟨zone, hzone, -⟩ := (Option.any_eq_true _ _).mp hdns
  obtain ⟨parent, hgiven, -⟩ := (Option.any_eq_true _ _).mp hparent
  exact ⟨k8gb, hk8gb, henabled, by rw [hzone]; rfl, by rw [hgiven]; rfl⟩

theorem license (h : p.Full) {license : License} (hlicense : p.license = some license) :
    ∃ name ns, license = { secretRef := some { name := some name, ns := some ns } } := by
  have hvalid := h.checked.license
  have hdefaulted := congrArg Parameters.license h.defaulted
  simp only [Parameters.defaulted, hlicense, Option.map_some, Option.some_inj] at hdefaulted
  rw [hlicense, Option.all_some] at hvalid
  obtain ⟨ref, href, hname⟩ := (Option.any_eq_true _ _).mp hvalid
  obtain ⟨name, hname⟩ := Option.isSome_iff_exists.mp hname
  -- the namespace has a default
  rw [License.defaulted, href, Option.map_some] at hdefaulted
  refine ⟨name, ref.ns.getD "default", ?_⟩
  rw [← hdefaulted, SecretRef.defaulted, hname]
  rfl

theorem managementMode (h : p.Full) : ∃ mode, p.managementMode = some mode ∧
    mode ∈ ["Provision", "ObserveOnly", "Full", "Deprovision"] := by
  obtain ⟨mode, hmode⟩ := Option.isSome_iff_exists.mp
    (given_of_default (congrArg Parameters.managementMode h.defaulted))
  have hlisted := h.checked.managementMode
  rw [hmode, oneOf, Option.all_some, List.contains_iff_mem] at hlisted
  exact ⟨mode, hmode, hlisted⟩

end Parameters.Full

/-! ### Open requests -/

/-- All gates open, but for the parameters that decide on their own resources. -/
def openGates (schedule restore licenseClaimed : Bool) : Gates where
  k8gb := true
  argocd := true
  backup := true
  vpa := true
  knative := true
  k8gbRole := true
  gatewayReady := true
  certmanagerReady := true
  argocdDeployed := true
  schedule := schedule
  workloadIdentity := true
  backupRole := true
  restore := restore
  licenseClaimed := licenseClaimed
  featuresLicensed := true
  knativeDepsReady := true
  vpaReady := true
  knativeFullyReady := true

namespace OpenRequest

variable {req : Request}

theorem switch (h : OpenRequest req) (f : OptionalFeature) : f.switch req.gates = true := by
  rw [OptionalFeature.switch_gates, h.full.enabled f]
  rfl

theorem k8gbEnabled (h : OpenRequest req) : req.k8gbEnabled = true := h.switch .k8gb

theorem vpaEnabled (h : OpenRequest req) : req.vpaEnabled = true := h.switch .vpa

theorem knativeEnabled (h : OpenRequest req) : req.knativeEnabled = true := h.switch .knative

theorem backupEnabled (h : OpenRequest req) : req.backupEnabled = true := h.switch .backup

theorem deployed (h : OpenRequest req) {n : String} (hn : n ∈ releaseNames) :
    isReleaseDeployed req.observed n = true := h.reported.releases n hn

theorem featuresLicensed (h : OpenRequest req) : req.featuresLicensed = true := by
  rw [Request.featuresLicensed, Request.licenseApplied, h.reported.license, Bool.or_true]

theorem knativeFullyReady (h : OpenRequest req) :
    req.knativeDepsReady = true ∧ req.knativeFullyReady = true := by
  have hcertmanager : req.certmanagerReady = true := h.deployed (by decide)
  have hoperator : req.knativeOpReady = true := h.deployed (by decide)
  have hdeps : req.knativeDepsReady = true := Bool.and_eq_true_iff.mpr ⟨hcertmanager, hoperator⟩
  exact ⟨hdeps, Bool.and_eq_true_iff.mpr ⟨hdeps, h.reported.serving⟩⟩

theorem publicIpId (h : OpenRequest req) :
    req.k8gbPublicIpId = extractK8gbPublicIpId req.observed := if_pos h.k8gbEnabled

theorem clusterPrincipalId (h : OpenRequest req) :
    req.k8gbClusterPrincipalId = getClusterPrincipalId req.observed := if_pos h.k8gbEnabled

/-- The license that is requested is the one that is claimed. -/
theorem licenseClaim (h : OpenRequest req) : req.licenseClaim = req.licenseParam := by
  cases hlicense : req.licenseParam with
  | none => exact licenseClaim_of_not_truthy (by rw [hlicense]; decide)
  | some license =>
    obtain ⟨name, ns, rfl⟩ := h.full.license hlicense
    rw [licenseClaim_of_free (by rw [hlicense]; rfl) h.free, hlicense]

theorem backup_eq (h : OpenRequest req) : req.backup = req.params.backup.getD {} := by
  obtain ⟨backup, hbackup, -⟩ := h.full.backup
  rw [Request.backup, hbackup, Option.getD_some, Option.getD_some]

theorem gates_eq (h : OpenRequest req) :
    req.gates = openGates ((req.params.backup.getD {}).schedule.getD "" != "")
      (restorable (req.params.backup.getD {}).installFrom) req.params.license.isSome := by
  have hargocd : req.argocdEnabled = true := h.switch .argocd
  -- what observed state decides
  have hgateway : req.gatewayReady = true := h.deployed (by decide)
  have hcertmanager : req.certmanagerReady = true := h.deployed (by decide)
  have hdeployed : req.argocdDeployed = true := h.deployed (by decide)
  have huxp : req.uxpDeployed = true := h.deployed (by decide)
  have hvpa : req.vpaReady = true := h.deployed (by decide)
  have hissuer : (req.oidcIssuerUrl != "") = true := by
    rw [Sees.oidcIssuerUrl_eq h.backupEnabled]
    exact bne_iff_ne.mpr h.reported.oidcUrl
  have hrole : req.k8gbRoleEmitted = true := by
    rw [Request.k8gbRoleEmitted, h.publicIpId, h.clusterPrincipalId, Bool.and_eq_true]
    exact ⟨bne_iff_ne.mpr h.reported.publicIpId, bne_iff_ne.mpr h.reported.clusterPrincipalId⟩
  have hprincipal : (req.principalId != "") = true := bne_iff_ne.mpr h.reported.principalId
  have haccount : (req.storageAccountId != "") = true :=
    bne_iff_ne.mpr h.reported.storageAccountId
  simp only [Request.gates, openGates, h.k8gbEnabled, hargocd, h.backupEnabled, h.vpaEnabled,
    h.knativeEnabled, hrole, hgateway, hcertmanager, hdeployed, huxp, hissuer, hprincipal,
    haccount, h.featuresLicensed, h.knativeFullyReady.1, h.knativeFullyReady.2, hvpa,
    h.licenseClaim, h.backup_eq, Request.installFrom, Bool.and_self]
  rfl

end OpenRequest

/-! ### A state in which all is reported -/

/-- The Releases belong to features that are switched on. -/
theorem release_of_name : ∀ n ∈ releaseNames, ∃ c ∈ Component.all, c.name = n ∧
    c.feature ≠ .schedule ∧ c.feature ≠ .restore := by
  decide

/-- Full parameters with a license request every feature but a schedule and a restore. -/
theorem requested_of_full {xr : ControlPlane} (hfull : xr.parameters.Full)
    (hlicense : License.truthy xr.parameters.license = true) {f : Feature}
    (hschedule : f ≠ .schedule) (hrestore : f ≠ .restore) : f.requested xr = true := by
  have hon : ∀ g : OptionalFeature, g.switch xr.request.gates = true := by
    intro g
    rw [OptionalFeature.switch_gates, beq_iff_eq]
    exact hfull.enabled g
  cases f with
  | core => rfl
  | gateway => exact Bool.or_eq_true_iff.mpr (Or.inl (hon .k8gb))
  | k8gb => exact hon .k8gb
  | argocd => exact hon .argocd
  | backup => exact hon .backup
  | schedule => exact absurd rfl hschedule
  | restore => exact absurd rfl hrestore
  | license => exact hlicense
  | vpa => exact hon .vpa
  | knative => exact hon .knative
  | runtimeConfig => exact Bool.or_eq_true_iff.mpr (Or.inl (hon .vpa))

/-- A bootstrap with full parameters and a license reaches a state in which all is reported. -/
theorem Bootstrap.allReported {xr : ControlPlane} {now : ℕ → String} {req : ℕ → Request}
    (h : Bootstrap xr now req) (hfull : xr.parameters.Full)
    (hlicense : License.truthy xr.parameters.license = true) {k : ℕ} (hk : 3 ≤ k) :
    AllReported (req (k + 1)).observed := by
  have hsees := h.sees_wanted hk
  -- from then on every requested component is observed in its ideal status
  have hwanted : ∀ c : Component, c.feature ≠ .schedule → c.feature ≠ .restore → c ∈ wanted xr :=
    fun c hschedule hrestore => requested_of_full hfull hlicense hschedule hrestore
  have hread : ∀ (c : Component) (field : ResourceStatus → Option String),
      c.feature ≠ .schedule → c.feature ≠ .restore →
      (∀ o : ObservedResource, Ideal c.name o → (field o.status).getD "" ≠ "") →
      readStatus (req (k + 1)).observed c.name field ≠ "" :=
    fun c field hschedule hrestore hfield =>
      (hsees.readStatus_ne_iff c fun o _ => hfield o).mpr (hwanted c hschedule hrestore)
  constructor
  case releases =>
    intro n hn
    obtain ⟨c, -, rfl, hschedule, hrestore⟩ := release_of_name n hn
    have hkind := (kind_eq_release_iff c).mpr hn
    exact (hsees.deployed_iff c hkind).mpr (hwanted c hschedule hrestore)
  case serving =>
    exact hsees.servingReady_iff.mpr (hwanted .knativeServingCr (by decide) (by decide))
  case license => exact hsees.licenseApplied_iff.mpr (hwanted uxpLicense (by decide) (by decide))
  case oidcUrl => exact hread .aks _ (by decide) (by decide) fun o ho => (ho.aks rfl).1
  case clusterPrincipalId =>
    exact hread .aks _ (by decide) (by decide) fun o ho => (ho.aks rfl).2.2
  case clientId =>
    exact hread .backupIdentity _ (by decide) (by decide) fun o ho => (ho.identity rfl).1
  case principalId =>
    exact hread .backupIdentity _ (by decide) (by decide) fun o ho => (ho.identity rfl).2
  case storageAccountId =>
    exact hread .backupStorageAccount _ (by decide) (by decide) fun o ho => ho.account rfl
  case publicIpId => exact hread .k8gbIp _ (by decide) (by decide) fun o ho => (ho.ip rfl).1
  case publicIp => exact hread .k8gbIp _ (by decide) (by decide) fun o ho => (ho.ip rfl).2

end AzureCtp
