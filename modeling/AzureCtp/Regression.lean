import AzureCtp.License.Claim

/-!
# Status regressions

What a change of observed status alone does to the composed names. The gate of a
component is its spec switches and the readiness signals it waits for. Nothing
remembers that a signal was seen before: a component whose signal is lost leaves the
response, and Crossplane then deletes what it names.

## Main results

* `gate_eq`: a gate is switches and signals
* `status_regression`: what a status change keeps, and exactly what it drops
-/

set_option autoImplicit false

namespace AzureCtp

open Component

/-- The readiness signals read from observed status. -/
inductive Signal where
  | uxpDeployed
  | oidcIssuer
  | principalId
  | storageAccountId
  | gatewayDeployed
  | certmanagerDeployed
  | argocdDeployed
  | operatorDeployed
  | servingReady
  | vpaDeployed
  | licensed
  | k8gbIpId
  | clusterPrincipalId
  deriving DecidableEq, Repr

/-- Whether a request shows the signal. -/
def Request.signal (req : Request) : Signal → Bool
  | .uxpDeployed => req.uxpDeployed
  | .oidcIssuer => req.oidcIssuerUrl != ""
  | .principalId => req.principalId != ""
  | .storageAccountId => req.storageAccountId != ""
  | .gatewayDeployed => req.gatewayReady
  | .certmanagerDeployed => req.certmanagerReady
  | .argocdDeployed => req.argocdDeployed
  | .operatorDeployed => req.knativeOpReady
  | .servingReady => req.knativeServingReady
  | .vpaDeployed => req.vpaReady
  | .licensed => req.featuresLicensed
  | .k8gbIpId => req.k8gbPublicIpId != ""
  | .clusterPrincipalId => req.k8gbClusterPrincipalId != ""

namespace Component

/-- The signals a component waits for, all of them. -/
def waits : Component → List Signal
  | envoyProxyConfig | gatewayClass | argocdGateway | argocdHttproute => [.gatewayDeployed]
  | usageK8gbIpRoleRelease | k8gbIpRole => [.k8gbIpId, .clusterPrincipalId]
  | argocdIssuer | argocdCert => [.certmanagerDeployed]
  | argocdApp => [.argocdDeployed]
  | backupIdentity | backupFederation | backupSa | controllerRestart
  | backupRestore => [.oidcIssuer, .uxpDeployed]
  | backupRole => [.oidcIssuer, .uxpDeployed, .principalId, .storageAccountId]
  | vpaRelease | knativeOperatorRelease => [.licensed]
  | knativeServingNs | knativeServingCr => [.licensed, .certmanagerDeployed, .operatorDeployed]
  | _ => []

/-- Whether the signals let the component through. The runtime config needs the
signals of one enabled feature. -/
def ready (req : Request) : Component → Bool
  | upboundRuntimeConfig =>
      (req.vpaEnabled && req.signal .vpaDeployed) ||
        (req.knativeEnabled &&
          [.certmanagerDeployed, .operatorDeployed, .servingReady].all req.signal)
  | c => c.waits.all req.signal

theorem ready_eq {c : Component} (hc : c ≠ upboundRuntimeConfig) (req : Request) :
    c.ready req = c.waits.all req.signal := by
  cases c <;> first | rfl | exact absurd rfl hc

/-- Whether the spec switches the component on. -/
def enabled (req : Request) : Component → Bool
  | network | aks | uxpRelease | usageReleaseAks | usageAksNetwork | certmanagerRelease
  | upboundRuntimeConfig => true
  | usageEnvoyGatewayAks | usageEnvoyProxyConfigAks | usageGatewayClassAks
  | envoyGatewayRelease | envoyProxyConfig | gatewayClass =>
      req.k8gbEnabled || req.argocdEnabled
  | usageK8gbAks | usageK8gbCorednsAks | usageK8gbIpRelease | usageK8gbIpRoleRelease
  | k8gbIp | k8gbIpRole | k8gbRelease | k8gbCorednsObserve => req.k8gbEnabled
  | usageArgocdAks | usageArgocdIssuerAks | usageArgocdCertAks | usageArgocdGatewayAks
  | usageArgocdHttprouteAks | usageArgocdAppAks | argocdRelease | argocdGateway
  | argocdHttproute | argocdIssuer | argocdCert | argocdApp => req.argocdEnabled
  | backupStorageAccount | backupContainer | backupConfig | backupRbac | backupRbacBinding
  | backupIdentity | backupFederation | backupRole | backupSa
  | controllerRestart => req.backupEnabled
  | backupSchedule => req.backupEnabled && req.backup.schedule.getD "" != ""
  | backupRestore => req.backupEnabled && restorable req.installFrom
  | uxpLicenseSecret | uxpLicense => req.licenseClaim.isSome
  | vpaRelease => req.vpaEnabled
  | knativeOperatorRelease | knativeServingNs | knativeServingCr => req.knativeEnabled

/-- A gate is switches and signals. -/
theorem gate_eq (req : Request) (c : Component) :
    c.gate req.gates = (c.enabled req && c.ready req) := by
  cases c <;>
    simp [gate, enabled, ready, waits, Request.gates, Request.signal, Request.k8gbRoleEmitted,
      Request.knativeDepsReady, Request.knativeFullyReady, Bool.and_assoc, Bool.and_comm,
      Bool.and_left_comm]

end Component

variable {a b : Request}

/-! ### More signals, more components -/

/-- The switches are read from the parameters and the license claim. -/
theorem enabled_mono (hparams : a.params = b.params)
    (hclaim : a.licenseClaim.isSome = true → b.licenseClaim.isSome = true) {c : Component}
    (henabled : c.enabled a = true) : c.enabled b = true := by
  revert henabled
  cases c <;>
    simp only [Component.enabled, Request.k8gbEnabled, Request.argocdEnabled,
      Request.backupEnabled, Request.vpaEnabled, Request.knativeEnabled, Request.k8gb,
      Request.argocd, Request.backup, Request.vpa, Request.knative, Request.installFrom,
      hparams] <;>
    first | exact id | exact hclaim

/-- More signals let more components through. -/
theorem ready_mono (hparams : a.params = b.params)
    (hsignal : ∀ s, a.signal s = true → b.signal s = true) {c : Component}
    (hready : c.ready a = true) : c.ready b = true := by
  have hall : ∀ signals : List Signal, signals.all a.signal = true →
      signals.all b.signal = true := by
    intro signals hsignals
    rw [List.all_eq_true] at hsignals ⊢
    exact fun s hs => hsignal s (hsignals s hs)
  -- the runtime config waits for one of two groups of signals, the others for all
  by_cases hc : c = upboundRuntimeConfig
  · subst hc
    simp only [ready, Bool.or_eq_true, Bool.and_eq_true] at hready ⊢
    simp only [Request.vpaEnabled, Request.knativeEnabled, Request.vpa, Request.knative,
      ← hparams]
    exact hready.imp (And.imp_right (hsignal .vpaDeployed)) (And.imp_right (hall _))
  · rw [ready_eq hc] at hready ⊢
    exact hall c.waits hready

/-- More signals and no claim lost: nothing that was emitted is left out. -/
theorem emitted_mono {now now' : String} (hparams : a.params = b.params)
    (hclaim : a.licenseClaim.isSome = true → b.licenseClaim.isSome = true)
    (hsignal : ∀ s, a.signal s = true → b.signal s = true) {n : String}
    (hn : n ∈ (reconcile now a).resources) : n ∈ (reconcile now' b).resources := by
  obtain ⟨c, hgate, rfl⟩ := mem_reconcile_iff.mp hn
  rw [gate_eq, Bool.and_eq_true] at hgate
  rw [mem_reconcile_component, gate_eq, Bool.and_eq_true]
  exact ⟨enabled_mono hparams hclaim hgate.1, ready_mono hparams hsignal hgate.2⟩

/-! ### Requests that differ in observed status -/

/-- Two requests of one XR with one list of ControlPlanes, whose observed resources
differ in their status only. -/
structure SameButStatus (a b : Request) : Prop where
  composite : a.composite = b.composite
  peers : a.allControlPlanes = b.allControlPlanes
  observed : ∀ n, (a.observed.lookup n).map ObservedResource.toResource =
    (b.observed.lookup n).map ObservedResource.toResource

theorem SameButStatus.getInstalledLicense_congr (h : SameButStatus a b) :
    getInstalledLicense a.observed = getInstalledLicense b.observed := by
  rw [getInstalledLicense_eq, getInstalledLicense_eq, observedLicenseObject,
    observedLicenseObject, h.observed]

theorem SameButStatus.licenseClaim_eq (h : SameButStatus a b) :
    a.licenseClaim = b.licenseClaim :=
  licenseClaim_congr (congrArg (fun xr => xr.parameters.license) h.composite)
    (licenseConflict_congr h.composite h.peers) h.getInstalledLicense_congr

/-- A status change leaves the switches alone. -/
theorem SameButStatus.enabled_eq (h : SameButStatus a b) (c : Component) :
    c.enabled a = c.enabled b := by
  have hparams : a.params = b.params := congrArg ControlPlane.parameters h.composite
  have hclaim : a.licenseClaim.isSome = b.licenseClaim.isSome := by rw [h.licenseClaim_eq]
  exact Bool.eq_iff_iff.mpr ⟨enabled_mono hparams fun hsome => hclaim ▸ hsome,
    enabled_mono hparams.symm fun hsome => hclaim ▸ hsome⟩

/-- What the signals let through of an emitted component is what stays emitted. -/
theorem SameButStatus.emitted_iff {now now' : String} (h : SameButStatus a b) {c : Component}
    (hc : c.name ∈ (reconcile now a).resources) :
    c.name ∈ (reconcile now' b).resources ↔ c.ready b = true := by
  rw [mem_reconcile_component, gate_eq, Bool.and_eq_true] at hc ⊢
  rw [h.enabled_eq] at hc
  exact ⟨And.right, fun hready => ⟨hc.1, hready⟩⟩

/-- **Status regressions.** Between two requests that differ in observed status only,
a name emitted for the first is emitted for the second exactly when the readiness
signals of its component hold there; with no signal lost every name stays. -/
theorem status_regression {now now' : String} (h : SameButStatus a b) {n : String}
    (hn : n ∈ (reconcile now a).resources) :
    (∃ c : Component, c.name = n ∧
      (n ∈ (reconcile now' b).resources ↔ c.ready b = true)) ∧
    ((∀ s, a.signal s = true → b.signal s = true) → n ∈ (reconcile now' b).resources) := by
  obtain ⟨c, -, rfl⟩ := mem_reconcile_iff.mp hn
  have hparams : a.params = b.params := congrArg ControlPlane.parameters h.composite
  refine ⟨⟨c, rfl, h.emitted_iff hn⟩, fun hsignal => emitted_mono hparams ?_ hsignal hn⟩
  rw [h.licenseClaim_eq]
  exact id

/-- A control plane with Argo CD, its Release observed in the given state and its
app-of-apps observed. -/
def argocdIn (state : String) : Request where
  composite :=
    { parameters :=
        { Parameters.required "cp" "eastus" { count := some 3 } with
          argocd := some { enabled := some "yes", hostname := some "argocd.example.com" } } }
  observed :=
    ((∅ : Observed).insert "argocd-release"
      ((AzureCtp.argocdRelease "cp" true ⟨"2026-03-01T00:00:00Z", "default", "Full"⟩).observedWith
        { atProvider := { state := some state } })).insert "argocd-app"
      ((AzureCtp.argocdApp "cp" "" ⟨"2026-03-01T00:00:00Z", "default", "Full"⟩).observedWith {})

theorem argocdIn_sameButStatus (s t : String) : SameButStatus (argocdIn s) (argocdIn t) where
  composite := rfl
  peers := rfl
  observed n := by
    by_cases happ : n = "argocd-app"
    · subst happ
      rfl
    · by_cases hrelease : n = "argocd-release"
      · subst hrelease
        rfl
      · simp only [argocdIn, AList.lookup_insert_ne happ, AList.lookup_insert_ne hrelease]

theorem argocdIn_release (now state : String) :
    "argocd-release" ∈ (reconcile now (argocdIn state)).resources :=
  (mem_reconcile_component .argocdRelease).mpr (by rfl)

/-- The Argo CD Release waits for no signal: a pending upgrade keeps it. -/
theorem status_regression_release :
    "argocd-release" ∈
      (reconcile "2026-03-02T00:00:00Z" (argocdIn "pending-upgrade")).resources := by
  obtain ⟨⟨c, hname, hkept⟩, -⟩ :=
    status_regression (argocdIn_sameButStatus "deployed" "pending-upgrade")
      (argocdIn_release "2026-03-01T00:00:00Z" "deployed")
  obtain rfl : c = .argocdRelease := name_injective hname
  exact hkept.mpr (by decide)

/-- A pending upgrade of the Argo CD Release drops the live app-of-apps. -/
theorem pending_upgrade_drops_app :
    SameButStatus (argocdIn "deployed") (argocdIn "pending-upgrade") ∧
      "argocd-app" ∈ (reconcile "2026-03-01T00:00:00Z" (argocdIn "deployed")).resources ∧
      "argocd-app" ∈ (argocdIn "pending-upgrade").observed ∧
      "argocd-app" ∉ (reconcile "2026-03-02T00:00:00Z" (argocdIn "pending-upgrade")).resources :=
  ⟨argocdIn_sameButStatus "deployed" "pending-upgrade",
    (mem_reconcile_component .argocdApp).mpr (by decide), by decide,
    fun hmem => absurd ((mem_reconcile_component .argocdApp).mp hmem) (by decide)⟩

end AzureCtp
