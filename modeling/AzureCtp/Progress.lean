import AzureCtp.Features
import AzureCtp.Regression

/-!
# Progress never removes a resource

A request is at least as ready as another one of the same XR when every signal read from
the first is present in the second, possibly with another value. No gate uses a signal
in a negative position, and the installed license is only consulted where it keeps a
claim, so whatever was composed before stays composed.

## Main results

* `AtLeastAsReady.signal`: every readiness signal is kept
* `progress_keeps`: so is every composed name, manager argument and capability
-/

set_option autoImplicit false

namespace AzureCtp

/-- The Releases whose deployment the function reads. -/
def releaseNames : List String :=
  ["uxp-release", "vpa-release", "certmanager-release", "envoy-gateway-release", "k8gb-release",
    "argocd-release", "knative-operator-release"]

/-- Two requests of one XR with one list of ControlPlanes, the second at least as ready
as the first. -/
structure AtLeastAsReady (a b : Request) : Prop where
  composite : a.composite = b.composite
  peers : a.allControlPlanes = b.allControlPlanes
  releases : ∀ n ∈ releaseNames, isReleaseDeployed a.observed n = true →
    isReleaseDeployed b.observed n = true
  license : a.licenseApplied = true → b.licenseApplied = true
  serving : a.knativeServingReady = true → b.knativeServingReady = true
  installed : (getInstalledLicense a.observed).isSome = true →
    (getInstalledLicense b.observed).isSome = true
  oidcIssuerUrl : a.oidcIssuerUrl ≠ "" → b.oidcIssuerUrl ≠ ""
  clientId : a.clientId ≠ "" → b.clientId ≠ ""
  principalId : a.principalId ≠ "" → b.principalId ≠ ""
  clusterPrincipalId : a.k8gbClusterPrincipalId ≠ "" → b.k8gbClusterPrincipalId ≠ ""
  storageAccountId : a.storageAccountId ≠ "" → b.storageAccountId ≠ ""
  publicIpId : a.k8gbPublicIpId ≠ "" → b.k8gbPublicIpId ≠ ""
  publicIp : a.k8gbPublicIp ≠ "" → b.k8gbPublicIp ≠ ""

namespace AtLeastAsReady

variable {a b : Request}

theorem params_eq (h : AtLeastAsReady a b) : a.params = b.params :=
  congrArg ControlPlane.parameters h.composite

theorem featuresLicensed (h : AtLeastAsReady a b) (hlicensed : a.featuresLicensed = true) :
    b.featuresLicensed = true := by
  have hparam : a.licenseParam = b.licenseParam := congrArg Parameters.license h.params_eq
  rw [Request.featuresLicensed, Bool.or_eq_true] at hlicensed ⊢
  rw [← hparam]
  exact hlicensed.imp_right h.license

theorem knativeFullyReady (h : AtLeastAsReady a b) (hready : a.knativeFullyReady = true) :
    b.knativeFullyReady = true := by
  simp only [Request.knativeFullyReady, Request.knativeDepsReady, Bool.and_eq_true] at hready ⊢
  obtain ⟨⟨hcertmanager, hoperator⟩, hserving⟩ := hready
  exact ⟨⟨h.releases "certmanager-release" (by decide) hcertmanager,
    h.releases "knative-operator-release" (by decide) hoperator⟩, h.serving hserving⟩

/-- Every readiness signal is kept. -/
theorem signal (h : AtLeastAsReady a b) (s : Signal) (hs : a.signal s = true) :
    b.signal s = true := by
  cases s with
  | uxpDeployed => exact h.releases "uxp-release" (by decide) hs
  | oidcIssuer => exact bne_iff_ne.mpr (h.oidcIssuerUrl (bne_iff_ne.mp hs))
  | principalId => exact bne_iff_ne.mpr (h.principalId (bne_iff_ne.mp hs))
  | storageAccountId => exact bne_iff_ne.mpr (h.storageAccountId (bne_iff_ne.mp hs))
  | gatewayDeployed => exact h.releases "envoy-gateway-release" (by decide) hs
  | certmanagerDeployed => exact h.releases "certmanager-release" (by decide) hs
  | argocdDeployed => exact h.releases "argocd-release" (by decide) hs
  | operatorDeployed => exact h.releases "knative-operator-release" (by decide) hs
  | servingReady => exact h.serving hs
  | vpaDeployed => exact h.releases "vpa-release" (by decide) hs
  | licensed => exact h.featuresLicensed hs
  | k8gbIpId => exact bne_iff_ne.mpr (h.publicIpId (bne_iff_ne.mp hs))
  | clusterPrincipalId => exact bne_iff_ne.mpr (h.clusterPrincipalId (bne_iff_ne.mp hs))

/-- A license claim is kept: on a conflict the installed license still is there. -/
theorem licenseClaim (h : AtLeastAsReady a b) (hclaim : a.licenseClaim.isSome = true) :
    b.licenseClaim.isSome = true := by
  have hparam : a.licenseParam = b.licenseParam := congrArg Parameters.license h.params_eq
  have hsame : a.licenseConflict = b.licenseConflict :=
    licenseConflict_congr h.composite h.peers
  have htruthy := truthy_of_licenseClaim hclaim
  by_cases hconflict : a.licenseConflict = ""
  · rw [licenseClaim_of_free htruthy hconflict] at hclaim
    rw [licenseClaim_of_free (hparam ▸ htruthy) (hsame ▸ hconflict), ← hparam]
    exact hclaim
  · rcases licenseClaim_of_conflict hconflict with hnone | hinstalled
    · rw [hnone] at hclaim
      cases hclaim
    · rw [hinstalled] at hclaim
      rw [licenseClaim_of_installed (hsame ▸ hconflict) (hparam ▸ htruthy) (h.installed hclaim)]
      exact h.installed hclaim

end AtLeastAsReady

/-- Arguments are kept when the features stay ready and licensed. -/
theorem buildManagerArgs_subset {vpa : Option Vpa} {knative : Option Knative}
    {vpaReady knativeReady licensed vpaReady' knativeReady' licensed' : Bool}
    (hvpa : vpaReady = true → vpaReady' = true)
    (hknative : knativeReady = true → knativeReady' = true)
    (hlicensed : licensed = true → licensed' = true) :
    buildManagerArgs vpa knative vpaReady knativeReady licensed ⊆
      buildManagerArgs vpa knative vpaReady' knativeReady' licensed' := by
  intro arg
  simp only [buildManagerArgs, List.mem_append, List.mem_ite_nil_right, Bool.and_eq_true]
  rintro (⟨⟨⟨hon, hready⟩, hlic⟩, harg⟩ | ⟨⟨⟨hon, hready⟩, hlic⟩, harg⟩)
  · exact Or.inl ⟨⟨⟨hon, hvpa hready⟩, hlicensed hlic⟩, harg⟩
  · exact Or.inr ⟨⟨⟨hon, hknative hready⟩, hlicensed hlic⟩, harg⟩

/-- Capabilities are kept when the features stay ready. -/
theorem runtimeCapabilities_subset {vpa : Option Vpa} {knative : Option Knative}
    {vpaReady knativeReady vpaReady' knativeReady' : Bool}
    (hvpa : vpaReady = true → vpaReady' = true)
    (hknative : knativeReady = true → knativeReady' = true) :
    runtimeCapabilities vpa knative vpaReady knativeReady ⊆
      runtimeCapabilities vpa knative vpaReady' knativeReady' := by
  intro capability
  simp only [runtimeCapabilities, List.mem_append, List.mem_ite_nil_right, Bool.and_eq_true]
  rintro (⟨⟨hon, hready⟩, hmem⟩ | ⟨⟨hon, hready⟩, hmem⟩)
  · exact Or.inl ⟨⟨hon, hvpa hready⟩, hmem⟩
  · exact Or.inr ⟨⟨hon, hknative hready⟩, hmem⟩

/-- **Progress never removes a resource.** Between two requests of which the second is
at least as ready, every composed name, every UXP manager argument and every runtime
capability is kept. -/
theorem progress_keeps {now now' : String} {a b : Request} (h : AtLeastAsReady a b) :
    (∀ n ∈ (reconcile now a).resources, n ∈ (reconcile now' b).resources) ∧
      managerArgs (reconcile now a) ⊆ managerArgs (reconcile now' b) ∧
      capabilities (reconcile now a) ⊆ capabilities (reconcile now' b) := by
  have hvpa : a.vpa = b.vpa :=
    congrArg Parameters.providerVerticalPodAutoscaling h.params_eq
  have hknative : a.knative = b.knative := congrArg Parameters.knative h.params_eq
  have hready : a.vpaReady = true → b.vpaReady = true := h.signal .vpaDeployed
  refine ⟨fun n hn => emitted_mono h.params_eq h.licenseClaim h.signal hn, ?_, ?_⟩
  · rw [managerArgs_reconcile, managerArgs_reconcile, Request.mgrArgs, Request.mgrArgs, hvpa,
      hknative]
    exact buildManagerArgs_subset hready h.knativeFullyReady h.featuresLicensed
  · rw [capabilities_reconcile, capabilities_reconcile, hvpa, hknative]
    exact runtimeCapabilities_subset hready h.knativeFullyReady

/-- A control plane whose AKS cluster, UXP and Argo CD are observed, and nothing of its k8gb
or its backup. -/
def halfway : Request := equippedWith [.aks, .uxpRelease, .argocdRelease]

/-- The same one is at least as ready once all that its gates read is observed. -/
theorem halfway_atLeastAsReady : AtLeastAsReady halfway (equippedWith awaited) where
  composite := rfl
  peers := rfl
  releases := by decide
  license := by decide
  serving := by decide
  installed := by decide
  oidcIssuerUrl := by decide
  clientId := by decide
  principalId := by decide
  clusterPrincipalId := by decide
  storageAccountId := by decide
  publicIpId := by decide
  publicIp := by decide

/-- What waited for Argo CD, for UXP and for the OIDC issuer stays composed, and what waits for
the reserved IP is composed only now. -/
theorem progress_keeps_halfway :
    (∀ n ∈ ["argocd-app", "backup-federation", "controller-restart"],
      n ∈ (reconcile "2026-03-01T00:00:00Z" halfway).resources ∧
        n ∈ (reconcile "2026-03-02T00:00:00Z" (equippedWith awaited)).resources) ∧
      "k8gb-ip-role" ∉ (reconcile "2026-03-01T00:00:00Z" halfway).resources := by
  have hbefore : ∀ n ∈ ["argocd-app", "backup-federation", "controller-restart"],
      n ∈ (reconcile "2026-03-01T00:00:00Z" halfway).resources := by
    simp only [List.forall_mem_cons, List.not_mem_nil, false_imp_iff, implies_true, and_true]
    exact ⟨(mem_reconcile_component .argocdApp).mpr (by decide),
      (mem_reconcile_component .backupFederation).mpr (by decide),
      (mem_reconcile_component .controllerRestart).mpr (by decide)⟩
  refine ⟨fun n hn => ⟨hbefore n hn, ?_⟩, fun hrole => ?_⟩
  · exact (progress_keeps halfway_atLeastAsReady).1 n (hbefore n hn)
  · exact absurd ((mem_reconcile_component .k8gbIpRole).mp hrole) (by decide)

end AzureCtp
