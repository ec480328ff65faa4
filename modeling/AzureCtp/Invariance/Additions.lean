import AzureCtp.Features
import AzureCtp.Invariance.Features

/-!
# What switching a feature on changes

With the switch of a feature on, at whatever stage its own roll-out is, everything that is
composed without it is still composed, and composed the same: the features do not read each
other. Only two resources list the features, the UXP Release in its arguments and the
`UpboundRuntimeConfig` in its capabilities. These lists grow, and the rest of the two resources
stays as it is.

## Main results

* `SameBut.gate_mono`: what is composed without the feature is composed with it
* `SameBut.composed_uxpRelease`, `SameBut.composed_runtimeConfig`: the two that list features
* `feature_only_adds`: what stays, what grows and what is added
-/

set_option autoImplicit false

namespace AzureCtp

open Component Document

/-- The path to the arguments of the UXP manager. -/
def managerArgsPath : List String := ["values", "upbound", "manager", "args"]

/-- The path to the capabilities of the `UpboundRuntimeConfig`. -/
def capabilitiesPath : List String := ["manifest", "spec", "capabilities"]

/-- The resource without the field at a path below `spec.forProvider`. -/
def Resource.withoutField (path : List String) (r : Resource) : Resource :=
  { r with
    spec :=
      match r.spec with
      | .managed spec => .managed { spec with forProvider := spec.forProvider.eraseAt path }
      | spec => spec }

theorem withoutField_orphanPolicy (path : List String) (policies : List ManagementPolicy)
    (r : Resource) :
    (orphanPolicy policies r).withoutField path = orphanPolicy policies (r.withoutField path) := by
  obtain ⟨apiVersion, kind, metadata, spec⟩ := r
  cases spec with
  | managed spec =>
    obtain ⟨own, forProvider, references, providerConfigRef⟩ := spec
    cases own <;> rfl
  | _ => rfl

/-- Without its arguments the UXP Release is the one that has none. -/
theorem uxpRelease_withoutField (idVal uxpVersion : String) (uxpDeployed : Bool)
    (mgrArgs : List String) (config : Config) :
    (AzureCtp.uxpRelease idVal uxpVersion uxpDeployed mgrArgs config).withoutField
      managerArgsPath = AzureCtp.uxpRelease idVal uxpVersion uxpDeployed [] config := by
  cases mgrArgs with
  | nil => rfl
  | cons => rfl

namespace SameBut

variable {f : OptionalFeature} {a b : Request} (h : SameBut f a b)
  (hoff : f.switch a.gates = false)

include hoff in
/-- A component of the feature is not composed. -/
theorem owner_ne_of_gate {c : Component} (hgate : c.gate a.gates = true) : c.owner ≠ some f := by
  intro hown
  rw [(owner_eq_some_iff c f).mp hown a.gates hgate] at hoff
  cases hoff

include h hoff

theorem switch_mono {g : OptionalFeature} (hon : g.switch a.gates = true) :
    f ≠ g ∧ g.switch b.gates = true := by
  have hg : f ≠ g := by
    rintro rfl
    rw [hon] at hoff
    cases hoff
  exact ⟨hg, by rw [← h.switch_of_ne hg, hon]⟩

theorem gatewayOn_mono (hon : (a.k8gbEnabled || a.argocdEnabled) = true) :
    (b.k8gbEnabled || b.argocdEnabled) = true := by
  rw [Bool.or_eq_true] at hon ⊢
  rcases hon with hk8gb | hargocd
  · exact Or.inl (@switch_mono f a b h hoff .k8gb hk8gb).2
  · exact Or.inr (@switch_mono f a b h hoff .argocd hargocd).2

theorem vpaOn_mono (hon : (a.vpaEnabled && a.vpaReady) = true) :
    (b.vpaEnabled && b.vpaReady) = true := by
  rw [Bool.and_eq_true] at hon ⊢
  obtain ⟨hg, henabled⟩ := @switch_mono f a b h hoff .vpa hon.1
  have hready : a.vpaReady = b.vpaReady := h.deployed_eq .vpaRelease (owner_ne hg rfl)
  exact ⟨henabled, hready ▸ hon.2⟩

theorem knativeOn_mono (hon : (a.knativeEnabled && a.knativeFullyReady) = true) :
    (b.knativeEnabled && b.knativeFullyReady) = true := by
  rw [Bool.and_eq_true] at hon ⊢
  obtain ⟨hg, henabled⟩ := @switch_mono f a b h hoff .knative hon.1
  have hserving := h.lookup_eq .knativeServingCr (owner_ne hg rfl)
  rw [Component.name] at hserving
  have hready : a.knativeFullyReady = b.knativeFullyReady := by
    rw [Request.knativeFullyReady, Request.knativeFullyReady, h.knativeDepsReady hg,
      Request.knativeServingReady, Request.knativeServingReady, isKnativeServingReady,
      isKnativeServingReady, hserving]
  exact ⟨henabled, hready ▸ hon.2⟩

/-- What is composed without the feature is composed with it. -/
theorem gate_mono {c : Component} (hgate : c.gate a.gates = true) : c.gate b.gates = true := by
  cases hown : c.owner with
  | some g =>
    have hg : f ≠ g := by
      rintro rfl
      exact owner_ne_of_gate hoff hgate hown
    rwa [← h.gate_other hown hg]
  | none =>
    have hgateway := h.gatewayOn_mono hoff
    cases c <;> try contradiction
    case usageEnvoyGatewayAks | usageEnvoyProxyConfigAks | usageGatewayClassAks
        | envoyGatewayRelease => exact hgateway hgate
    case envoyProxyConfig | gatewayClass =>
      simp only [gate, Request.gates, Bool.and_eq_true] at hgate ⊢
      exact ⟨hgateway hgate.1, h.gatewayReady ▸ hgate.2⟩
    case uxpLicenseSecret | uxpLicense =>
      simp only [gate, Request.gates] at hgate ⊢
      rwa [← h.licenseClaim]
    case upboundRuntimeConfig =>
      simp only [gate, Request.gates, Bool.or_eq_true] at hgate ⊢
      exact hgate.imp (h.vpaOn_mono hoff) (h.knativeOn_mono hoff)
    all_goals exact hgate

/-- It is the same resource, unless it lists the features. -/
theorem composed_eq (now : String) {c : Component} (hgate : c.gate a.gates = true)
    (huxp : c ≠ .uxpRelease) (hruntime : c ≠ .upboundRuntimeConfig) :
    c.composed now a = c.composed now b := by
  have hresource : c.resource now a = c.resource now b := by
    cases hown : c.owner with
    | none => exact h.resource_untold now hown huxp hruntime
    | some g =>
      refine h.resource_other now hown ?_
      rintro rfl
      exact owner_ne_of_gate hoff hgate hown
  rw [composed, composed, hresource, h.mgmtPolicies]

omit hoff in
/-- The UXP Release is the same but for its arguments. -/
theorem composed_uxpRelease (now : String) :
    (Component.uxpRelease.composed now a).withoutField managerArgsPath =
      (Component.uxpRelease.composed now b).withoutField managerArgsPath := by
  have hversion : a.uxpVersion = b.uxpVersion :=
    h.param (fun params => (params.uxp.getD {}).version.getD "2.2.1-up.1")
      (by cases f <;> exact fun _ => rfl)
  -- without the arguments nothing of the Release depends on a feature
  rw [composed, composed, withoutField_orphanPolicy, withoutField_orphanPolicy, resource, resource,
    uxpRelease_withoutField, uxpRelease_withoutField, h.idVal, h.config, hversion, h.uxpDeployed,
    h.mgmtPolicies]

omit hoff in
/-- The `UpboundRuntimeConfig` is the same but for its capabilities. -/
theorem composed_runtimeConfig (now : String) :
    (Component.upboundRuntimeConfig.composed now a).withoutField capabilitiesPath =
      (Component.upboundRuntimeConfig.composed now b).withoutField capabilitiesPath := by
  have herased : ∀ (idVal : String) (capabilities : List String) (config : Config),
      (runtimeConfig idVal capabilities config).withoutField capabilitiesPath =
        (runtimeConfig idVal [] config).withoutField capabilitiesPath := fun _ _ _ => rfl
  rw [composed, composed, withoutField_orphanPolicy, withoutField_orphanPolicy, resource, resource,
    herased, herased b.idVal, h.idVal, h.config, h.mgmtPolicies]

theorem mgrArgs_subset : a.mgrArgs ⊆ b.mgrArgs := by
  have hvpa := h.vpaOn_mono hoff
  have hknative := h.knativeOn_mono hoff
  rw [mgrArgs_eq, mgrArgs_eq, h.featuresLicensed]
  intro arg
  simp only [List.mem_append, List.mem_ite_nil_right, Bool.and_eq_true] at hvpa hknative ⊢
  tauto

theorem capabilities_subset :
    runtimeCapabilities a.vpa a.knative a.vpaReady a.knativeFullyReady ⊆
      runtimeCapabilities b.vpa b.knative b.vpaReady b.knativeFullyReady := by
  have hvpa := h.vpaOn_mono hoff
  have hknative := h.knativeOn_mono hoff
  rw [capabilities_eq, capabilities_eq]
  intro capability
  simp only [List.mem_append, List.mem_ite_nil_right] at hvpa hknative ⊢
  tauto

end SameBut

/-- **Switching a feature on only adds.** Of two requests that differ in the parameters and the
observed resources of one feature, which the first has off, the second composes everything
the first does: the UXP Release with more arguments and else the same, the
`UpboundRuntimeConfig` with more capabilities and else the same, and every other resource the
same. It adds no resource of another feature, and the license guard and claim are the same. -/
theorem feature_only_adds {f : OptionalFeature} {a b : Request} (h : SameBut f a b)
    (hoff : f.switch a.gates = false) (now : String) :
    (∀ n r, (reconcile now a).resources.lookup n = some r →
      ∃ r', (reconcile now b).resources.lookup n = some r' ∧
        (n = "uxp-release" → r'.withoutField managerArgsPath = r.withoutField managerArgsPath) ∧
        (n = "upbound-runtime-config" →
          r'.withoutField capabilitiesPath = r.withoutField capabilitiesPath) ∧
        (n ∉ ["uxp-release", "upbound-runtime-config"] → r' = r)) ∧
    managerArgs (reconcile now a) ⊆ managerArgs (reconcile now b) ∧
    capabilities (reconcile now a) ⊆ capabilities (reconcile now b) ∧
    (∀ (c : Component) (g : OptionalFeature), c.owner = some g → f ≠ g →
      (c.name ∈ (reconcile now b).resources ↔ c.name ∈ (reconcile now a).resources)) ∧
    a.licenseConflict = b.licenseConflict ∧ a.licenseClaim = b.licenseClaim := by
  refine ⟨fun n r hr => ?_, ?_, ?_, fun c g hown hg => ?_, h.licenseConflict, h.licenseClaim⟩
  · obtain ⟨c, hgate, rfl, rfl⟩ := lookup_reconcile_iff.mp hr
    have hgate' := h.gate_mono hoff hgate
    refine ⟨_, (lookup_reconcile_component c).mpr ⟨hgate', rfl⟩, fun hname => ?_, fun hname => ?_,
      fun hother => ?_⟩
    · obtain rfl : c = .uxpRelease := name_injective hname
      exact (h.composed_uxpRelease now).symm
    · obtain rfl : c = .upboundRuntimeConfig := name_injective hname
      exact (h.composed_runtimeConfig now).symm
    · have huxp : c ≠ .uxpRelease := by
        rintro rfl
        exact hother List.mem_cons_self
      have hruntime : c ≠ .upboundRuntimeConfig := by
        rintro rfl
        exact hother (List.mem_cons_of_mem _ List.mem_cons_self)
      exact (h.composed_eq hoff now hgate huxp hruntime).symm
  · rw [managerArgs_reconcile, managerArgs_reconcile]
    exact h.mgrArgs_subset hoff
  · rw [capabilities_reconcile, capabilities_reconcile]
    exact h.capabilities_subset hoff
  · rw [mem_reconcile_component, mem_reconcile_component, h.gate_other hown hg]

/-- The control plane once VPA is switched on, its Release deployed. -/
def vpaOn : Request where
  composite :=
    { parameters :=
        { Parameters.required "cp" "eastus" { count := some 3 } with
          providerVerticalPodAutoscaling := some { enabled := some "yes" } } }
  observed := leftoverVpa

/-- The AKS XR is what it was, and so is the UXP Release but for its arguments. -/
theorem feature_only_adds_vpa :
    (reconcile "2026-03-02T00:00:00Z" vpaOn).resources.lookup "aks" =
      some (Component.aks.composed "2026-03-02T00:00:00Z" (vpaOff "100m" ∅)) ∧
    ∃ r, (reconcile "2026-03-02T00:00:00Z" vpaOn).resources.lookup "uxp-release" = some r ∧
      r.withoutField managerArgsPath =
        (Component.uxpRelease.composed "2026-03-02T00:00:00Z"
          (vpaOff "100m" ∅)).withoutField managerArgsPath := by
  have hsame : SameBut .vpa (vpaOff "100m" ∅) vpaOn :=
    { composite := rfl
      peers := rfl
      observed := fun n hn => (AList.lookup_insert_ne (hn .vpaRelease rfl).symm).symm }
  have hoff : OptionalFeature.vpa.switch (vpaOff "100m" ∅).gates = false := rfl
  obtain ⟨hkept, -⟩ := feature_only_adds hsame hoff "2026-03-02T00:00:00Z"
  have haks := (lookup_reconcile_component .aks).mpr
    ⟨rfl, (rfl : Component.aks.composed "2026-03-02T00:00:00Z" (vpaOff "100m" ∅) = _)⟩
  have huxp := (lookup_reconcile_component .uxpRelease).mpr
    ⟨rfl, (rfl : Component.uxpRelease.composed "2026-03-02T00:00:00Z" (vpaOff "100m" ∅) = _)⟩
  obtain ⟨r, hr, -, -, hsame⟩ := hkept "aks" _ haks
  obtain ⟨r', hr', hargs, -⟩ := hkept "uxp-release" _ huxp
  exact ⟨hsame (by decide) ▸ hr, r', hr', hargs rfl⟩

end AzureCtp
