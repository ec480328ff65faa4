import AzureCtp.Components

/-!
# The licensed features

A licensed feature is switched on in three places: the arguments of the UXP manager,
the capabilities of the `UpboundRuntimeConfig`, and the resources it relies on. The
arguments and the resources wait for the license to be applied, the capabilities do
not, so the places agree exactly when no feature is ready without a license.

## Main results

* `managerArgs_reconcile`, `capabilities_reconcile`: what the response switches on
* `featuresAgree_iff`: when the three places agree
-/

set_option autoImplicit false

namespace AzureCtp

open Component Document

/-- `upbound.manager.args` of the composed UXP Release. -/
def managerArgs (rsp : Response) : List String :=
  ((rsp.at? "uxp-release" ["values", "upbound", "manager", "args"]).map Value.toStrings).getD []

/-- `spec.capabilities` of the composed `UpboundRuntimeConfig`. -/
def capabilities (rsp : Response) : List String :=
  ((rsp.at? "upbound-runtime-config" ["manifest", "spec", "capabilities"]).map
    Value.toStrings).getD []

/-- A feature's switches agree, and what it relies on is composed where one is on. -/
structure FeatureAgrees (rsp : Response) (arg capability : String) (needs : List String) :
    Prop where
  agree : arg ∈ managerArgs rsp ↔ capability ∈ capabilities rsp
  composed : arg ∈ managerArgs rsp ∨ capability ∈ capabilities rsp →
    ∀ n ∈ needs, n ∈ rsp.resources

/-- Both features agree. -/
def FeaturesAgree (rsp : Response) : Prop :=
  FeatureAgrees rsp "--enable-provider-vpa" "ProviderVPA" ["vpa-release"] ∧
    FeatureAgrees rsp "--enable-knative-runtime" "FunctionKnativeRuntime"
      ["knative-operator-release", "knative-serving-cr"]

variable {now : String} {req : Request}

theorem uxpRelease_args (idVal uxpVersion : String) (uxpDeployed : Bool) (mgrArgs : List String)
    (config : Config) :
    (AzureCtp.uxpRelease idVal uxpVersion uxpDeployed mgrArgs config).forProvider?
        ["values", "upbound", "manager", "args"] =
      if mgrArgs.isEmpty then none else some (.strings mgrArgs) := by
  cases mgrArgs with
  | nil => rfl
  | cons => rfl

theorem runtimeConfig_capabilities (idVal : String) (capabilities : List String)
    (config : Config) :
    (runtimeConfig idVal capabilities config).forProvider? ["manifest", "spec", "capabilities"] =
      some (.strings capabilities) := rfl

/-- The composed manager arguments are those `buildManagerArgs` returned. -/
theorem managerArgs_reconcile : managerArgs (reconcile now req) = req.mgrArgs := by
  have hat : (reconcile now req).at? "uxp-release" ["values", "upbound", "manager", "args"] =
      if req.mgrArgs.isEmpty then none else some (.strings req.mgrArgs) :=
    (at?_reconcile .uxpRelease _).trans (uxpRelease_args _ _ _ _ _)
  rw [managerArgs, hat]
  split_ifs with hempty
  · exact (List.isEmpty_iff.mp hempty).symm
  · simp

/-- The composed capabilities are the ready ones; the resource is left out when there
are none. -/
theorem capabilities_reconcile :
    capabilities (reconcile now req) =
      runtimeCapabilities req.vpa req.knative req.vpaReady req.knativeFullyReady := by
  have hat : (reconcile now req).at? "upbound-runtime-config"
      ["manifest", "spec", "capabilities"] = _ := at?_reconcile .upboundRuntimeConfig _
  rw [capabilities, hat]
  split_ifs with hgate
  · simp [resource, runtimeConfig_capabilities]
  · simp only [gate, Request.gates, Bool.or_eq_true, not_or, Bool.not_eq_true] at hgate
    unfold Request.vpaEnabled Request.knativeEnabled at hgate
    simp [runtimeCapabilities, hgate.1, hgate.2]

/-! ### Each feature -/

theorem vpaArg_iff :
    "--enable-provider-vpa" ∈ managerArgs (reconcile now req) ↔
      (req.vpaEnabled = true ∧ req.vpaReady = true) ∧ req.featuresLicensed = true := by
  rw [managerArgs_reconcile]
  simp [Request.mgrArgs, buildManagerArgs, Request.vpaEnabled]

theorem knativeArg_iff :
    "--enable-knative-runtime" ∈ managerArgs (reconcile now req) ↔
      (req.knativeEnabled = true ∧ req.knativeFullyReady = true) ∧
        req.featuresLicensed = true := by
  rw [managerArgs_reconcile]
  simp [Request.mgrArgs, buildManagerArgs, Request.knativeEnabled]

theorem vpaCapability_iff :
    "ProviderVPA" ∈ capabilities (reconcile now req) ↔
      req.vpaEnabled = true ∧ req.vpaReady = true := by
  rw [capabilities_reconcile]
  simp [runtimeCapabilities, Request.vpaEnabled]

theorem knativeCapability_iff :
    "FunctionKnativeRuntime" ∈ capabilities (reconcile now req) ↔
      req.knativeEnabled = true ∧ req.knativeFullyReady = true := by
  rw [capabilities_reconcile]
  simp [runtimeCapabilities, Request.knativeEnabled]

/-- A feature whose argument waits for a license and whose capability does not agrees
exactly when it is licensed or not ready. -/
theorem featureAgrees_iff {rsp : Response} {arg capability : String} {needs : List String}
    {ready licensed : Prop} (harg : arg ∈ managerArgs rsp ↔ ready ∧ licensed)
    (hcapability : capability ∈ capabilities rsp ↔ ready)
    (hneeds : ready → licensed → ∀ n ∈ needs, n ∈ rsp.resources) :
    FeatureAgrees rsp arg capability needs ↔ licensed ∨ ¬ ready := by
  constructor
  · rintro ⟨hagree, -⟩
    rw [harg, hcapability] at hagree
    tauto
  · intro h
    refine ⟨by rw [harg, hcapability]; tauto, fun hon => ?_⟩
    rw [harg, hcapability] at hon
    -- whichever switch is on, the feature is ready, so it is licensed
    have hready : ready := hon.elim And.left id
    exact hneeds hready (h.resolve_right (not_not_intro hready))

theorem vpaNeeds (hready : req.vpaEnabled = true ∧ req.vpaReady = true)
    (hlicensed : req.featuresLicensed = true) :
    ∀ n ∈ ["vpa-release"], n ∈ (reconcile now req).resources := by
  rw [List.forall_mem_singleton]
  refine (mem_reconcile_component .vpaRelease).mpr ?_
  simp [gate, Request.gates, hready.1, hlicensed]

theorem knativeNeeds (hready : req.knativeEnabled = true ∧ req.knativeFullyReady = true)
    (hlicensed : req.featuresLicensed = true) :
    ∀ n ∈ ["knative-operator-release", "knative-serving-cr"],
      n ∈ (reconcile now req).resources := by
  have hdeps : req.knativeDepsReady = true := by
    have hfully := hready.2
    rw [Request.knativeFullyReady, Bool.and_eq_true] at hfully
    exact hfully.1
  rw [List.forall_mem_cons, List.forall_mem_singleton]
  constructor
  · refine (mem_reconcile_component .knativeOperatorRelease).mpr ?_
    simp [gate, Request.gates, hready.1, hlicensed]
  · refine (mem_reconcile_component .knativeServingCr).mpr ?_
    simp [gate, Request.gates, hready.1, hlicensed, hdeps]

/-- **The places agree** exactly when the features are licensed or none of them is
enabled and ready. -/
theorem featuresAgree_iff (now : String) (req : Request) :
    FeaturesAgree (reconcile now req) ↔
      req.featuresLicensed = true ∨
        ¬ (req.vpaEnabled = true ∧ req.vpaReady = true) ∧
          ¬ (req.knativeEnabled = true ∧ req.knativeFullyReady = true) := by
  rw [FeaturesAgree, featureAgrees_iff vpaArg_iff vpaCapability_iff vpaNeeds,
    featureAgrees_iff knativeArg_iff knativeCapability_iff knativeNeeds, or_and_left]

/-- A control plane with a deployed VPA, whose license is requested but not applied. -/
def unlicensedVpa : Request where
  composite :=
    { parameters :=
        { Parameters.required "cp" "eastus" { count := some 3 } with
          license := some { secretRef := some { name := some "uxp-license" } }
          providerVerticalPodAutoscaling := some { enabled := some "yes" } } }
  observed := (∅ : Observed).insert "vpa-release"
    ((vpaRelease "cp" ⟨"2026-03-01T00:00:00Z", "default", "Full"⟩).observedWith .deployed)

/-- The capability is switched on without its argument. -/
theorem not_featuresAgree_unlicensedVpa :
    ¬ FeaturesAgree (reconcile "2026-03-02T00:00:00Z" unlicensedVpa) := by
  rintro ⟨⟨hagree, -⟩, -⟩
  rw [vpaArg_iff, vpaCapability_iff] at hagree
  exact absurd hagree (by decide)

end AzureCtp
