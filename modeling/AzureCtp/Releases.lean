import AzureCtp.Progress

/-!
# The Helm Releases

Every composed Release is to carry a readiness mark once its observed counterpart is
deployed, so that a Release whose own Ready condition is stuck does not hold the control
plane back. The VPA Release never carries the mark, so the rule holds exactly where no VPA
Release is composed that is deployed already.

A Release that brings CRDs comes before the custom resources of their kinds: each of them
is composed only next to its Release, and only once that Release is deployed.

## Main results

* `marked_composed`: which components carry the mark
* `marksDeployed_iff`: when the mark follows the deployed Releases
* `customResources_follow`: custom resources wait for their Release
-/

set_option autoImplicit false

namespace AzureCtp

open Component Document

/-- The readiness mark of the stale-Ready workaround is set. -/
def Resource.marked (r : Resource) : Bool :=
  r.metadata.annotations.lookup "crossplane.io/ready" == some "True"

/-- A composed Release is marked exactly when its observed counterpart is deployed. -/
def MarksDeployed (req : Request) (rsp : Response) : Prop :=
  ∀ n r, rsp.resources.lookup n = some r → r.kind = "Release" →
    (r.marked = true ↔ isReleaseDeployed req.observed n = true)

variable {now : String} {req : Request}

/-! ### The readiness mark -/

theorem marked_stamp (r : Resource) (config : Config) (azureTags : Bool) :
    (stamp r config azureTags).marked = r.marked := by
  unfold stamp Resource.marked
  rw [lookup_setField_of_ne (by decide)]

theorem marked_orphanPolicy (policies : List ManagementPolicy) (r : Resource) :
    (orphanPolicy policies r).marked = r.marked := by
  unfold orphanPolicy
  split
  · split_ifs <;> rfl
  · rfl

/-- A mark added to other annotations is what the resource is marked by. -/
theorem marked_of_readyMark {r : Resource} {deployed : Bool} (own : List (String × String))
    (hannotations : r.metadata.annotations = own ++ readyMark deployed)
    (hown : own.lookup "crossplane.io/ready" = none) : r.marked = deployed := by
  rw [Resource.marked, hannotations, List.lookup_append, hown]
  cases deployed <;> rfl

/-- The components written as Helm Releases are those whose deployment is read back. -/
theorem kind_eq_release_iff (c : Component) : c.kind = "Release" ↔ c.name ∈ releaseNames := by
  cases c <;> decide

/-- Every Release but the one of VPA is marked exactly when it is deployed. -/
theorem marked_composed {c : Component} (hkind : c.kind = "Release") (hvpa : c ≠ .vpaRelease) :
    (c.composed now req).marked = isReleaseDeployed req.observed c.name := by
  rw [composed, marked_orphanPolicy]
  cases c with
  | vpaRelease => exact absurd rfl hvpa
  | uxpRelease | certmanagerRelease | envoyGatewayRelease | knativeOperatorRelease =>
    exact (marked_stamp _ _ _).trans (marked_of_readyMark [compositionResourceName _] rfl rfl)
  | k8gbRelease | argocdRelease =>
    exact (marked_stamp _ _ _).trans
      (marked_of_readyMark [compositionResourceName _, (_, _)] rfl rfl)
  | _ => exact absurd hkind (by decide)

theorem marked_vpaRelease : (Component.vpaRelease.composed now req).marked = false := by
  rw [composed, marked_orphanPolicy]
  exact marked_stamp _ _ _

/-- The mark follows the deployed Releases exactly where no deployed VPA Release is
composed. -/
theorem marksDeployed_iff :
    MarksDeployed req (reconcile now req) ↔
      ¬ (req.vpaEnabled = true ∧ req.featuresLicensed = true ∧ req.vpaReady = true) := by
  have hgate : Component.vpaRelease.gate req.gates = true ↔
      req.vpaEnabled = true ∧ req.featuresLicensed = true := by
    simp [gate, Request.gates]
  constructor
  · rintro hmarks ⟨henabled, hlicensed, hready⟩
    have hlookup : (reconcile now req).resources.lookup "vpa-release" = some _ :=
      (lookup_reconcile_component .vpaRelease).mpr ⟨hgate.mpr ⟨henabled, hlicensed⟩, rfl⟩
    -- deployed, so marked, which the VPA Release never is
    have hmarked := (hmarks _ _ hlookup (kind_composed .vpaRelease)).mpr hready
    rw [marked_vpaRelease] at hmarked
    cases hmarked
  · intro hvpa n r hr hkind
    obtain ⟨c, hopen, rfl, rfl⟩ := lookup_reconcile_iff.mp hr
    rw [kind_composed] at hkind
    by_cases hc : c = .vpaRelease
    · subst hc
      have hnot : ¬ req.vpaReady = true := fun hready =>
        hvpa ⟨(hgate.mp hopen).1, (hgate.mp hopen).2, hready⟩
      rw [marked_vpaRelease]
      exact ⟨fun hfalse => (Bool.false_ne_true hfalse).elim, fun hready => absurd hready hnot⟩
    · rw [marked_composed hkind hc]

/-- A control plane without a license, whose VPA Release is deployed. -/
def deployedVpa : Request where
  composite :=
    { parameters :=
        { Parameters.required "cp" "eastus" { count := some 3 } with
          providerVerticalPodAutoscaling := some { enabled := some "yes" } } }
  observed := (∅ : Observed).insert "vpa-release"
    ((vpaRelease "cp" ⟨"2026-03-01T00:00:00Z", "default", "Full"⟩).observedWith .deployed)

/-- Its VPA Release is composed without the mark. -/
theorem not_marksDeployed_deployedVpa :
    ¬ MarksDeployed deployedVpa (reconcile "2026-03-02T00:00:00Z" deployedVpa) := by
  rw [marksDeployed_iff, not_not]
  decide

/-! ### Custom resources -/

/-- The Releases that install what a manifest of a kind needs. -/
def crdReleases (kind : String) : List String :=
  let byKind : List (String × List String) :=
    [("EnvoyProxy", ["envoy-gateway-release"]),
     ("GatewayClass", ["envoy-gateway-release"]),
     ("Gateway", ["envoy-gateway-release"]),
     ("HTTPRoute", ["envoy-gateway-release"]),
     ("ClusterIssuer", ["certmanager-release"]),
     ("Certificate", ["certmanager-release"]),
     ("Application", ["argocd-release"]),
     ("KnativeServing", ["knative-operator-release", "certmanager-release"]),
     ("Restore", ["uxp-release"])]
  (byKind.lookup kind).getD []

namespace Component

/-- The kind of the manifest an Object carries. -/
def manifestKind : Component → Option String
  | envoyProxyConfig => some "EnvoyProxy"
  | gatewayClass => some "GatewayClass"
  | k8gbCorednsObserve => some "Service"
  | argocdGateway => some "Gateway"
  | argocdHttproute => some "HTTPRoute"
  | argocdIssuer => some "ClusterIssuer"
  | argocdCert => some "Certificate"
  | argocdApp => some "Application"
  | backupConfig => some "BackupConfig"
  | backupRbac => some "ClusterRole"
  | backupRbacBinding => some "ClusterRoleBinding"
  | backupSchedule => some "BackupSchedule"
  | backupSa => some "ServiceAccount"
  | controllerRestart => some "Deployment"
  | backupRestore => some "Restore"
  | uxpLicenseSecret => some "Secret"
  | uxpLicense => some "License"
  | knativeServingNs => some "Namespace"
  | knativeServingCr => some "KnativeServing"
  | upboundRuntimeConfig => some "UpboundRuntimeConfig"
  | _ => none

theorem forProvider?_manifestKind (c : Component) :
    (c.composed now req).forProvider? ["manifest", "kind"] = c.manifestKind.map .str := by
  rw [composed, forProvider?_orphanPolicy]
  cases c <;> rfl

/-- The Releases a component's custom resource waits for. -/
def waitsFor : Component → List Component
  | envoyProxyConfig | gatewayClass | argocdGateway | argocdHttproute => [envoyGatewayRelease]
  | argocdIssuer | argocdCert => [certmanagerRelease]
  | argocdApp => [argocdRelease]
  | knativeServingCr => [knativeOperatorRelease, certmanagerRelease]
  | backupRestore => [uxpRelease]
  | _ => []

theorem crdReleases_eq {c : Component} {kind : String} (hkind : c.manifestKind = some kind) :
    crdReleases kind = c.waitsFor.map name := by
  revert hkind
  cases c <;> intro hkind <;> cases hkind <;> decide

/-- A component is composed only next to the Releases it waits for, once they are
deployed. -/
theorem gate_waitsFor {c : Component} (hgate : c.gate req.gates = true) :
    ∀ d ∈ c.waitsFor, d.gate req.gates = true ∧ d.kind = "Release" ∧
      isReleaseDeployed req.observed d.name = true := by
  cases c with
  | envoyProxyConfig | gatewayClass =>
    obtain ⟨henabled, hready⟩ := Bool.and_eq_true_iff.mp hgate
    exact List.forall_mem_singleton.mpr ⟨henabled, rfl, hready⟩
  | argocdGateway | argocdHttproute =>
    obtain ⟨henabled, hready⟩ := Bool.and_eq_true_iff.mp hgate
    exact List.forall_mem_singleton.mpr ⟨Bool.or_eq_true_iff.mpr (Or.inr henabled), rfl, hready⟩
  | argocdIssuer | argocdCert =>
    exact List.forall_mem_singleton.mpr ⟨rfl, rfl, (Bool.and_eq_true_iff.mp hgate).2⟩
  | argocdApp =>
    obtain ⟨henabled, hdeployed⟩ := Bool.and_eq_true_iff.mp hgate
    exact List.forall_mem_singleton.mpr ⟨henabled, rfl, hdeployed⟩
  | knativeServingCr =>
    obtain ⟨hoperator, hdeps⟩ := Bool.and_eq_true_iff.mp hgate
    -- the dependencies are both Releases
    obtain ⟨hcertmanager, hready⟩ := Bool.and_eq_true_iff.mp hdeps
    rw [waitsFor, List.forall_mem_cons, List.forall_mem_singleton]
    exact ⟨⟨hoperator, rfl, hready⟩, rfl, rfl, hcertmanager⟩
  | backupRestore =>
    -- the workload identity waits for UXP
    obtain ⟨hidentity, -⟩ := Bool.and_eq_true_iff.mp hgate
    obtain ⟨-, hworkload⟩ := Bool.and_eq_true_iff.mp hidentity
    exact List.forall_mem_singleton.mpr ⟨rfl, rfl, (Bool.and_eq_true_iff.mp hworkload).2⟩
  | _ => exact List.forall_mem_nil _

end Component

/-- **Custom resources follow their CRDs.** An Object with a manifest of a kind that a
Release installs is composed only together with that Release, and only once it is
deployed. -/
theorem customResources_follow {n kind : String} {r : Resource}
    (hr : (reconcile now req).resources.lookup n = some r)
    (hkind : r.forProvider? ["manifest", "kind"] = some (.str kind)) :
    ∀ m ∈ crdReleases kind, isReleaseDeployed req.observed m = true ∧
      ∃ release, (reconcile now req).resources.lookup m = some release ∧
        release.kind = "Release" := by
  obtain ⟨c, hgate, rfl, rfl⟩ := lookup_reconcile_iff.mp hr
  rw [forProvider?_manifestKind, Option.map_eq_some_iff] at hkind
  obtain ⟨_, hmanifest, heq⟩ := hkind
  cases heq
  rw [crdReleases_eq hmanifest, List.forall_mem_map]
  intro d hd
  obtain ⟨hopen, hrelease, hdeployed⟩ := gate_waitsFor hgate d hd
  refine ⟨hdeployed, d.composed now req, ?_, ?_⟩
  · exact (lookup_reconcile_component d).mpr ⟨hopen, rfl⟩
  · rw [kind_composed, hrelease]

/-- The root Application of a deployed Argo CD. -/
theorem customResources_follow_app :
    "argocd-release" ∈ crdReleases "Application" ∧
      isReleaseDeployed (argocdIn "deployed").observed "argocd-release" = true := by
  have hrelease : "argocd-release" ∈ crdReleases "Application" := by decide
  let now := "2026-03-02T00:00:00Z"
  let app := Component.argocdApp.composed now (argocdIn "deployed")
  have happ : (reconcile now (argocdIn "deployed")).resources.lookup "argocd-app" = some app :=
    (lookup_reconcile_component .argocdApp).mpr ⟨by decide, rfl⟩
  have hkind : app.forProvider? ["manifest", "kind"] = some (.str "Application") :=
    forProvider?_manifestKind .argocdApp
  exact ⟨hrelease, (customResources_follow happ hkind "argocd-release" hrelease).1⟩

end AzureCtp
