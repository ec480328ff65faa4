import AzureCtp.Library.Staging
import AzureCtp.Regression

/-!
# Staged bootstrap

Provisioning a control plane from nothing: each reconcile observes what the one before
composed, everything in its ideal status. What a gate waits for is a resource that
another component is composed as, so a round composes what opens on the components of
the round before, and the rounds are the stages of that opening. No chain of waits is
longer than four, so the fourth round composes everything the spec asks for.

## Main results

* `Sees.emitted_eq`: what a round composes, from what it sees
* `Bootstrap.emitted_eq_stage`: the rounds are stages
* `bootstrap_completes`: they grow, and are complete from the fourth on
-/

set_option autoImplicit false

namespace AzureCtp

open Component Document Staging

/-! ### What the spec asks for -/

/-- The parts of a control plane that a spec can ask for. -/
inductive Feature where
  | core
  | gateway
  | k8gb
  | argocd
  | backup
  | schedule
  | restore
  | license
  | vpa
  | knative
  | runtimeConfig
  deriving DecidableEq, Repr

/-- The first request for a ControlPlane, with nothing observed. -/
def ControlPlane.request (xr : ControlPlane) : Request where
  composite := xr

/-- Whether the spec asks for the feature. -/
def Feature.requested (xr : ControlPlane) : Feature → Bool
  | core => true
  | gateway => xr.request.k8gbEnabled || xr.request.argocdEnabled
  | k8gb => xr.request.k8gbEnabled
  | argocd => xr.request.argocdEnabled
  | backup => xr.request.backupEnabled
  | schedule => xr.request.backupEnabled && xr.request.backup.schedule.getD "" != ""
  | restore => xr.request.backupEnabled && xr.request.installFrom.isSome
  | license => License.truthy xr.request.licenseParam
  | vpa => xr.request.vpaEnabled
  | knative => xr.request.knativeEnabled
  | runtimeConfig => xr.request.vpaEnabled || xr.request.knativeEnabled

namespace Component

/-- The feature a component belongs to. -/
def feature : Component → Feature
  | network | aks | uxpRelease | usageReleaseAks | usageAksNetwork | certmanagerRelease => .core
  | usageEnvoyGatewayAks | usageEnvoyProxyConfigAks | usageGatewayClassAks
  | envoyGatewayRelease | envoyProxyConfig | gatewayClass => .gateway
  | usageK8gbAks | usageK8gbCorednsAks | usageK8gbIpRelease | usageK8gbIpRoleRelease
  | k8gbIp | k8gbIpRole | k8gbRelease | k8gbCorednsObserve => .k8gb
  | usageArgocdAks | usageArgocdIssuerAks | usageArgocdCertAks | usageArgocdGatewayAks
  | usageArgocdHttprouteAks | usageArgocdAppAks | argocdRelease | argocdGateway
  | argocdHttproute | argocdIssuer | argocdCert | argocdApp => .argocd
  | backupStorageAccount | backupContainer | backupConfig | backupRbac | backupRbacBinding
  | backupIdentity | backupFederation | backupRole | backupSa | controllerRestart => .backup
  | backupSchedule => .schedule
  | backupRestore => .restore
  | uxpLicenseSecret | uxpLicense => .license
  | vpaRelease => .vpa
  | knativeOperatorRelease | knativeServingNs | knativeServingCr => .knative
  | upboundRuntimeConfig => .runtimeConfig

/-- The components of the requested features. -/
def wanted (xr : ControlPlane) : Set Component := {c | c.feature.requested xr = true}

end Component

/-- A request without a license conflict, whose `installFrom` can be restored from. -/
structure Request.Unblocked (req : Request) : Prop where
  free : req.licenseConflict = ""
  restorable : ∀ source, req.installFrom = some source → restorable (some source) = true

theorem restorable_eq_isSome {req : Request} (h : req.Unblocked) :
    restorable req.installFrom = req.installFrom.isSome := by
  cases hfrom : req.installFrom with
  | none => rfl
  | some source => exact h.restorable source hfrom

theorem licenseClaim_isSome_eq {req : Request} (h : req.Unblocked) :
    req.licenseClaim.isSome = License.truthy req.licenseParam := by
  cases htruthy : License.truthy req.licenseParam with
  | false => rw [licenseClaim_of_not_truthy (by simp [htruthy])]; rfl
  | true =>
    rw [licenseClaim_of_free htruthy h.free]
    cases hparam : req.licenseParam with
    | none => rw [hparam] at htruthy; cases htruthy
    | some lic => rfl

/-- The gate of a component, from the requested features and the signals. -/
theorem gate_iff_wanted {req : Request} (h : req.Unblocked) (c : Component) :
    c.gate req.gates = true ↔ c ∈ wanted req.composite ∧ c.ready req = true := by
  have hclaim := licenseClaim_isSome_eq h
  have hrestore := restorable_eq_isSome h
  rw [gate_eq, Bool.and_eq_true]
  by_cases hc : c = upboundRuntimeConfig
  · subst hc
    simp only [enabled, true_and]
    refine (and_iff_right_of_imp fun hready => ?_).symm
    simp only [ready, Bool.or_eq_true, Bool.and_eq_true] at hready
    exact Bool.or_eq_true_iff.mpr (hready.imp And.left And.left)
  · refine and_congr_left fun _ => ?_
    have henabled : c.enabled req = c.feature.requested req.composite := by
      cases c <;> first
        | rfl
        | exact hclaim
        | exact congrArg (req.backupEnabled && ·) hrestore
        | exact absurd rfl hc
    rw [henabled]
    rfl

/-! ### What opens on what -/

/-- The component whose observed status carries the signal. -/
def Signal.source : Signal → Component
  | uxpDeployed => .uxpRelease
  | oidcIssuer | clusterPrincipalId => .aks
  | principalId => .backupIdentity
  | storageAccountId => .backupStorageAccount
  | gatewayDeployed => .envoyGatewayRelease
  | certmanagerDeployed => .certmanagerRelease
  | argocdDeployed => .argocdRelease
  | operatorDeployed => .knativeOperatorRelease
  | servingReady => .knativeServingCr
  | vpaDeployed => .vpaRelease
  | licensed => .uxpLicense
  | k8gbIpId => .k8gbIp

/-- The signal shows when exactly the components of `T` are observed. Without a license
nothing waits for one. -/
def Signal.Shown (xr : ControlPlane) (T : Set Component) (s : Signal) : Prop :=
  s.source ∈ T ∨ s = licensed ∧ License.truthy xr.request.licenseParam = false

namespace Component

/-- The signals that show let the component through. -/
def Served (xr : ControlPlane) (T : Set Component) : Component → Prop
  | upboundRuntimeConfig =>
      (xr.request.vpaEnabled = true ∧ Signal.vpaDeployed.Shown xr T) ∨
        (xr.request.knativeEnabled = true ∧
          ∀ s ∈ [Signal.certmanagerDeployed, .operatorDeployed, .servingReady], s.Shown xr T)
  | c => ∀ s ∈ c.waits, s.Shown xr T

theorem served_eq {c : Component} (hc : c ≠ upboundRuntimeConfig) (xr : ControlPlane)
    (T : Set Component) : c.Served xr T = ∀ s ∈ c.waits, s.Shown xr T := by
  cases c <;> first | rfl | exact absurd rfl hc

/-- The requested components that open on `T`. -/
def opens (xr : ControlPlane) (T : Set Component) : Set Component :=
  {c | c ∈ wanted xr ∧ c.Served xr T}

theorem opens_mono (xr : ControlPlane) : Monotone (opens xr) := by
  intro S T hST c hc
  have hshown : ∀ s : Signal, s.Shown xr S → s.Shown xr T := fun s hs => hs.imp_left (@hST _)
  refine ⟨hc.1, ?_⟩
  have hserved := hc.2
  by_cases hruntime : c = upboundRuntimeConfig
  · subst hruntime
    exact hserved.imp (And.imp_right (hshown _))
      (And.imp_right fun hall s hs => hshown s (hall s hs))
  · rw [served_eq hruntime] at hserved ⊢
    exact fun s hs => hshown s (hserved s hs)

/-- How many components a component waits for, one behind the other. -/
def depth : Component → ℕ
  | envoyProxyConfig | gatewayClass | usageK8gbIpRoleRelease | k8gbIpRole | argocdGateway
  | argocdHttproute | argocdIssuer | argocdCert | argocdApp | backupIdentity | backupFederation
  | backupSa | controllerRestart | backupRestore | vpaRelease | knativeOperatorRelease => 1
  | backupRole | knativeServingNs | knativeServingCr => 2
  | upboundRuntimeConfig => 3
  | _ => 0

theorem depth_le (c : Component) : c.depth ≤ 3 := by
  cases c <;> decide

/-- Every wait is for a component of smaller depth and the same feature, or of one that
the feature brings along. -/
theorem waits_source : ∀ c ∈ all, ∀ s ∈ c.waits, s.source.depth < c.depth ∧
    (s = .licensed ∨ s.source.feature ∈ [.core, c.feature] ∨
      (c.feature = .argocd ∧ s.source.feature = .gateway)) := by
  decide

theorem core_wanted {xr : ControlPlane} {c : Component} (hc : c.feature = .core) :
    c ∈ wanted xr := by
  change c.feature.requested xr = true
  rw [hc]
  rfl

/-- What a requested component waits for shows once the requested components of smaller
depth are there. -/
theorem shown_of_depth {xr : ControlPlane} {T : Set Component} {c : Component}
    (hc : c ∈ wanted xr) (hT : ∀ d ∈ wanted xr, d.depth < c.depth → d ∈ T) {s : Signal}
    (hs : s ∈ c.waits) : s.Shown xr T := by
  obtain ⟨hdepth, hlicensed | hfeature | ⟨hargocd, hgateway⟩⟩ := waits_source c (mem_all c) s hs
  · subst hlicensed
    cases htruthy : License.truthy xr.request.licenseParam with
    | false => exact Or.inr ⟨rfl, htruthy⟩
    | true => exact Or.inl (hT uxpLicense htruthy hdepth)
  · refine Or.inl (hT s.source ?_ hdepth)
    rw [List.mem_cons, List.mem_singleton] at hfeature
    rcases hfeature with hcore | hsame
    · exact core_wanted hcore
    · change s.source.feature.requested xr = true
      rw [hsame]
      exact hc
  · refine Or.inl (hT s.source ?_ hdepth)
    change s.source.feature.requested xr = true
    change c.feature.requested xr = true at hc
    rw [hargocd] at hc
    rw [hgateway]
    exact Bool.or_eq_true_iff.mpr (Or.inr hc)

/-- A requested component opens on the requested components of smaller depth. -/
theorem opens_of_depth (xr : ControlPlane) (T : Set Component) :
    ∀ c ∈ wanted xr, (∀ d ∈ wanted xr, d.depth < c.depth → d ∈ T) → c ∈ opens xr T := by
  intro c hc hT
  refine ⟨hc, ?_⟩
  by_cases hruntime : c = upboundRuntimeConfig
  · subst hruntime
    rcases Bool.or_eq_true_iff.mp hc with hvpa | hknative
    · exact Or.inl ⟨hvpa, Or.inl (hT vpaRelease hvpa (by decide))⟩
    · refine Or.inr ⟨hknative, fun s hs => Or.inl (hT s.source ?_ ?_)⟩
      · simp only [List.mem_cons, List.not_mem_nil, or_false] at hs
        rcases hs with rfl | rfl | rfl
        · exact core_wanted rfl
        · exact hknative
        · exact hknative
      · revert s
        decide
  · rw [served_eq hruntime]
    exact fun s hs => shown_of_depth hc hT hs

end Component

/-! ### What a request sees -/

/-- The ideal status of the observed resource of the given name. -/
structure Ideal (n : String) (o : ObservedResource) : Prop where
  synced : hasTrueCondition o.status.conditions "Synced" = true
  ready : hasTrueCondition o.status.conditions "Ready" = true
  release : o.kind = "Release" → o.status.atProvider.state = some "deployed"
  serving : n = "knative-serving-cr" →
    hasTrueCondition o.status.atProvider.manifest.conditions "Ready" = true
  aks : n = "aks" → o.status.aks.oidcUrl.getD "" ≠ "" ∧ o.status.aks.clusterName.getD "" ≠ "" ∧
    o.status.aks.identityPrincipalId.getD "" ≠ ""
  identity : n = "backup-identity" → o.status.atProvider.clientId.getD "" ≠ "" ∧
    o.status.atProvider.principalId.getD "" ≠ ""
  account : n = "backup-storage-account" → o.status.atProvider.id.getD "" ≠ ""
  ip : n = "k8gb-ip" → o.status.atProvider.id.getD "" ≠ "" ∧
    o.status.atProvider.ipAddress.getD "" ≠ ""

/-- The request observes exactly the components of `T`, each in its ideal status. -/
structure Sees (req : Request) (T : Set Component) : Prop where
  mem_iff : ∀ c : Component, c.name ∈ req.observed ↔ c ∈ T
  kind_eq : ∀ (c : Component) (o : ObservedResource),
    req.observed.lookup c.name = some o → o.kind = c.kind
  ideal : ∀ n o, req.observed.lookup n = some o → Ideal n o

namespace Sees

variable {req : Request} {T : Set Component}

theorem of_empty (hempty : req.observed = ∅) : Sees req ∅ where
  mem_iff c := by
    rw [hempty]
    exact ⟨fun hmem => absurd hmem (AList.notMem_empty c.name), fun hmem => absurd hmem id⟩
  kind_eq c o ho := by
    rw [hempty, AList.lookup_empty] at ho
    cases ho
  ideal n o ho := by
    rw [hempty, AList.lookup_empty] at ho
    cases ho

/-- A status field that is never empty in the ideal status is read exactly when its
component is there. -/
theorem readStatus_ne_iff (hsees : Sees req T) (c : Component)
    {field : ResourceStatus → Option String}
    (hfield : ∀ o : ObservedResource, o.kind = c.kind → Ideal c.name o →
      (field o.status).getD "" ≠ "") :
    readStatus req.observed c.name field ≠ "" ↔ c ∈ T := by
  rw [← hsees.mem_iff, ← AList.lookup_isSome, readStatus]
  cases ho : req.observed.lookup c.name with
  | none => simp
  | some o => simpa using hfield o (hsees.kind_eq c o ho) (hsees.ideal c.name o ho)

/-- A Release is deployed exactly when it is there. -/
theorem deployed_iff (hsees : Sees req T) (c : Component) (hkind : c.kind = "Release") :
    isReleaseDeployed req.observed c.name = true ↔ c ∈ T := by
  rw [isReleaseDeployed, beq_iff_eq, ← hsees.mem_iff, ← AList.lookup_isSome, readStatus]
  cases ho : req.observed.lookup c.name with
  | none => simp
  | some o =>
    simp [(hsees.ideal c.name o ho).release ((hsees.kind_eq c o ho).trans hkind)]

theorem licenseApplied_iff (hsees : Sees req T) : req.licenseApplied = true ↔ uxpLicense ∈ T := by
  rw [← hsees.mem_iff, ← AList.lookup_isSome, Request.licenseApplied, isLicenseApplied, name]
  cases ho : req.observed.lookup "uxp-license" with
  | none => simp
  | some o => simp [(hsees.ideal "uxp-license" o ho).ready]

theorem servingReady_iff (hsees : Sees req T) :
    req.knativeServingReady = true ↔ Component.knativeServingCr ∈ T := by
  rw [← hsees.mem_iff, ← AList.lookup_isSome, Request.knativeServingReady,
    isKnativeServingReady, name]
  cases ho : req.observed.lookup "knative-serving-cr" with
  | none => simp
  | some o => simp [(hsees.ideal "knative-serving-cr" o ho).serving rfl]

theorem oidcIssuerUrl_eq (hbackup : req.backupEnabled = true) :
    req.oidcIssuerUrl = readStatus req.observed "aks" fun status => status.aks.oidcUrl := by
  have henabled : req.backup.enabled = some "yes" := beq_iff_eq.mp hbackup
  simp [Request.oidcIssuerUrl, extractOidcInfo, henabled]

/-- A signal shows exactly when its source is there. The OIDC issuer is read with backup
only, and the ids of the reserved IP and of the cluster with k8gb only. -/
theorem signal_iff (hsees : Sees req T) (s : Signal)
    (hbackup : s = .oidcIssuer → req.backupEnabled = true)
    (hk8gb : s = .k8gbIpId ∨ s = .clusterPrincipalId → req.k8gbEnabled = true) :
    req.signal s = true ↔ s.Shown req.composite T := by
  have hshown : s ≠ .licensed → (s.Shown req.composite T ↔ s.source ∈ T) := by
    intro hne
    simp [Signal.Shown, hne]
  cases s with
  | licensed =>
    -- the one signal that can be there without its source
    simp only [Request.signal, Request.featuresLicensed, Bool.or_eq_true, Bool.not_eq_true',
      hsees.licenseApplied_iff, Signal.Shown, true_and]
    exact or_comm
  | uxpDeployed => exact (hsees.deployed_iff .uxpRelease rfl).trans (hshown (by decide)).symm
  | gatewayDeployed =>
    exact (hsees.deployed_iff .envoyGatewayRelease rfl).trans (hshown (by decide)).symm
  | certmanagerDeployed =>
    exact (hsees.deployed_iff .certmanagerRelease rfl).trans (hshown (by decide)).symm
  | argocdDeployed =>
    exact (hsees.deployed_iff .argocdRelease rfl).trans (hshown (by decide)).symm
  | operatorDeployed =>
    exact (hsees.deployed_iff .knativeOperatorRelease rfl).trans (hshown (by decide)).symm
  | vpaDeployed => exact (hsees.deployed_iff .vpaRelease rfl).trans (hshown (by decide)).symm
  | servingReady => exact hsees.servingReady_iff.trans (hshown (by decide)).symm
  | principalId =>
    rw [Request.signal, bne_iff_ne, Request.principalId, getWorkloadIdentityPrincipalId,
      hshown (by decide)]
    exact hsees.readStatus_ne_iff .backupIdentity fun _ _ hideal => (hideal.identity rfl).2
  | storageAccountId =>
    rw [Request.signal, bne_iff_ne, Request.storageAccountId, getStorageAccountId,
      hshown (by decide)]
    exact hsees.readStatus_ne_iff .backupStorageAccount fun _ _ hideal => hideal.account rfl
  | oidcIssuer =>
    rw [Request.signal, bne_iff_ne, oidcIssuerUrl_eq (hbackup rfl), hshown (by decide)]
    exact hsees.readStatus_ne_iff .aks fun _ _ hideal => (hideal.aks rfl).1
  | k8gbIpId =>
    rw [Request.signal, bne_iff_ne, Request.k8gbPublicIpId, if_pos (hk8gb (Or.inl rfl)),
      hshown (by decide)]
    exact hsees.readStatus_ne_iff .k8gbIp fun _ _ hideal => (hideal.ip rfl).1
  | clusterPrincipalId =>
    rw [Request.signal, bne_iff_ne, Request.k8gbClusterPrincipalId,
      if_pos (hk8gb (Or.inr rfl)), hshown (by decide)]
    exact hsees.readStatus_ne_iff .aks fun _ _ hideal => (hideal.aks rfl).2.2

/-- Where the OIDC issuer is waited for, backup is on. -/
theorem backupEnabled_of_waits {c : Component} (hc : c ∈ wanted req.composite)
    (hs : .oidcIssuer ∈ c.waits) : req.backupEnabled = true := by
  have hfeature : ∀ c ∈ all, .oidcIssuer ∈ c.waits → c.feature ∈ [.backup, .restore] := by
    decide
  have hmem := hfeature c (mem_all c) hs
  change c.feature.requested req.composite = true at hc
  rw [List.mem_cons, List.mem_singleton] at hmem
  rcases hmem with heq | heq
  · rw [heq] at hc
    exact hc
  · rw [heq] at hc
    exact (Bool.and_eq_true_iff.mp hc).1

/-- Where the id of the reserved IP or of the cluster is waited for, k8gb is on. -/
theorem k8gbEnabled_of_waits {c : Component} (hc : c ∈ wanted req.composite)
    (hs : .k8gbIpId ∈ c.waits ∨ .clusterPrincipalId ∈ c.waits) : req.k8gbEnabled = true := by
  have hfeature : ∀ c ∈ all, .k8gbIpId ∈ c.waits ∨ .clusterPrincipalId ∈ c.waits →
      c.feature = .k8gb := by
    decide
  change c.feature.requested req.composite = true at hc
  rw [hfeature c (mem_all c) hs] at hc
  exact hc

/-- What a requested component waits for shows in the request exactly when it is there. -/
theorem ready_iff (hsees : Sees req T) {c : Component} (hc : c ∈ wanted req.composite) :
    c.ready req = true ↔ c.Served req.composite T := by
  by_cases hruntime : c = upboundRuntimeConfig
  · subst hruntime
    have hsignal : ∀ s ∈ [Signal.vpaDeployed, .certmanagerDeployed, .operatorDeployed,
        .servingReady], (req.signal s = true ↔ s.Shown req.composite T) := by
      intro s hs
      refine hsees.signal_iff s ?_ ?_
      · rintro rfl
        exact absurd hs (by decide)
      · rintro (rfl | rfl) <;> exact absurd hs (by decide)
    simp only [ready, Served, Bool.or_eq_true, Bool.and_eq_true, List.all_eq_true]
    refine or_congr (and_congr_right fun _ => hsignal _ (by decide))
      (and_congr_right fun _ => forall₂_congr fun s hs => hsignal s ?_)
    exact List.mem_cons_of_mem _ hs
  · rw [ready_eq hruntime, served_eq hruntime, List.all_eq_true]
    refine forall₂_congr fun s hs => hsees.signal_iff s ?_ ?_
    · rintro rfl
      exact backupEnabled_of_waits hc hs
    · rintro (rfl | rfl)
      · exact k8gbEnabled_of_waits hc (Or.inl hs)
      · exact k8gbEnabled_of_waits hc (Or.inr hs)

end Sees

/-- The components of a response. -/
def emitted (rsp : Response) : Set Component := {c | c.name ∈ rsp.resources}

/-- A round composes what opens on what it sees. -/
theorem Sees.emitted_eq {req : Request} {T : Set Component} (hsees : Sees req T)
    (hunblocked : req.Unblocked) (now : String) :
    emitted (reconcile now req) = opens req.composite T := by
  ext c
  change c.name ∈ (reconcile now req).resources ↔ c ∈ wanted req.composite ∧ _
  rw [mem_reconcile_component, gate_iff_wanted hunblocked]
  exact and_congr_right hsees.ready_iff

/-! ### The bootstrap -/

/-- The next observed state: exactly the resources the response composes, each in its
ideal status. -/
structure ObservesIdeal (rsp : Response) (observed : Observed) : Prop where
  same : ∀ n, (observed.lookup n).map ObservedResource.toResource = rsp.resources.lookup n
  ideal : ∀ n o, observed.lookup n = some o → Ideal n o

theorem ObservesIdeal.sees {now : String} {req next : Request}
    (h : ObservesIdeal (reconcile now req) next.observed) :
    Sees next (emitted (reconcile now req)) where
  mem_iff c := by
    change _ ↔ c.name ∈ (reconcile now req).resources
    rw [← AList.lookup_isSome, ← AList.lookup_isSome, ← h.same, Option.isSome_map]
  kind_eq c o ho := by
    have hsame := h.same c.name
    rw [ho, Option.map_some] at hsame
    have hkind : (c.composed now req).kind = c.kind := kind_composed c
    rw [← hkind, ((lookup_reconcile_component c).mp hsame.symm).2]
  ideal := h.ideal

/-- A bootstrap of a control plane: from nothing, each round observes what the round
before composed, in its ideal status. -/
structure Bootstrap (xr : ControlPlane) (now : ℕ → String) (req : ℕ → Request) : Prop where
  composite : ∀ k, (req k).composite = xr
  start : (req 0).observed = ∅
  next : ∀ k, ObservesIdeal (reconcile (now k) (req k)) (req (k + 1)).observed
  unblocked : ∀ k, (req k).Unblocked

/-- The rounds of a bootstrap are the stages of what opens on what. -/
theorem Bootstrap.emitted_eq_stage {xr : ControlPlane} {now : ℕ → String} {req : ℕ → Request}
    (h : Bootstrap xr now req) (k : ℕ) :
    emitted (reconcile (now k) (req k)) = stage (opens xr) k := by
  induction k with
  | zero => rw [(Sees.of_empty h.start).emitted_eq (h.unblocked 0), h.composite, stage_zero]
  | succ k ih =>
    rw [(h.next k).sees.emitted_eq (h.unblocked (k + 1)), h.composite, ih, stage_succ]

/-- From the fourth round on all that is requested is composed. -/
theorem Bootstrap.emitted_eq_wanted {xr : ControlPlane} {now : ℕ → String} {req : ℕ → Request}
    (h : Bootstrap xr now req) {k : ℕ} (hk : 3 ≤ k) :
    emitted (reconcile (now k) (req k)) = wanted xr := by
  rw [h.emitted_eq_stage]
  exact stage_eq (fun T c hc => hc.1) (opens_of_depth xr) fun c _ => (depth_le c).trans hk

/-- One round later it is observed. -/
theorem Bootstrap.sees_wanted {xr : ControlPlane} {now : ℕ → String} {req : ℕ → Request}
    (h : Bootstrap xr now req) {k : ℕ} (hk : 3 ≤ k) : Sees (req (k + 1)) (wanted xr) :=
  h.emitted_eq_wanted hk ▸ (h.next k).sees

theorem mem_resources_iff_emitted {now : String} {req : Request} {n : String} :
    n ∈ (reconcile now req).resources ↔ ∃ c ∈ emitted (reconcile now req), c.name = n := by
  constructor
  · intro hn
    obtain ⟨c, -, rfl⟩ := mem_reconcile_iff.mp hn
    exact ⟨c, hn, rfl⟩
  · rintro ⟨c, hc, rfl⟩
    exact hc

/-- **Staged bootstrap completes.** From one round to the next no composed name is lost,
and from the fourth round on the composed names are those of the requested features. -/
theorem bootstrap_completes {xr : ControlPlane} {now : ℕ → String} {req : ℕ → Request}
    (h : Bootstrap xr now req) :
    (∀ k, ∀ n ∈ (reconcile (now k) (req k)).resources,
      n ∈ (reconcile (now (k + 1)) (req (k + 1))).resources) ∧
    (∀ k, 3 ≤ k → ∀ n, n ∈ (reconcile (now k) (req k)).resources ↔
      n ∈ (reconcile (now 3) (req 3)).resources) ∧
    ∀ k, 3 ≤ k → ∀ n, n ∈ (reconcile (now k) (req k)).resources ↔
      ∃ c ∈ wanted xr, c.name = n := by
  refine ⟨fun k n hn => ?_, fun k hk n => ?_, fun k hk n => ?_⟩
  · obtain ⟨c, hc, rfl⟩ := mem_resources_iff_emitted.mp hn
    rw [h.emitted_eq_stage] at hc
    have hlater : c ∈ emitted (reconcile (now (k + 1)) (req (k + 1))) := by
      rw [h.emitted_eq_stage]
      exact stage_mono (opens_mono xr) k.le_succ hc
    exact hlater
  · rw [mem_resources_iff_emitted, mem_resources_iff_emitted, h.emitted_eq_wanted hk,
      h.emitted_eq_wanted le_rfl]
  · rw [mem_resources_iff_emitted, h.emitted_eq_wanted hk]

theorem observeIdeal_observesIdeal (rsp : Response) : ObservesIdeal rsp (observeIdeal rsp) where
  same n := by
    rw [lookup_observeIdeal, Option.map_map]
    exact Option.map_id'
  ideal n o ho := by
    rw [lookup_observeIdeal, Option.map_eq_some_iff] at ho
    obtain ⟨r, -, rfl⟩ := ho
    constructor <;> simp [Resource.observedWith, idealStatus, hasTrueCondition]

/-- The requests of a bootstrap without peers. -/
def bootRequest (now : String) (xr : ControlPlane) : ℕ → Request
  | 0 => xr.request
  | k + 1 =>
    { composite := xr
      observed := observeIdeal (reconcile now (bootRequest now xr k)) }

theorem unblocked_without_peers {xr : ControlPlane}
    (hrestore : ∀ source, xr.request.installFrom = some source → restorable (some source) = true)
    (observed : Observed) : ({ composite := xr, observed := observed } : Request).Unblocked where
  free := by simp [Request.licenseConflict, checkLicenseConflict]
  restorable := hrestore

theorem bootRequest_bootstrap (now : String) {xr : ControlPlane}
    (hrestore : ∀ source, xr.request.installFrom = some source →
      restorable (some source) = true) :
    Bootstrap xr (fun _ => now) (bootRequest now xr) where
  composite k := by cases k <;> rfl
  start := rfl
  next k := observeIdeal_observesIdeal (reconcile now (bootRequest now xr k))
  unblocked k := by
    cases k with
    | zero => exact unblocked_without_peers hrestore ∅
    | succ k =>
      exact unblocked_without_peers hrestore (observeIdeal (reconcile now (bootRequest now xr k)))

/-- A control plane with Argo CD. -/
def argocdPlane : ControlPlane where
  parameters :=
    { Parameters.required "cp" "eastus" { count := some 3 } with
      argocd := some { enabled := some "yes", hostname := some "argocd.example.com" } }

/-- Its app-of-apps waits for the Release, and is composed by the fourth round. -/
theorem bootstrap_completes_argocd :
    "argocd-app" ∈ (reconcile "2026-03-01T00:00:00Z"
      (bootRequest "2026-03-01T00:00:00Z" argocdPlane 3)).resources := by
  have hboot : Bootstrap argocdPlane _ _ := bootRequest_bootstrap "2026-03-01T00:00:00Z"
    fun source hsource => by cases hsource
  have hwanted : ∃ c ∈ wanted argocdPlane, c.name = "argocd-app" :=
    ⟨Component.argocdApp, by rfl, by rfl⟩
  obtain ⟨-, -, hfull⟩ := bootstrap_completes hboot
  exact (hfull 3 le_rfl "argocd-app").mpr hwanted

end AzureCtp
