import AzureCtp.Bootstrap
import AzureCtp.Invariance.Statuses

/-!
# Reconciles settle, whatever was observed first

A steady run: the spec, the guard's answer and the geo tags of the peers stay as they are,
and whatever a round composes is observed in the next one with a fixed status. The function
keeps nothing between rounds but what it observes, so the first observed state is forgotten:
no chain of waits is longer than four, and from the fifth round on the response is the same
for every start, and from one round to the next.

## Main results

* `Steady.emitted_eq`: two steady runs compose the same names from the fourth round on
* `steady_histories_agree`: and give the same responses from the fifth on
* `steady_run_settles`: a steady run repeats itself from the fifth round on
* `recovery_completes`: with ideal statuses it is complete, from any start
-/

set_option autoImplicit false

namespace AzureCtp

open Component Document Staging

/-! ### Signals and statuses -/

section Signals

variable {a b : Request}

/-- A signal is read from the status of its source. -/
theorem signal_congr (hparams : a.params = b.params) {s : Signal}
    (hstatus : statuses a.observed s.source.name = statuses b.observed s.source.name) :
    a.signal s = b.signal s := by
  obtain ⟨⟨apiVersion, kind, metadata, parameters, lic⟩, observed, peers⟩ := a
  obtain ⟨⟨apiVersion', kind', metadata', parameters', lic'⟩, observed', peers'⟩ := b
  obtain rfl : parameters = parameters' := hparams
  cases s with
  | uxpDeployed | gatewayDeployed | certmanagerDeployed | argocdDeployed | operatorDeployed
  | vpaDeployed => exact isReleaseDeployed_congr hstatus
  | servingReady => exact isKnativeServingReady_congr hstatus
  | licensed => exact congrArg (_ || ·) (isLicenseApplied_congr hstatus)
  | principalId =>
    exact congrArg (· != "") (readStatus_congr hstatus fun status => status.atProvider.principalId)
  | storageAccountId =>
    exact congrArg (· != "") (readStatus_congr hstatus fun status => status.atProvider.id)
  | oidcIssuer =>
    have hread : ∀ field, readStatus observed "aks" field = readStatus observed' "aks" field :=
      readStatus_congr hstatus
    simp only [Request.signal, Request.oidcIssuerUrl, extractOidcInfo, hread]
    rfl
  | k8gbIpId =>
    have hread : ∀ field, readStatus observed "k8gb-ip" field =
      readStatus observed' "k8gb-ip" field := readStatus_congr hstatus
    simp only [Request.signal, Request.k8gbPublicIpId, extractK8gbPublicIpId, hread]
    rfl
  | clusterPrincipalId =>
    have hread : ∀ field, readStatus observed "aks" field = readStatus observed' "aks" field :=
      readStatus_congr hstatus
    simp only [Request.signal, Request.k8gbClusterPrincipalId, getClusterPrincipalId, hread]
    rfl

/-- What lets a component through is read from components of smaller depth. -/
theorem ready_congr (hparams : a.params = b.params) {c : Component}
    (hsignal : ∀ s : Signal, s.source.depth < c.depth → a.signal s = b.signal s) :
    c.ready a = c.ready b := by
  by_cases hc : c = upboundRuntimeConfig
  · subst hc
    have hserving : ∀ s ∈ [Signal.certmanagerDeployed, .operatorDeployed, .servingReady],
        a.signal s = b.signal s := by
      intro s hs
      refine hsignal s ?_
      revert s
      decide
    have hvpa : a.vpaEnabled = b.vpaEnabled := by rw [Request.vpaEnabled, Request.vpa, hparams]; rfl
    have hknative : a.knativeEnabled = b.knativeEnabled := by
      rw [Request.knativeEnabled, Request.knative, hparams]
      rfl
    simp only [ready, hvpa, hknative, hsignal .vpaDeployed (by decide), List.all_cons,
      List.all_nil, hserving _ List.mem_cons_self,
      hserving .operatorDeployed (by decide), hserving .servingReady (by decide)]
  · rw [ready_eq hc, ready_eq hc, Bool.eq_iff_iff, List.all_eq_true, List.all_eq_true]
    refine forall₂_congr fun s hs => ?_
    rw [hsignal s (waits_source c (mem_all c) s hs).1]

end Signals

/-! ### The claim -/

section Claim

variable {a b : Request}

/-- With one request and one answer of the guard, claims to one Secret are both there or
both absent. -/
theorem claim_isSome_congr (hparam : a.licenseParam = b.licenseParam)
    (hconflict : a.licenseConflict = b.licenseConflict)
    (hsecret : secret? a.licenseClaim = secret? b.licenseClaim) :
    a.licenseClaim.isSome = b.licenseClaim.isSome := by
  by_cases htruthy : License.truthy a.licenseParam = true
  · have htruthy' : License.truthy b.licenseParam = true := hparam ▸ htruthy
    by_cases hfree : a.licenseConflict = ""
    · rw [licenseClaim_of_free htruthy hfree, licenseClaim_of_free htruthy' (hconflict ▸ hfree),
        hparam]
    · -- what is installed names its Secret
      rw [licenseClaim_eq_installed htruthy hfree,
        licenseClaim_eq_installed htruthy' (hconflict ▸ hfree), getInstalledLicense_eq,
        getInstalledLicense_eq] at hsecret ⊢
      rw [← secret?_installed_isSome, ← secret?_installed_isSome, hsecret]
  · rw [licenseClaim_of_not_truthy htruthy, licenseClaim_of_not_truthy (hparam ▸ htruthy)]

end Claim

/-! ### Steady runs -/

/-- A run of rounds with one spec, one answer of the guard and the same geo tags of peers, in
which what a round composes, and nothing else, is observed in the next one, with the status
its name has. What the first round observes is arbitrary, and the peers may change. -/
structure Steady (xr : ControlPlane) (conflict tags : String) (status : String → ResourceStatus)
    (now : ℕ → String) (req : ℕ → Request) : Prop where
  composite : ∀ k, (req k).composite.unrecorded = xr.unrecorded
  conflict : ∀ k, (req k).licenseConflict = conflict
  tags : ∀ k, (req k).k8gbExtGeoTags = tags
  next : ∀ k n, (req (k + 1)).observed.lookup n =
    ((reconcile (now k) (req k)).resources.lookup n).map fun r => r.observedWith (status n)

namespace Steady

variable {xr : ControlPlane} {conflict tags : String}
  {status : String → ResourceStatus} {now now' : ℕ → String} {req req' : ℕ → Request}

/-- A steady run stays one when its first rounds are left out. -/
theorem tail (h : Steady xr conflict tags status now req) :
    Steady xr conflict tags status (fun k => now (k + 1)) (fun k => req (k + 1)) where
  composite k := h.composite (k + 1)
  conflict k := h.conflict (k + 1)
  tags k := h.tags (k + 1)
  next k := h.next (k + 1)

theorem params_eq (h : Steady xr conflict tags status now req) (k : ℕ) :
    (req k).params = xr.parameters := by
  have hparams := congrArg ControlPlane.parameters (h.composite k)
  exact hparams

theorem licenseParam_eq (h : Steady xr conflict tags status now req) (k : ℕ) :
    (req k).licenseParam = xr.parameters.license := by
  rw [Request.licenseParam, h.params_eq]

/-- The status of what was composed one round before. -/
theorem statuses_eq (h : Steady xr conflict tags status now req) (k : ℕ) (n : String) :
    statuses (req (k + 1)).observed n =
      if n ∈ (reconcile (now k) (req k)).resources then some (status n) else none := by
  rw [statuses, h.next]
  cases hlookup : (reconcile (now k) (req k)).resources.lookup n with
  | none => rw [if_neg (AList.lookup_eq_none.mp hlookup)]; rfl
  | some r =>
    rw [if_pos (AList.lookup_isSome.mp (by rw [hlookup]; rfl))]
    rfl

/-- What is installed is what was claimed one round before. -/
theorem installed_eq (h : Steady xr conflict tags status now req) (k : ℕ) :
    getInstalledLicense (req (k + 1)).observed = (secret? (req k).licenseClaim).map fun s =>
      { secretRef := some { name := some s.2, ns := some s.1 } } := by
  have hobject : observedLicenseObject (req (k + 1)).observed =
      (reconcile (now k) (req k)).resources.lookup "uxp-license-secret" := by
    rw [observedLicenseObject, h.next, Option.map_map]
    exact Option.map_id'
  rw [getInstalledLicense_eq, hobject, lookup_licenseObject]
  cases (req k).licenseClaim with
  | none => rfl
  | some claim =>
    rw [Option.map_some, licenseOfObject_orphanPolicy, licenseOfObject_licenseSecret]

section Two

variable (h : Steady xr conflict tags status now req)
  (h' : Steady xr conflict tags status now' req')

include h h'

/-- After a round with claims to one Secret the claims are equal. -/
theorem claim_succ {k : ℕ}
    (hsecret : secret? (req k).licenseClaim = secret? (req' k).licenseClaim) :
    (req (k + 1)).licenseClaim = (req' (k + 1)).licenseClaim := by
  have hparam : (req (k + 1)).licenseParam = (req' (k + 1)).licenseParam := by
    rw [h.licenseParam_eq, h'.licenseParam_eq]
  have hconflict : (req (k + 1)).licenseConflict = (req' (k + 1)).licenseConflict := by
    rw [h.conflict, h'.conflict]
  by_cases htruthy : License.truthy (req (k + 1)).licenseParam = true
  · by_cases hfree : (req (k + 1)).licenseConflict = ""
    · rw [licenseClaim_of_free htruthy hfree,
        licenseClaim_of_free (hparam ▸ htruthy) (hconflict ▸ hfree), hparam]
    · rw [licenseClaim_eq_installed htruthy hfree,
        licenseClaim_eq_installed (hparam ▸ htruthy) (hconflict ▸ hfree), h.installed_eq,
        h'.installed_eq, hsecret]
  · rw [licenseClaim_of_not_truthy htruthy, licenseClaim_of_not_truthy (hparam ▸ htruthy)]

variable (hstart : secret? (req 0).licenseClaim = secret? (req' 0).licenseClaim)

include hstart

theorem secret_eq (k : ℕ) : secret? (req k).licenseClaim = secret? (req' k).licenseClaim := by
  induction k with
  | zero => exact hstart
  | succ k ih => rw [h.claim_succ h' ih]

theorem enabled_eq (k : ℕ) (c : Component) : c.enabled (req k) = c.enabled (req' k) := by
  have hparams : (req k).params = (req' k).params := by rw [h.params_eq, h'.params_eq]
  have hclaim := claim_isSome_congr (by rw [h.licenseParam_eq, h'.licenseParam_eq])
    (by rw [h.conflict, h'.conflict]) (h.secret_eq h' hstart k)
  exact Bool.eq_iff_iff.mpr ⟨enabled_mono hparams fun hsome => hclaim ▸ hsome,
    enabled_mono hparams.symm fun hsome => hclaim ▸ hsome⟩

/-- A component is composed in both runs or in neither when its signals agree. -/
theorem emitted_iff {k : ℕ} {c : Component} (hsignal : ∀ s : Signal, s.source.depth < c.depth →
      (req k).signal s = (req' k).signal s) :
    c ∈ emitted (reconcile (now k) (req k)) ↔ c ∈ emitted (reconcile (now' k) (req' k)) := by
  have hparams : (req k).params = (req' k).params := by rw [h.params_eq, h'.params_eq]
  change c.name ∈ (reconcile (now k) (req k)).resources ↔
    c.name ∈ (reconcile (now' k) (req' k)).resources
  rw [mem_reconcile_component, mem_reconcile_component, gate_eq, gate_eq,
    h.enabled_eq h' hstart k c, ready_congr hparams hsignal]

/-- From the fourth round on the two runs compose the same components. -/
theorem emitted_eq {k : ℕ} (hk : 3 ≤ k) :
    emitted (reconcile (now k) (req k)) = emitted (reconcile (now' k) (req' k)) := by
  refine @eq_of_rank_le _ depth (fun k => emitted (reconcile (now k) (req k)))
    (fun k => emitted (reconcile (now' k) (req' k))) ?_ ?_ 3 k depth_le hk
  · intro c hzero
    refine h.emitted_iff h' hstart fun s hlt => ?_
    rw [hzero] at hlt
    exact absurd hlt (Nat.not_lt_zero _)
  · intro k c hsmaller
    refine h.emitted_iff h' hstart fun s hlt => signal_congr ?_ ?_
    · rw [h.params_eq, h'.params_eq]
    · have hsource : s.source.name ∈ (reconcile (now k) (req k)).resources ↔
        s.source.name ∈ (reconcile (now' k) (req' k)).resources := hsmaller s.source hlt
      simp only [h.statuses_eq, h'.statuses_eq, hsource]

/-- From the fifth round on they see the same statuses. -/
theorem sameStatuses {k : ℕ} (hk : 4 ≤ k) : SameStatuses (req k) (req' k) := by
  obtain ⟨j, rfl⟩ : ∃ j, k = j + 1 := ⟨k - 1, by omega⟩
  have hemitted := h.emitted_eq h' hstart (k := j) (by omega)
  refine ⟨?_, ?_, ?_, h.claim_succ h' (h.secret_eq h' hstart j), ?_⟩
  · rw [h.composite, h'.composite]
  · rw [h.tags, h'.tags]
  · rw [h.conflict, h'.conflict]
  · funext n
    have hmem : n ∈ (reconcile (now j) (req j)).resources ↔
        n ∈ (reconcile (now' j) (req' j)).resources := by
      rw [mem_resources_iff_emitted, mem_resources_iff_emitted, hemitted]
    simp only [h.statuses_eq, h'.statuses_eq, hmem]

/-- So they give the same responses, up to stamps. -/
theorem sameUpToStamps {k : ℕ} (hk : 4 ≤ k) :
    SameUpToStamps (reconcile (now k) (req k)) (reconcile (now' k) (req' k)) := by
  rw [reconcile_eq_of_statuses (h.sameStatuses h' hstart hk)]
  exact sameUpToStamps_now _ _ _

end Two

/-- The claim of a steady run names one Secret throughout. -/
theorem secret_succ (h : Steady xr conflict tags status now req) :
    secret? (req 1).licenseClaim = secret? (req 0).licenseClaim := by
  have hparam : (req 1).licenseParam = (req 0).licenseParam := by
    rw [h.licenseParam_eq, h.licenseParam_eq]
  have hconflict : (req 1).licenseConflict = (req 0).licenseConflict := by
    rw [h.conflict, h.conflict]
  by_cases htruthy : License.truthy (req 0).licenseParam = true
  · by_cases hfree : (req 0).licenseConflict = ""
    · rw [licenseClaim_of_free htruthy hfree,
        licenseClaim_of_free (hparam ▸ htruthy) (hconflict ▸ hfree), hparam]
    · rw [licenseClaim_eq_installed (hparam ▸ htruthy) (hconflict ▸ hfree), h.installed_eq]
      cases hsecret : secret? (req 0).licenseClaim with
      | none => rfl
      | some s =>
        obtain ⟨-, hname⟩ := secret?_eq_some_iff.mp hsecret
        exact secret?_eq_some_iff.mpr ⟨rfl, hname⟩
  · rw [licenseClaim_of_not_truthy htruthy, licenseClaim_of_not_truthy (hparam ▸ htruthy)]

/-- From the fifth round on each round gives the response of the fifth. -/
theorem sameUpToStamps_fifth (h : Steady xr conflict tags status now req) {k : ℕ} (hk : 4 ≤ k) :
    SameUpToStamps (reconcile (now k) (req k)) (reconcile (now 4) (req 4)) := by
  induction k, hk using Nat.le_induction with
  | base => exact sameUpToStamps_now _ _ _
  | succ k hk ih => exact (h.tail.sameUpToStamps h h.secret_succ hk).trans ih

end Steady

section Main

variable {xr : ControlPlane} {conflict tags : String}
  {status : String → ResourceStatus} {now now' : ℕ → String} {req req' : ℕ → Request}

/-- **The start is forgotten.** Two steady runs of one control plane whose first rounds claim
the same license Secret, and observe anything else, compose the same names from the fourth
round on and give the same responses, up to stamps, from the fifth round on. -/
theorem steady_histories_agree (h : Steady xr conflict tags status now req)
    (h' : Steady xr conflict tags status now' req')
    (hstart : secret? (req 0).licenseClaim = secret? (req' 0).licenseClaim) :
    (∀ k, 3 ≤ k → ∀ n, n ∈ (reconcile (now k) (req k)).resources ↔
      n ∈ (reconcile (now' k) (req' k)).resources) ∧
    ∀ k, 4 ≤ k → SameUpToStamps (reconcile (now k) (req k)) (reconcile (now' k) (req' k)) := by
  refine ⟨fun k hk n => ?_, fun k hk => h.sameUpToStamps h' hstart hk⟩
  rw [mem_resources_iff_emitted, mem_resources_iff_emitted, h.emitted_eq h' hstart hk]

/-- **A steady run settles.** From the fifth round on any two responses are the same, up to
stamps: nothing is composed and dropped by turns. -/
theorem steady_run_settles (h : Steady xr conflict tags status now req) {j k : ℕ} (hj : 4 ≤ j)
    (hk : 4 ≤ k) : SameUpToStamps (reconcile (now j) (req j)) (reconcile (now k) (req k)) :=
  (h.sameUpToStamps_fifth hj).trans (h.sameUpToStamps_fifth hk).symm

end Main

/-- The requests of a run without peers that starts from an observed state. -/
def resumedRequest (start : Observed) (now : String) (xr : ControlPlane) : ℕ → Request
  | 0 => { composite := xr, observed := start }
  | k + 1 =>
    { composite := xr
      observed := observeIdeal (reconcile now (resumedRequest start now xr k)) }

theorem resumedRequest_steady (start : Observed) (now : String) (xr : ControlPlane) :
    Steady xr "" "" (fun _ => idealStatus) (fun _ => now) (resumedRequest start now xr) where
  composite k := by cases k <;> rfl
  conflict k := by
    cases k <;> simp [Request.licenseConflict, checkLicenseConflict, resumedRequest]
  tags k := by
    cases k <;> simp [Request.k8gbExtGeoTags, deriveK8gbExtGeoTags, resumedRequest]
  next k n := lookup_observeIdeal _ n

/-- What is observed while the Argo CD Release has failed. -/
def failedObserved : Observed := (argocdIn "failed").observed

/-- A run that starts there agrees with one that starts from nothing. -/
theorem steady_histories_agree_argocd :
    SameUpToStamps
      (reconcile "2026-03-01T00:00:00Z"
        (resumedRequest failedObserved "2026-03-01T00:00:00Z" argocdPlane 4))
      (reconcile "2026-03-02T00:00:00Z" (resumedRequest ∅ "2026-03-02T00:00:00Z" argocdPlane 4)) :=
  (steady_histories_agree (resumedRequest_steady failedObserved "2026-03-01T00:00:00Z" argocdPlane)
    (resumedRequest_steady ∅ "2026-03-02T00:00:00Z" argocdPlane) rfl).2 4 le_rfl

/-- It settles. -/
theorem steady_run_settles_argocd :
    SameUpToStamps
      (reconcile "2026-03-01T00:00:00Z"
        (resumedRequest failedObserved "2026-03-01T00:00:00Z" argocdPlane 7))
      (reconcile "2026-03-01T00:00:00Z"
        (resumedRequest failedObserved "2026-03-01T00:00:00Z" argocdPlane 4)) :=
  steady_run_settles (resumedRequest_steady failedObserved "2026-03-01T00:00:00Z" argocdPlane)
    (by decide) (by decide)

/-! ### Recovery -/

/-- A run that starts from any observed state and from then on observes what the round
before composed, in its ideal status. -/
structure Recovery (xr : ControlPlane) (now : ℕ → String) (req : ℕ → Request) : Prop where
  composite : ∀ k, (req k).composite = xr
  next : ∀ k, ObservesIdeal (reconcile (now k) (req k)) (req (k + 1)).observed
  unblocked : ∀ k, (req k).Unblocked

section Recovery

variable {xr : ControlPlane} {now : ℕ → String} {req : ℕ → Request}

theorem ready_of_depth_eq_zero {c : Component} (hzero : c.depth = 0) (req : Request) :
    c.ready req = true := by
  have hwaits : ∀ c ∈ all, c.depth = 0 → c ≠ upboundRuntimeConfig ∧ c.waits = [] := by decide
  obtain ⟨hne, hnil⟩ := hwaits c (mem_all c) hzero
  rw [ready_eq hne, hnil]
  rfl

/-- From the fourth round on all that is requested is composed. -/
theorem Recovery.emitted_eq (h : Recovery xr now req) {k : ℕ} (hk : 3 ≤ k) :
    emitted (reconcile (now k) (req k)) = wanted xr := by
  refine @eq_of_rank_le _ depth (fun k => emitted (reconcile (now k) (req k)))
    (fun _ => wanted xr) ?_ ?_ 3 k depth_le hk
  · intro c hzero
    change c.name ∈ (reconcile (now 0) (req 0)).resources ↔ c ∈ wanted xr
    rw [mem_reconcile_component, gate_iff_wanted (h.unblocked 0), h.composite]
    exact and_iff_left (ready_of_depth_eq_zero hzero (req 0))
  · intro k c hsmaller
    have hopens := (h.next k).sees.emitted_eq (h.unblocked (k + 1)) (now (k + 1))
    rw [h.composite] at hopens
    change c ∈ emitted (reconcile (now (k + 1)) (req (k + 1))) ↔ c ∈ wanted xr
    rw [hopens]
    exact ⟨And.left, fun hc => opens_of_depth xr _ c hc fun d hd hlt => (hsmaller d hlt).mpr hd⟩

/-- **Recovery completes.** Whatever is observed at first, a control plane whose composed
resources then get their ideal status composes everything its spec asks for from the fourth
round on, and from the fifth round on it is reported as ready, with everything composed
observed as ready. -/
theorem recovery_completes (h : Recovery xr now req) :
    (∀ k, 3 ≤ k → ∀ n, n ∈ (reconcile (now k) (req k)).resources ↔
      ∃ c ∈ wanted xr, c.name = n) ∧
    ∀ k, 4 ≤ k → ReportsReady (reconcile (now k) (req k)) ∧
      ∀ n ∈ (reconcile (now k) (req k)).resources,
        ∃ o, (req k).observed.lookup n = some o ∧ o.ready = true := by
  refine ⟨fun k hk n => ?_, fun k hk => ?_⟩
  · rw [mem_resources_iff_emitted, h.emitted_eq hk]
  · obtain ⟨j, rfl⟩ : ∃ j, k = j + 1 := ⟨k - 1, by omega⟩
    have hcore : "network" ∈ (reconcile (now j) (req j)).resources :=
      (mem_reconcile_component .network).mpr rfl
    refine ⟨reportsReady_iff.mpr ((h.next j).allHealthy hcore), fun n hn => ?_⟩
    -- what is composed now was composed one round before
    have hbefore := h.emitted_eq (show 3 ≤ j by omega)
    rw [mem_resources_iff_emitted, h.emitted_eq (by omega), ← hbefore,
      ← mem_resources_iff_emitted, ← AList.lookup_isSome, ← (h.next j).same, Option.isSome_map,
      Option.isSome_iff_exists] at hn
    obtain ⟨o, ho⟩ := hn
    exact ⟨o, ho, ((h.next j).ideal n o ho).ready⟩

end Recovery

theorem resumedRequest_recovery (start : Observed) (now : String) {xr : ControlPlane}
    (hrestore : ∀ source, xr.request.installFrom = some source →
      restorable (some source) = true) :
    Recovery xr (fun _ => now) (resumedRequest start now xr) where
  composite k := by cases k <;> rfl
  next k := observeIdeal_observesIdeal (reconcile now (resumedRequest start now xr k))
  unblocked k := by
    cases k with
    | zero => exact unblocked_without_peers hrestore start
    | succ k => exact unblocked_without_peers hrestore (observeIdeal _)

/-- After the failed Release has recovered, the app-of-apps is composed again and the control
plane is ready. -/
theorem recovery_completes_argocd :
    "argocd-app" ∈ (reconcile "2026-03-01T00:00:00Z"
      (resumedRequest failedObserved "2026-03-01T00:00:00Z" argocdPlane 3)).resources ∧
    ReportsReady (reconcile "2026-03-01T00:00:00Z"
      (resumedRequest failedObserved "2026-03-01T00:00:00Z" argocdPlane 4)) := by
  have hrun : Recovery argocdPlane _ _ :=
    resumedRequest_recovery failedObserved "2026-03-01T00:00:00Z" fun source hsource => by
      cases hsource
  have hwanted : ∃ c ∈ wanted argocdPlane, c.name = "argocd-app" :=
    ⟨Component.argocdApp, by rfl, by rfl⟩
  obtain ⟨hfull, hready⟩ := recovery_completes hrun
  exact ⟨(hfull 3 le_rfl "argocd-app").mpr hwanted, (hready 4 le_rfl).1⟩

end AzureCtp
