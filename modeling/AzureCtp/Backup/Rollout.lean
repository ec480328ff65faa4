import AzureCtp.Components

/-!
# The controller rollout and its identity annotation

Workload Identity needs the client id annotated on the controller's ServiceAccount
before the controller Deployment is rolled. Both are composed from the same gate, but
the annotation also waits for Azure to assign the client id and the rollout does not.
The rollout's manifest is a constant, so a rollout that came too early is not repeated.

## Main results

* `rolledWithIdentity_iff`: when a composed rollout finds its annotation
* `rollout_after_annotation`: the same over runs, where the rollout fires at most once
-/

set_option autoImplicit false

namespace AzureCtp

open Component Document

/-- The client id annotated on the composed ServiceAccount. -/
def saClientId (rsp : Response) : Option Value :=
  rsp.at? "backup-sa" ["manifest", "metadata", "annotations", "azure.workload.identity/client-id"]

/-- A composed rollout comes with the observed identity's client id. -/
def RolledWithIdentity (now : String) (req : Request) : Prop :=
  "controller-restart" ∈ (reconcile now req).resources →
    req.clientId ≠ "" ∧ saClientId (reconcile now req) = some (.str req.clientId)

/-- The client id is known, or nothing of Workload Identity is composed yet. -/
def Request.IdentityKnown (req : Request) : Prop :=
  req.clientId ≠ "" ∨
    ¬ (req.backupEnabled = true ∧ req.oidcIssuerUrl ≠ "" ∧ req.uxpDeployed = true)

variable {now : String} {req : Request}

theorem mem_controllerRestart :
    "controller-restart" ∈ (reconcile now req).resources ↔
      req.backupEnabled = true ∧ req.oidcIssuerUrl ≠ "" ∧ req.uxpDeployed = true := by
  refine (mem_reconcile_component .controllerRestart).trans ?_
  simp [gate, Request.gates]

/-- The ServiceAccount and the rollout are composed together. -/
theorem mem_backupSa :
    "backup-sa" ∈ (reconcile now req).resources ↔
      "controller-restart" ∈ (reconcile now req).resources :=
  (mem_reconcile_component .backupSa).trans (mem_reconcile_component .controllerRestart).symm

theorem backupSa_annotation (idVal clientId key : String) (config : Config) :
    (AzureCtp.backupSa idVal clientId config).forProvider?
      ["manifest", "metadata", "annotations", key] = (saAnnotations clientId).get? key := by
  change ((saAnnotations clientId).get? key).bind _ = _
  simp

theorem saAnnotations_clientId (clientId : String) :
    (saAnnotations clientId).get? "azure.workload.identity/client-id" =
      if clientId ≠ "" then some (.str clientId) else none := by
  unfold saAnnotations
  split_ifs <;> rfl

theorem saClientId_reconcile
    (hrestart : "controller-restart" ∈ (reconcile now req).resources) :
    saClientId (reconcile now req) =
      if req.clientId ≠ "" then some (.str req.clientId) else none := by
  have hgate := (mem_reconcile_component .backupSa).mp (mem_backupSa.mpr hrestart)
  refine (at?_reconcile .backupSa _).trans ?_
  rw [if_pos hgate, ← saAnnotations_clientId]
  exact backupSa_annotation _ _ _ _

/-- A composed rollout finds its annotation exactly when the client id is known. -/
theorem rolledWithIdentity_iff : RolledWithIdentity now req ↔ req.IdentityKnown := by
  unfold Request.IdentityKnown RolledWithIdentity
  rw [← mem_controllerRestart]
  constructor
  · intro hrolled
    by_cases hrestart : "controller-restart" ∈ (reconcile now req).resources
    · exact Or.inl (hrolled hrestart).1
    · exact Or.inr hrestart
  · rintro (hclient | hnot) hrestart
    · exact ⟨hclient, by rw [saClientId_reconcile hrestart, if_pos hclient]⟩
    · exact absurd hrestart hnot

/-- The rollout's manifest is the same at every reconcile. -/
theorem restart_manifest {manifest : Value}
    (hmanifest : (reconcile now req).at? "controller-restart" ["manifest"] = some manifest) :
    manifest = controllerRestartManifest := by
  have hat := (at?_reconcile .controllerRestart ["manifest"]).symm.trans hmanifest
  split_ifs at hat
  exact (Option.some.inj hat).symm

/-! ### Runs -/

/-- The manifest of the rollout that a response composes. -/
def rolloutManifest (rsp : Response) : Option Value := rsp.at? "controller-restart" ["manifest"]

/-- What the rollout concerns in the workload cluster: the client id annotated on the
ServiceAccount, the rollout's manifest that was applied last, and for each rollout the
annotation it found. -/
structure Controller where
  clientId : Option Value := none
  applied : Option Value := none
  rollouts : List (Option Value) := []

/-- The client id on the ServiceAccount once a response is applied. -/
def Controller.patched (c : Controller) (rsp : Response) : Option Value :=
  if "backup-sa" ∈ rsp.resources then saClientId rsp else c.clientId

/-- A response is applied. The ServiceAccount is patched before the Deployment is
rolled, and a manifest rolls the Deployment only when it differs from the last one. -/
def Controller.apply (c : Controller) (rsp : Response) : Controller :=
  if rolloutManifest rsp ≠ none ∧ rolloutManifest rsp ≠ c.applied then
    { clientId := c.patched rsp
      applied := rolloutManifest rsp
      rollouts := c.rollouts ++ [c.patched rsp] }
  else { c with clientId := c.patched rsp }

/-- The rollouts of a run. -/
def rollouts (run : List Round) : List (Option Value) :=
  (run.foldl (fun c r => c.apply (reconcile r.now r.req)) ({} : Controller)).rollouts

/-- The rollout fired at most once, and when it did its manifest is the one applied. -/
structure Controller.Once (c : Controller) : Prop where
  length_le : c.rollouts.length ≤ 1
  applied : c.rollouts ≠ [] → c.applied = some controllerRestartManifest

theorem mem_of_rolloutManifest_ne_none {rsp : Response} (h : rolloutManifest rsp ≠ none) :
    "controller-restart" ∈ rsp.resources := by
  rw [← AList.lookup_isSome, ← Option.ne_none_iff_isSome]
  intro hnone
  exact h (by rw [rolloutManifest, Response.at?, hnone, Option.bind_none])

theorem rolloutManifest_reconcile (h : rolloutManifest (reconcile now req) ≠ none) :
    rolloutManifest (reconcile now req) = some controllerRestartManifest := by
  obtain ⟨manifest, hmanifest⟩ := Option.ne_none_iff_exists'.mp h
  rw [hmanifest, restart_manifest hmanifest]

/-- A response rolls the Deployment with a manifest that is not the applied one, or patches the
ServiceAccount only. -/
theorem Controller.apply_cases (c : Controller) (rsp : Response) :
    (rolloutManifest rsp ≠ none ∧ rolloutManifest rsp ≠ c.applied ∧
      c.apply rsp =
        { clientId := c.patched rsp
          applied := rolloutManifest rsp
          rollouts := c.rollouts ++ [c.patched rsp] }) ∨
    c.apply rsp = { c with clientId := c.patched rsp } := by
  by_cases hfires : rolloutManifest rsp ≠ none ∧ rolloutManifest rsp ≠ c.applied
  · exact Or.inl ⟨hfires.1, hfires.2, if_pos hfires⟩
  · exact Or.inr (if_neg hfires)

/-- Of responses whose rollout is the one manifest, a second does not fire. -/
theorem Controller.Once.apply {c : Controller} {rsp : Response} (hc : c.Once)
    (hconstant : rolloutManifest rsp ≠ none →
      rolloutManifest rsp = some controllerRestartManifest) : (c.apply rsp).Once := by
  rcases c.apply_cases rsp with ⟨hsome, hnew, heq⟩ | heq
  · -- a rollout before this one would have applied the same manifest
    have hnone : c.rollouts = [] := by
      by_contra hrolled
      exact hnew ((hconstant hsome).trans (hc.applied hrolled).symm)
    rw [heq]
    exact ⟨by simp [hnone], fun _ => hconstant hsome⟩
  · rw [heq]
    exact ⟨hc.length_le, hc.applied⟩

/-- The found annotation is a client id. -/
def IsClientId (found : Option Value) : Prop := ∃ id : String, id ≠ "" ∧ found = some (.str id)

theorem Controller.apply_annotated {c : Controller} {rsp : Response}
    (hc : ∀ found ∈ c.rollouts, IsClientId found)
    (hpatched : "controller-restart" ∈ rsp.resources → IsClientId (c.patched rsp)) :
    ∀ found ∈ (c.apply rsp).rollouts, IsClientId found := by
  rcases c.apply_cases rsp with ⟨hsome, -, heq⟩ | heq
  · -- the new rollout finds what the same response has patched in
    rw [heq]
    refine List.forall_mem_append.mpr ⟨hc, ?_⟩
    rw [List.forall_mem_singleton]
    exact hpatched (mem_of_rolloutManifest_ne_none hsome)
  · rw [heq]
    exact hc

/-- A known identity is patched in with the rollout. -/
theorem Controller.patched_of_known (c : Controller) (hknown : req.IdentityKnown)
    (hrestart : "controller-restart" ∈ (reconcile now req).resources) :
    IsClientId (c.patched (reconcile now req)) := by
  obtain ⟨hclient, hfound⟩ := rolledWithIdentity_iff.mpr hknown hrestart
  refine ⟨req.clientId, hclient, ?_⟩
  rw [Controller.patched, if_pos (mem_backupSa.mpr hrestart), hfound]

theorem rollouts_once (run : List Round) : (rollouts run).length ≤ 1 := by
  have hinit : ({} : Controller).Once := ⟨Nat.zero_le 1, fun hrolled => absurd rfl hrolled⟩
  exact (List.foldlRecOn (motive := Controller.Once) run
    (fun c r => c.apply (reconcile r.now r.req)) hinit
    fun c hc r _ => hc.apply rolloutManifest_reconcile).length_le

theorem rollouts_annotated {run : List Round} (hknown : ∀ r ∈ run, r.req.IdentityKnown) :
    ∀ found ∈ rollouts run, IsClientId found :=
  List.foldlRecOn (motive := fun c : Controller => ∀ found ∈ c.rollouts, IsClientId found) run
    (fun c r => c.apply (reconcile r.now r.req)) (fun _ hmem => absurd hmem List.not_mem_nil)
    fun c hc r hr => Controller.apply_annotated hc (c.patched_of_known (hknown r hr))

/-- **Rollout after annotation.** A composed rollout comes with the client id exactly
when the identity is known. Its manifest is a constant, so in every run it fires at
most once, and in a run whose requests all know the identity it finds the
annotation. -/
theorem rollout_after_annotation (now : String) (req : Request) (run : List Round) :
    (RolledWithIdentity now req ↔ req.IdentityKnown) ∧
      (∀ manifest, (reconcile now req).at? "controller-restart" ["manifest"] = some manifest →
        manifest = controllerRestartManifest) ∧
      (rollouts run).length ≤ 1 ∧
      ((∀ r ∈ run, r.req.IdentityKnown) → ∀ found ∈ rollouts run, IsClientId found) :=
  ⟨rolledWithIdentity_iff, fun _ => restart_manifest, rollouts_once run, rollouts_annotated⟩

/-- A control plane with backup whose UXP is deployed and whose AKS cluster has an
OIDC issuer; Azure has not assigned the identity yet. -/
def identityPending : Request where
  composite :=
    { parameters :=
        { Parameters.required "cp" "eastus" { count := some 3 } with
          backup := some { enabled := some "yes", location := some "acct/backups" } } }
  observed :=
    ((∅ : Observed).insert "uxp-release"
      ((AzureCtp.uxpRelease "cp" "2.2.1-up.1" true [] ⟨"2026-03-01T00:00:00Z", "default", "Full"⟩
        ).observedWith .deployed)).insert "aks"
      ((aksXr "cp" "eastus" "default" "1.34" { count := some 3 } [.all]
        ⟨"2026-03-01T00:00:00Z", "default", "Full"⟩).observedWith
        { aks := { oidcUrl := some "https://eastus.oic.example/cp" } })

/-- The rollout is composed and fires without the annotation. -/
theorem rollout_before_annotation :
    ¬ RolledWithIdentity "2026-03-02T00:00:00Z" identityPending := by
  intro hrolled
  have hrestart : "controller-restart" ∈
      (reconcile "2026-03-02T00:00:00Z" identityPending).resources :=
    mem_controllerRestart.mpr (by decide)
  exact absurd (hrolled hrestart).1 (by decide)

end AzureCtp
