import AzureCtp.Bootstrap

/-!
# The reported readiness

The Ready condition counts the observed resources: it is True when there are some and
each is synced and ready. It does not look at what the same reconcile composes, so a
resource that is composed and not there yet goes unnoticed, and the verdict is sound
exactly when nothing is missing while everything observed is healthy.

## Main results

* `countResources_eq`: the counting loop counts
* `reportsReady_iff`: when the condition is True
* `readySound_iff`: when it is sound
-/

set_option autoImplicit false

namespace AzureCtp

open Component

/-- The observed resource has a Synced=True condition. -/
def ObservedResource.synced (o : ObservedResource) : Bool :=
  hasTrueCondition o.status.conditions "Synced"

/-- The observed resource has a Ready=True condition. -/
def ObservedResource.ready (o : ObservedResource) : Bool :=
  hasTrueCondition o.status.conditions "Ready"

/-! ### The counting loop -/

theorem syncedReadyFlags_eq (conditions : List Condition) :
    syncedReadyFlags conditions =
      (hasTrueCondition conditions "Synced", hasTrueCondition conditions "Ready") := by
  have hloop : ∀ flags : Bool × Bool, conditions.foldl
      (fun flags cond =>
        (flags.1 || (cond.type == some "Synced" && cond.status == some "True"),
         flags.2 || (cond.type == some "Ready" && cond.status == some "True"))) flags =
      (flags.1 || hasTrueCondition conditions "Synced",
        flags.2 || hasTrueCondition conditions "Ready") := by
    induction conditions with
    | nil => simp [hasTrueCondition]
    | cons cond rest ih =>
      intro flags
      rw [List.foldl_cons, ih]
      simp [hasTrueCondition, Bool.or_assoc]
  rw [syncedReadyFlags, hloop]
  simp

theorem countResource_eq (counts : ResourceCounts) (o : ObservedResource) :
    countResource counts o =
      { total := counts.total + 1
        synced := counts.synced + if o.synced then 1 else 0
        ready := counts.ready + if o.ready then 1 else 0
        syncedAndReady := counts.syncedAndReady + if o.synced && o.ready then 1 else 0 } := by
  unfold countResource ObservedResource.synced ObservedResource.ready
  rw [syncedReadyFlags_eq]
  cases hasTrueCondition o.status.conditions "Synced" <;>
    cases hasTrueCondition o.status.conditions "Ready" <;> rfl

theorem foldl_countResource (entries : List (Document.Entry ObservedResource)) :
    ∀ counts : ResourceCounts, entries.foldl (fun counts e => countResource counts e.2) counts =
      { total := counts.total + entries.length
        synced := counts.synced + entries.countP fun e => e.2.synced
        ready := counts.ready + entries.countP fun e => e.2.ready
        syncedAndReady := counts.syncedAndReady +
          entries.countP fun e => e.2.synced && e.2.ready } := by
  induction entries with
  | nil => exact fun _ => rfl
  | cons e rest ih =>
    intro counts
    rw [List.foldl_cons, ih, countResource_eq]
    simp only [List.length_cons, List.countP_cons, Nat.add_assoc, Nat.add_comm]

/-- The counting loop counts the observed resources and those with each condition. -/
theorem countResources_eq (observed : Observed) :
    countResources observed =
      { total := observed.entries.length
        synced := observed.entries.countP fun e => e.2.synced
        ready := observed.entries.countP fun e => e.2.ready
        syncedAndReady := observed.entries.countP fun e => e.2.synced && e.2.ready } := by
  rw [countResources, foldl_countResource]
  simp only [Nat.zero_add]

/-! ### The verdict -/

/-- Everything observed is synced and ready, and something is observed. -/
def AllHealthy (observed : Observed) : Prop :=
  observed.entries ≠ [] ∧
    ∀ n o, observed.lookup n = some o → o.synced = true ∧ o.ready = true

/-- The response reports the control plane as ready. -/
def ReportsReady (rsp : Response) : Prop :=
  ∃ status, rsp.composite.status = some status ∧
    ∃ cond ∈ status.conditions, cond.type = "Ready" ∧ cond.status = "True"

variable {now : String} {req : Request}

theorem readyCondition_true_iff (counts : ResourceCounts) :
    (readyCondition counts).status = "True" ↔
      counts.syncedAndReady = counts.total ∧ counts.total > 0 := by
  unfold readyCondition
  split_ifs with hready
  · exact iff_of_true rfl hready
  · exact iff_of_false (fun hfalse : "False" = "True" => absurd hfalse (by decide)) hready

theorem readyCondition_status_iff (observed : Observed) :
    (readyCondition (countResources observed)).status = "True" ↔ AllHealthy observed := by
  rw [readyCondition_true_iff, countResources_eq, List.countP_eq_length, and_comm]
  refine and_congr List.length_pos_iff ⟨fun hall n o ho => ?_, fun hall e he => ?_⟩
  · have hmem : (⟨n, o⟩ : Document.Entry ObservedResource) ∈ observed.entries :=
      AList.mem_lookup_iff.mp ho
    exact Bool.and_eq_true_iff.mp (hall _ hmem)
  · have hlookup : observed.lookup e.1 = some e.2 := AList.mem_lookup_iff.mpr he
    exact Bool.and_eq_true_iff.mpr (hall e.1 e.2 hlookup)

/-- The condition is True exactly when everything observed is healthy. -/
theorem reportsReady_iff : ReportsReady (reconcile now req) ↔ AllHealthy req.observed := by
  rw [← readyCondition_status_iff]
  constructor
  · rintro ⟨status, hstatus, cond, hcond, htype, htrue⟩
    obtain rfl := Option.some.inj hstatus
    rw [Request.status, controlPlaneStatus, List.mem_append, List.mem_append,
      List.mem_singleton] at hcond
    -- only the first condition is of type Ready
    rcases hcond with (rfl | hsize) | hconflict
    · exact htrue
    · obtain ⟨-, rfl⟩ := List.mem_ite_nil_right.mp hsize |>.imp_right List.mem_singleton.mp
      exact absurd htype (show ¬ "NodePoolVmSizeImmutable" = "Ready" by decide)
    · obtain ⟨-, rfl⟩ := List.mem_ite_nil_right.mp hconflict |>.imp_right List.mem_singleton.mp
      exact absurd htype (show ¬ "LicenseConflict" = "Ready" by decide)
  · intro htrue
    refine ⟨_, rfl, readyCondition (countResources req.observed), ?_, ?_, htrue⟩
    · exact List.mem_append_left _ (List.mem_append_left _ List.mem_cons_self)
    · unfold readyCondition
      split_ifs <;> rfl

/-- The reported readiness is sound: with it every composed resource is observed, with a
Ready=True condition. -/
def ReadySound (now : String) (req : Request) : Prop :=
  ReportsReady (reconcile now req) → ∀ n ∈ (reconcile now req).resources,
    ∃ o, req.observed.lookup n = some o ∧ o.ready = true

/-- Every component that the spec switches on and whose readiness signals show is
observed. -/
def Request.NothingMissing (req : Request) : Prop :=
  ∀ c : Component, c.enabled req = true → c.ready req = true → c.name ∈ req.observed

/-- **Soundness of the reported readiness.** It is sound exactly when something observed
is not healthy, or nothing is observed, or nothing is missing. -/
theorem readySound_iff (now : String) (req : Request) :
    ReadySound now req ↔ ¬ AllHealthy req.observed ∨ req.NothingMissing := by
  rw [ReadySound, reportsReady_iff, ← imp_iff_not_or]
  refine imp_congr_right fun hhealthy => ⟨fun hall c henabled hready => ?_, fun hall n hn => ?_⟩
  · have hmem : c.name ∈ (reconcile now req).resources := by
      rw [mem_reconcile_component, gate_eq, henabled, hready]
      rfl
    obtain ⟨o, ho, -⟩ := hall c.name hmem
    exact AList.lookup_isSome.mp (by rw [ho]; rfl)
  · obtain ⟨c, hgate, rfl⟩ := mem_reconcile_iff.mp hn
    rw [gate_eq, Bool.and_eq_true] at hgate
    obtain ⟨o, ho⟩ := Option.isSome_iff_exists.mp
      (AList.lookup_isSome.mpr (hall c hgate.1 hgate.2))
    exact ⟨o, ho, (hhealthy.2 c.name o ho).2⟩

/-- In a bootstrap everything observed is healthy. -/
theorem ObservesIdeal.allHealthy {rsp : Response} {observed : Observed}
    (h : ObservesIdeal rsp observed) {n : String} (hn : n ∈ rsp.resources) :
    AllHealthy observed := by
  refine ⟨fun hempty => ?_, fun m o ho => ⟨(h.ideal m o ho).synced, (h.ideal m o ho).ready⟩⟩
  have hobserved : n ∈ observed := by
    rw [← AList.lookup_isSome, ← Option.isSome_map, h.same, AList.lookup_isSome]
    exact hn
  rw [AList.mem_keys, AList.keys, hempty] at hobserved
  cases hobserved

/-- The second round of a bootstrap with Argo CD reports the control plane as ready and
composes the app-of-apps, which does not exist yet. -/
theorem not_readySound_argocd :
    ¬ ReadySound "2026-03-01T00:00:00Z" (bootRequest "2026-03-01T00:00:00Z" argocdPlane 1) := by
  intro hsound
  have hboot : Bootstrap argocdPlane _ _ := bootRequest_bootstrap "2026-03-01T00:00:00Z"
    fun source hsource => by cases hsource
  have hnetwork : "network" ∈ (reconcile "2026-03-01T00:00:00Z"
      (bootRequest "2026-03-01T00:00:00Z" argocdPlane 0)).resources :=
    (mem_reconcile_component .network).mpr rfl
  have happ : Component.argocdApp ∈ emitted (reconcile "2026-03-01T00:00:00Z"
      (bootRequest "2026-03-01T00:00:00Z" argocdPlane 1)) := by
    rw [hboot.emitted_eq_stage 1]
    exact Staging.mem_stage_of_rank_le (opens_of_depth argocdPlane) (by rfl) (by decide)
  have hmissing : Component.argocdApp ∉ emitted (reconcile "2026-03-01T00:00:00Z"
      (bootRequest "2026-03-01T00:00:00Z" argocdPlane 0)) := by
    rw [hboot.emitted_eq_stage 0]
    rintro ⟨-, hserved⟩
    rcases hserved .argocdDeployed List.mem_cons_self with hsource | ⟨hlicensed, -⟩
    · exact hsource
    · cases hlicensed
  obtain ⟨o, ho, -⟩ := hsound (reportsReady_iff.mpr ((hboot.next 0).allHealthy hnetwork))
    "argocd-app" happ
  exact hmissing (((hboot.next 0).sees.mem_iff .argocdApp).mp
    (AList.lookup_isSome.mp (Option.isSome_of_eq_some ho)))

end AzureCtp
