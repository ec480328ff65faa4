import AzureCtp.Model.Definition
import AzureCtp.Readiness

/-!
# What the status reports

The status block is written from observed state: it counts the observed resources and
those with each condition, and it names a node pool whose size was changed in place. Two
of its entries miss what they are to report. The creation time is read from the desired
XR, which has no metadata, and the size to compare with is the requested one with another
fallback than the composed one.

## Main results

* `statusReports_iff`: when the status reports what is observed
-/

set_option autoImplicit false

namespace AzureCtp

open Component Document

/-- The status block of a response reports what the request observes. -/
structure Reports (req : Request) (rsp : Response) (status : ControlPlaneStatus) : Prop where
  created : status.created = req.composite.metadata.creationTimestamp.getD ""
  total : status.resources.total = req.observed.keys.toFinset.card
  synced : status.resources.synced = (keysWith req.observed ObservedResource.synced).card
  ready : status.resources.ready = (keysWith req.observed ObservedResource.ready).card
  syncedAndReady : status.resources.syncedAndReady =
    (keysWith req.observed fun o => o.synced && o.ready).card
  readyCondition : ReportsReady rsp ↔
    0 < status.resources.total ∧ status.resources.syncedAndReady = status.resources.total
  /-- The node pool is to have the size that is composed. -/
  vmSizeCondition : (∃ cond ∈ status.conditions, cond.type = "NodePoolVmSizeImmutable") ↔
    getNodepoolActualVmSize req.observed ≠ "" ∧
      ∃ aks, (rsp.resources.lookup "aks").bind Resource.aks? = some aks ∧
        aks.nodes.instanceType ≠ getNodepoolActualVmSize req.observed

/-- The response has a status block that reports what is observed. -/
def StatusReports (req : Request) (rsp : Response) : Prop :=
  ∃ status, rsp.composite.status = some status ∧ Reports req rsp status

variable {now : String} {req : Request}

/-! ### The counts -/

/-- The counts are those of the observed names. -/
theorem countResources_card (observed : Observed) :
    countResources observed =
      { total := observed.keys.toFinset.card
        synced := (keysWith observed ObservedResource.synced).card
        ready := (keysWith observed ObservedResource.ready).card
        syncedAndReady := (keysWith observed fun o => o.synced && o.ready).card } := by
  have htotal : observed.keys.toFinset.card = observed.entries.length := by
    rw [List.toFinset_card_of_nodup observed.keys_nodup, AList.keys, List.keys, List.length_map]
  rw [countResources_eq, htotal, card_keysWith, card_keysWith, card_keysWith]

/-- The Ready condition is decided by the counts. -/
theorem reportsReady_iff_counts : ReportsReady (reconcile now req) ↔
    0 < (countResources req.observed).total ∧
      (countResources req.observed).syncedAndReady = (countResources req.observed).total := by
  rw [reportsReady_iff, ← readyCondition_status_iff, readyCondition_true_iff, and_comm]

/-! ### The size of the node pool -/

/-- The condition is raised exactly when the sizes differ. -/
theorem vmSizeCondition_iff {creationTimestamp : Option String} :
    (∃ cond ∈ (req.status now creationTimestamp).conditions,
      cond.type = "NodePoolVmSizeImmutable") ↔ req.ngSizeMismatch = true := by
  rw [Request.status, controlPlaneStatus]
  constructor
  · rintro ⟨cond, hcond, htype⟩
    rw [List.mem_append, List.mem_append, List.mem_singleton] at hcond
    rcases hcond with (rfl | hsize) | hconflict
    · unfold readyCondition at htype
      split_ifs at htype
      · exact absurd htype (show ¬ "Ready" = "NodePoolVmSizeImmutable" by decide)
      · exact absurd htype (show ¬ "Ready" = "NodePoolVmSizeImmutable" by decide)
    · exact (List.mem_ite_nil_right.mp hsize).1
    · obtain ⟨-, hlicense⟩ := List.mem_ite_nil_right.mp hconflict
      rw [List.mem_singleton.mp hlicense] at htype
      exact absurd htype (show ¬ "LicenseConflict" = "NodePoolVmSizeImmutable" by decide)
  · intro hmismatch
    refine ⟨vmSizeCondition req.nodes req.ngActualVmSize, ?_, rfl⟩
    rw [if_pos hmismatch]
    exact List.mem_append_left _ (List.mem_append_right _ List.mem_cons_self)

/-- The composed AKS XR is always there, with the requested size. -/
theorem instanceType_ne_iff (actual : String) :
    (∃ aks, ((reconcile now req).resources.lookup "aks").bind Resource.aks? = some aks ∧
        aks.nodes.instanceType ≠ actual) ↔
      req.nodes.vmSize.getD "Standard_D2s_v3" ≠ actual := by
  have hlookup : (reconcile now req).resources.lookup "aks" =
      some (Component.aks.composed now req) := (lookup_reconcile_component .aks).mpr ⟨rfl, rfl⟩
  rw [hlookup]
  constructor
  · rintro ⟨aks, haks, hne⟩
    cases haks
    exact hne
  · intro hne
    exact ⟨_, rfl, hne⟩

/-- The requested size is read like the composed one, unless it is left out and the node
pool has the default size. -/
theorem sizeMismatch_iff (nodes : Nodes) (actual : String) :
    ((actual != "" && actual != nodes.vmSize.getD "") = true ↔
        actual ≠ "" ∧ nodes.vmSize.getD "Standard_D2s_v3" ≠ actual) ↔
      nodes.vmSize ≠ none ∨ actual ≠ "Standard_D2s_v3" := by
  rw [Bool.and_eq_true, bne_iff_ne, bne_iff_ne]
  cases nodes.vmSize with
  | some size =>
    rw [Option.getD_some, Option.getD_some]
    exact iff_of_true (and_congr_right fun _ => ne_comm) (Or.inl (Option.some_ne_none size))
  | none =>
    rw [Option.getD_none, Option.getD_none, and_self]
    by_cases hdefault : actual = "Standard_D2s_v3"
    · subst hdefault
      simp
    · exact iff_of_true ⟨fun hne => ⟨hne, Ne.symm hdefault⟩, And.left⟩ (Or.inr hdefault)

/-! ### The whole block -/

/-- **Status reports what is observed** exactly for an XR without a creation time whose
node pool size is given or is not seen at the default. -/
theorem statusReports_iff (now : String) (req : Request) :
    StatusReports req (reconcile now req) ↔
      req.composite.metadata.creationTimestamp.getD "" = "" ∧
        (req.nodes.vmSize ≠ none ∨
          getNodepoolActualVmSize req.observed ≠ "Standard_D2s_v3") := by
  rw [← sizeMismatch_iff]
  constructor
  · rintro ⟨status, hstatus, h⟩
    obtain rfl := Option.some.inj hstatus
    have hsize := h.vmSizeCondition
    rw [vmSizeCondition_iff, instanceType_ne_iff] at hsize
    exact ⟨h.created.symm, hsize⟩
  · rintro ⟨hcreated, hsize⟩
    have hcounts := countResources_card req.observed
    refine ⟨_, rfl, ?_⟩
    exact
      { created := hcreated.symm
        total := congrArg ResourceCounts.total hcounts
        synced := congrArg ResourceCounts.synced hcounts
        ready := congrArg ResourceCounts.ready hcounts
        syncedAndReady := congrArg ResourceCounts.syncedAndReady hcounts
        readyCondition := reportsReady_iff_counts
        vmSizeCondition := by
          rw [vmSizeCondition_iff, instanceType_ne_iff]
          exact hsize }

/-- A control plane as the API server serves it, with its time of creation. -/
def served : Request where
  composite :=
    { metadata :=
        { ns := some "default"
          name := some "cp"
          creationTimestamp := some "2026-02-01T00:00:00Z" }
      parameters :=
        Parameters.defaulted (Parameters.required "cp" "eastus" { count := some 3 }) }

/-- Its status names no time of creation. -/
theorem not_statusReports_served :
    served.params.admitted = true ∧
      ¬ StatusReports served (reconcile "2026-03-01T00:00:00Z" served) := by
  refine ⟨by decide, ?_⟩
  rintro ⟨status, hstatus, h⟩
  obtain rfl := Option.some.inj hstatus
  exact absurd h.created (show ¬ "" = "2026-02-01T00:00:00Z" by decide)

end AzureCtp
