import AzureCtp.Components

/-!
# What the clock reaches

The reconcile time enters the response through `stamp` and the status block. Erasing the
stamps makes the responses of two reconcile times equal: an annotation of every composed
resource, a tag of the storage account and the identity, and a status field.

## Main results

* `sameUpToStamps_now`: two reconcile times give one response up to stamps
* `clock_changes_stamps`: so no Release spec and no manifest depends on the time
-/

set_option autoImplicit false

namespace AzureCtp

open Document

/-- The key of the stamps. -/
def stampKey : String := "last-reconcile-date"

namespace Resource

/-- The resource without the stamp among its annotations. -/
def unannotated (r : Resource) : Resource :=
  { r with
    metadata := { r.metadata with annotations := eraseField r.metadata.annotations stampKey } }

/-- The resource without the stamp among its Azure tags. -/
def untagged (r : Resource) : Resource :=
  { r with
    spec :=
      match r.spec with
      | .managed spec => .managed { spec with
          forProvider := spec.forProvider.modify "tags" fun tags => tags.erase stampKey }
      | spec => spec }

/-- The resource without its stamps. -/
def unstamped (r : Resource) : Resource := r.unannotated.untagged

end Resource

/-- The status block without the reconcile time. -/
def ControlPlaneStatus.unstamped (status : ControlPlaneStatus) : ControlPlaneStatus :=
  { status with lastReconcileDate := "" }

/-- The names of the resources that carry the stamp as an Azure tag. -/
def azureTagged : List String := ["backup-storage-account", "backup-identity"]

/-- Two responses that differ in stamps only. -/
structure SameUpToStamps (a b : Response) : Prop where
  requirement : a.allControlPlanes = b.allControlPlanes
  creationTimestamp : a.composite.creationTimestamp = b.composite.creationTimestamp
  status : a.composite.status.map ControlPlaneStatus.unstamped =
    b.composite.status.map ControlPlaneStatus.unstamped
  tagged : ∀ n ∈ azureTagged, (a.resources.lookup n).map Resource.unstamped =
    (b.resources.lookup n).map Resource.unstamped
  rest : ∀ n, n ∉ azureTagged → (a.resources.lookup n).map Resource.unannotated =
    (b.resources.lookup n).map Resource.unannotated

theorem SameUpToStamps.symm {a b : Response} (h : SameUpToStamps a b) : SameUpToStamps b a where
  requirement := h.requirement.symm
  creationTimestamp := h.creationTimestamp.symm
  status := h.status.symm
  tagged n hn := (h.tagged n hn).symm
  rest n hn := (h.rest n hn).symm

theorem SameUpToStamps.trans {a b c : Response} (hab : SameUpToStamps a b)
    (hbc : SameUpToStamps b c) : SameUpToStamps a c where
  requirement := hab.requirement.trans hbc.requirement
  creationTimestamp := hab.creationTimestamp.trans hbc.creationTimestamp
  status := hab.status.trans hbc.status
  tagged n hn := (hab.tagged n hn).trans (hbc.tagged n hn)
  rest n hn := (hab.rest n hn).trans (hbc.rest n hn)

/-! ### Stamps -/

section Stamp

variable (r : Resource) (config config' : Config)

theorem unannotated_stamp : (stamp r config false).unannotated = r.unannotated := by
  unfold stamp Resource.unannotated
  simp only [eraseField_setField, stampKey]

theorem unstamped_stamp :
    (stamp r config true).unstamped = (stamp r config' true).unstamped := by
  obtain ⟨apiVersion, kind, metadata, spec⟩ := r
  cases spec <;>
    simp [stamp, Resource.unstamped, Resource.unannotated, Resource.untagged, stampKey,
      eraseField_setField, Value.modify_set, Value.erase_set]

end Stamp

/-- The sweep and the erasure of annotations do not interfere. -/
theorem unannotated_orphanPolicy (policies : List ManagementPolicy) (r : Resource) :
    (orphanPolicy policies r).unannotated = orphanPolicy policies r.unannotated := by
  obtain ⟨apiVersion, kind, metadata, spec⟩ := r
  cases spec with
  | managed spec =>
    unfold orphanPolicy Resource.unannotated
    dsimp only
    split_ifs <;> rfl
  | _ => rfl

theorem untagged_orphanPolicy (policies : List ManagementPolicy) (r : Resource) :
    (orphanPolicy policies r).untagged = orphanPolicy policies r.untagged := by
  obtain ⟨apiVersion, kind, metadata, spec⟩ := r
  cases spec with
  | managed spec =>
    unfold orphanPolicy Resource.untagged
    dsimp only
    split_ifs <;> rfl
  | _ => rfl

/-! ### Components -/

namespace Component

/-- The component carries the stamp as an Azure tag. -/
def isTagged : Component → Bool
  | backupStorageAccount | backupIdentity => true
  | _ => false

theorem mem_azureTagged_iff (c : Component) : c.name ∈ azureTagged ↔ c.isTagged = true := by
  cases c <;> decide

variable {now now' : String} {req : Request}

theorem unannotated_resource {c : Component} (hc : c.isTagged = false) :
    (c.resource now req).unannotated = (c.resource now' req).unannotated := by
  cases c <;> first
    | exact (unannotated_stamp _ _).trans (unannotated_stamp _ _).symm
    | cases hc

theorem unstamped_resource {c : Component} (hc : c.isTagged = true) :
    (c.resource now req).unstamped = (c.resource now' req).unstamped := by
  cases c <;> first
    | exact unstamped_stamp _ _ _
    | cases hc

theorem unannotated_composed {c : Component} (hc : c.isTagged = false) :
    (c.composed now req).unannotated = (c.composed now' req).unannotated := by
  rw [composed, composed, unannotated_orphanPolicy, unannotated_orphanPolicy,
    unannotated_resource hc]

theorem unstamped_composed {c : Component} (hc : c.isTagged = true) :
    (c.composed now req).unstamped = (c.composed now' req).unstamped := by
  have h : ∀ r, (orphanPolicy req.mgmtPolicies r).unstamped =
      orphanPolicy req.mgmtPolicies r.unstamped := by
    intro r
    rw [Resource.unstamped, unannotated_orphanPolicy, untagged_orphanPolicy, Resource.unstamped]
  rw [composed, composed, h, h, unstamped_resource hc]

/-- No other component has tags. -/
theorem tags_resource {c : Component} (hc : c.isTagged = false) :
    (c.resource now req).forProvider? ["tags", stampKey] = none := by
  cases c <;> first
    | rfl
    | cases hc

end Component

open Component

variable {now now' : String} {req : Request}

/-- Two reconcile times give one response up to stamps. -/
theorem sameUpToStamps_now (now now' : String) (req : Request) :
    SameUpToStamps (reconcile now req) (reconcile now' req) where
  requirement := rfl
  creationTimestamp := rfl
  status := rfl
  tagged n hn := by
    refine lookup_map_congr (fun _ => rfl) ?_
    rintro c rfl
    exact unstamped_composed ((mem_azureTagged_iff c).mp hn)
  rest n hn := by
    refine lookup_map_congr (fun _ => rfl) ?_
    rintro c rfl
    exact unannotated_composed (Bool.eq_false_iff.mpr (mt (mem_azureTagged_iff c).mpr hn))

/-- Releases and Objects carry no Azure tags. -/
theorem notMem_azureTagged {n : String} {r : Resource}
    (hr : (reconcile now req).resources.lookup n = some r)
    (hkind : r.kind = "Release" ∨ r.kind = "Object") : n ∉ azureTagged := by
  obtain ⟨c, -, rfl, rfl⟩ := lookup_reconcile_iff.mp hr
  rw [kind_composed] at hkind
  rw [mem_azureTagged_iff]
  revert hkind
  cases c <;> decide

/-- **The clock changes nothing but stamps.** For two reconcile times the responses are
the same up to stamps, no Release spec and no manifest of a child cluster changes, and no
resource but the storage account and the identity gets the tag. -/
theorem clock_changes_stamps (now now' : String) (req : Request) :
    SameUpToStamps (reconcile now req) (reconcile now' req) ∧
      (∀ n r r', (reconcile now req).resources.lookup n = some r →
        (reconcile now' req).resources.lookup n = some r' →
        r.kind = "Release" ∨ r.kind = "Object" → r.spec = r'.spec) ∧
      ∀ n, n ∉ azureTagged → (reconcile now req).at? n ["tags", stampKey] = none := by
  have hsame := sameUpToStamps_now now now' req
  refine ⟨hsame, fun n r r' hr hr' hkind => ?_, fun n hn => ?_⟩
  · have hrest := hsame.rest n (notMem_azureTagged hr hkind)
    rw [hr, hr', Option.map_some, Option.map_some, Option.some_inj] at hrest
    have hspec : r.unannotated.spec = r'.unannotated.spec := congrArg Resource.spec hrest
    exact hspec
  · cases hlookup : (reconcile now req).resources.lookup n with
    | none => rw [Response.at?, hlookup, Option.bind_none]
    | some r =>
      obtain ⟨c, hgate, rfl, -⟩ := lookup_reconcile_iff.mp hlookup
      rw [at?_reconcile, if_pos hgate]
      exact tags_resource (Bool.eq_false_iff.mpr (mt (mem_azureTagged_iff c).mpr hn))

end AzureCtp
