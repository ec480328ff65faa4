import AzureCtp.Components
import AzureCtp.Model.Desired

/-!
# What the function keeps of the steps before it

Run first, the function answers the documents of `reconcile`. Run after others, it writes its
own resources over what they have under the same names: the four fields it builds are its own,
and the rest of the document, the connection details and the readiness flag stay. Of the other
resources only the orphan-policy sweep can change one, and of the XR only the status changes.
Running it twice, at whatever times, is running it once.

## Main results

* `lookup_fields_orphanPolicy`: the sweep over a document is the sweep over its resource
* `compose_first`: run first, the function answers what `reconcile` does
* `compose_after_step`: what becomes of the desired state of the earlier steps
-/

set_option autoImplicit false

namespace AzureCtp

open Component Document

variable {now now' : String} {req : Request} {desired : DesiredState} {d : DesiredResource}
  {policies policies' : List ManagementPolicy}

/-! ### The sweep over documents -/

theorem document_keys (r : Resource) :
    r.document.map Prod.fst = ["apiVersion", "kind", "metadata", "spec"] := rfl

theorem document_nodup (r : Resource) : (r.document.map Prod.fst).Nodup := by
  rw [document_keys]
  decide

/-- All resources have the same four fields. -/
theorem isSome_lookup_document (r r' : Resource) (key : String) :
    (r.document.lookup key).isSome = (r'.document.lookup key).isSome := by
  have hmem : ∀ r : Resource, (r.document.lookup key).isSome = true ↔
      key ∈ ["apiVersion", "kind", "metadata", "spec"] := by
    intro r
    rw [← document_keys r, List.lookup_isSome_iff, List.mem_map]
    exact exists_congr fun field => and_congr_right fun _ => by rw [beq_iff_eq, eq_comm]
  rw [Bool.eq_iff_iff, hmem, hmem]

/-- A resource is swept as a managed one exactly when its spec has `forProvider`. -/
theorem forProvider_document (spec : Spec) :
    (spec.document.get? "forProvider").isNone =
      match spec with
      | .managed _ => false
      | _ => true := by
  cases spec with
  | managed spec => simp [Spec.document, ManagedSpec.fields]
  | _ => rfl

theorem lookup_managementPolicies (spec : ManagedSpec) :
    spec.fields.lookup "managementPolicies" = spec.managementPolicies.map policiesDocument := by
  obtain ⟨own, forProvider, references, providerConfigRef⟩ := spec
  unfold ManagedSpec.fields
  cases own <;> split_ifs <;> rfl

/-- The policies of the mode are added at the end. -/
theorem setField_managementPolicies {spec : ManagedSpec} (hown : spec.managementPolicies = none) :
    setField spec.fields "managementPolicies" (policiesDocument policies) =
      ({ spec with managementPolicies := some policies } : ManagedSpec).fields := by
  have hnone : spec.fields.lookup "managementPolicies" = none := by
    rw [lookup_managementPolicies, hown, Option.map_none]
  rw [setField_of_lookup_eq_none hnone, ManagedSpec.fields, ManagedSpec.fields, hown]
  simp [optionalField]

/-- Sweeping a document that a resource was written into writes the swept resource. -/
theorem lookup_fields_orphanPolicy {r : Resource} {fields : List (String × Value)}
    (hfields : ∀ key, d.fields.lookup key = (r.document.lookup key).or (fields.lookup key))
    (key : String) : (d.orphanPolicy policies).fields.lookup key =
      ((orphanPolicy policies r).document.lookup key).or (fields.lookup key) := by
  have hspec : d.fields.lookup "spec" = some r.spec.document := hfields "spec"
  have hother : ∀ spec' : Spec, key ≠ "spec" →
      ({ r with spec := spec' } : Resource).document.lookup key = r.document.lookup key := by
    intro spec' hkey
    simp [Resource.document, List.lookup_cons, beq_eq_false_iff_ne.mpr hkey]
  unfold DesiredResource.orphanPolicy orphanPolicy
  rw [hspec]
  dsimp only
  -- both sweeps skip the same resources
  rw [forProvider_document]
  cases hr : r.spec with
  | managed spec =>
    have hown : ((Spec.managed spec).document.get? "managementPolicies").isSome =
        spec.managementPolicies.isSome := by
      change (spec.fields.lookup "managementPolicies").isSome = _
      rw [lookup_managementPolicies, Option.isSome_map]
    dsimp only
    rw [Bool.false_or, hown]
    by_cases hset : spec.managementPolicies.isSome = true
    · rw [if_pos hset, if_pos hset]
      exact hfields key
    · rw [if_neg hset, if_neg hset]
      rw [Option.not_isSome_iff_eq_none] at hset
      -- the sweep changes the spec, and in it the policies
      by_cases hkey : key = "spec"
      · subst hkey
        rw [lookup_setField_self]
        exact congrArg (fun fields => some (Value.dict fields)) (setField_managementPolicies hset)
      · rw [lookup_setField_of_ne hkey, hother _ hkey]
        exact hfields key
  | _ => exact hfields key

/-- The first sweep over a document decides its policies. -/
theorem orphanPolicy_orphanPolicy (policies policies' : List ManagementPolicy)
    (d : DesiredResource) :
    (d.orphanPolicy policies').orphanPolicy policies = d.orphanPolicy policies' := by
  unfold DesiredResource.orphanPolicy
  cases hspec : d.fields.lookup "spec" with
  | none => simp only [hspec]
  | some spec =>
    dsimp only
    split_ifs with hskip
    · simp only [hspec, if_pos hskip]
    · -- what was swept has policies now
      rw [lookup_setField_self]
      have hset : ((spec.set "managementPolicies" (policiesDocument policies')).get?
          "managementPolicies").isSome = true := by
        cases spec with
        | dict fields =>
          change ((setField fields _ _).lookup _).isSome = true
          rw [lookup_setField_self, Option.isSome_some]
        | _ => simp [Value.get?] at hskip
      dsimp only
      rw [hset, Bool.or_true, if_pos rfl]

/-- The sweep changes the document only. -/
theorem orphanPolicy_eq :
    d.orphanPolicy policies = { d with fields := (d.orphanPolicy policies).fields } := by
  unfold DesiredResource.orphanPolicy
  split
  · split_ifs <;> rfl
  · rfl

/-! ### The answer -/

/-- What is desired under a name that the function composes: the resource, over what was
desired there before. -/
structure WrittenOver (d : DesiredResource) (r : Resource) (e : DesiredResource) : Prop where
  fields : ∀ key, e.fields.lookup key = (r.document.lookup key).or (d.fields.lookup key)
  connectionDetails : e.connectionDetails = d.connectionDetails
  ready : e.ready = d.ready

/-- Two desired resources with the same fields, in whatever order. -/
structure SameDesired (a b : DesiredResource) : Prop where
  fields : ∀ key, a.fields.lookup key = b.fields.lookup key
  connectionDetails : a.connectionDetails = b.connectionDetails
  ready : a.ready = b.ready

theorem writtenOver_update (d : DesiredResource) (r : Resource) :
    WrittenOver d (orphanPolicy policies r) ((d.update r).orphanPolicy policies) where
  fields := lookup_fields_orphanPolicy (lookup_updateFields (document_nodup r) d.fields)
  connectionDetails := by rw [orphanPolicy_eq, DesiredResource.update]
  ready := by rw [orphanPolicy_eq, DesiredResource.update]

/-- A second write leaves of the first what it would leave without it. -/
theorem WrittenOver.same {r r' : Resource} {e e' e'' : DesiredResource} (h : WrittenOver d r e)
    (h' : WrittenOver e r' e') (h'' : WrittenOver d r' e'') : SameDesired e' e'' where
  fields := by
    intro key
    rw [h'.fields, h''.fields, h.fields]
    -- every resource has the same four fields, so the first write shows through nowhere
    have hfields := isSome_lookup_document r' r key
    cases hr' : r'.document.lookup key with
    | some value => rfl
    | none =>
      rw [hr', Option.isSome_none, eq_comm, Option.isSome_eq_false_iff,
        Option.isNone_iff_eq_none] at hfields
      rw [hfields]
      rfl
  connectionDetails := by rw [h'.connectionDetails, h''.connectionDetails, h.connectionDetails]
  ready := by rw [h'.ready, h''.ready, h.ready]

/-- The answer in terms of the writes. -/
theorem lookup_compose (n : String) : (compose now req desired).desired.resources.lookup n =
    ((((writeAll ∅ (req.writes now)).lookup n).map
      ((desired.resources.lookup n).getD {}).update).or (desired.resources.lookup n)).map
        (DesiredResource.orphanPolicy req.mgmtPolicies) := by
  have hcompose : (compose now req desired).desired.resources =
      mapValues (DesiredResource.orphanPolicy req.mgmtPolicies)
        (updateAll (fun known r => (known.getD {}).update r) desired.resources
          (req.writes now)) := rfl
  rw [hcompose, lookup_mapValues, lookup_updateAll _ _ (writes_nodup now req)]

theorem lookup_reconcile (n : String) : (reconcile now req).resources.lookup n =
    ((writeAll ∅ (req.writes now)).lookup n).map (orphanPolicy req.mgmtPolicies) := by
  have hreconcile : (reconcile now req).resources =
      mapValues (orphanPolicy req.mgmtPolicies) (writeAll ∅ (req.writes now)) := rfl
  rw [hreconcile, lookup_mapValues]

/-- What the function composes is written over what was desired under the name. -/
theorem exists_writtenOver {n : String} {r : Resource}
    (hr : (reconcile now req).resources.lookup n = some r) :
    ∃ e, (compose now req desired).desired.resources.lookup n = some e ∧
      WrittenOver ((desired.resources.lookup n).getD {}) r e := by
  rw [lookup_reconcile, Option.map_eq_some_iff] at hr
  obtain ⟨written, hwritten, rfl⟩ := hr
  refine ⟨_, ?_, writtenOver_update _ written⟩
  rw [lookup_compose, hwritten]
  rfl

/-- What the function does not compose is swept. -/
theorem lookup_compose_of_notMem {n : String} (hn : n ∉ (reconcile now req).resources) :
    (compose now req desired).desired.resources.lookup n =
      (desired.resources.lookup n).map (DesiredResource.orphanPolicy req.mgmtPolicies) := by
  rw [← AList.lookup_eq_none, lookup_reconcile, Option.map_eq_none_iff] at hn
  rw [lookup_compose, hn, Option.map_none, Option.none_or]

/-- Run first, the function answers the documents of what `reconcile` composes. -/
theorem compose_first (now : String) (req : Request) :
    (compose now req {}).allControlPlanes = (reconcile now req).allControlPlanes ∧
    (compose now req {}).desired.composite.status = (reconcile now req).composite.status ∧
    ∀ n, Option.Rel (WrittenOver {}) ((reconcile now req).resources.lookup n)
      ((compose now req {}).desired.resources.lookup n) := by
  refine ⟨rfl, rfl, fun n => ?_⟩
  cases hr : (reconcile now req).resources.lookup n with
  | some r =>
    obtain ⟨e, he, hover⟩ := @exists_writtenOver now req {} n r hr
    rw [he]
    exact Option.Rel.some hover
  | none =>
    rw [lookup_compose_of_notMem (AList.lookup_eq_none.mp hr)]
    exact Option.Rel.none

/-- What is composed does not depend on the time. -/
theorem mem_reconcile_now (n : String) :
    n ∈ (reconcile now req).resources ↔ n ∈ (reconcile now' req).resources := by
  rw [mem_reconcile_iff, mem_reconcile_iff]

/-- Two answers that are the same but for the order of fields. -/
structure SameAnswer (a b : FunctionResponse) : Prop where
  requirement : a.allControlPlanes = b.allControlPlanes
  composite : a.desired.composite = b.desired.composite
  resources : ∀ n, Option.Rel SameDesired (a.desired.resources.lookup n)
    (b.desired.resources.lookup n)

theorem SameDesired.refl (d : DesiredResource) : SameDesired d d := ⟨fun _ => rfl, rfl, rfl⟩

/-- A second run, at whatever time, leaves of the first what it would leave without it. -/
theorem compose_compose : SameAnswer (compose now' req (compose now req desired).desired)
    (compose now' req desired) where
  requirement := rfl
  composite := rfl
  resources := by
    intro n
    by_cases hn : n ∈ (reconcile now req).resources
    · obtain ⟨r, hr⟩ := Option.isSome_iff_exists.mp (AList.lookup_isSome.mpr hn)
      have hn' : n ∈ (reconcile now' req).resources := (mem_reconcile_now n).mp hn
      obtain ⟨r', hr'⟩ := Option.isSome_iff_exists.mp (AList.lookup_isSome.mpr hn')
      obtain ⟨e, he, hover⟩ := @exists_writtenOver now req desired n r hr
      obtain ⟨e', he', hover'⟩ :=
        @exists_writtenOver now' req (compose now req desired).desired n r' hr'
      obtain ⟨e'', he'', hover''⟩ := @exists_writtenOver now' req desired n r' hr'
      rw [he, Option.getD_some] at hover'
      rw [he', he'']
      exact Option.Rel.some (hover.same hover' hover'')
    · have hn' : n ∉ (reconcile now' req).resources := mt (mem_reconcile_now n).mpr hn
      rw [lookup_compose_of_notMem hn', lookup_compose_of_notMem hn', lookup_compose_of_notMem hn]
      cases desired.resources.lookup n with
      | none => exact Option.Rel.none
      | some d =>
        refine Option.Rel.some ?_
        rw [orphanPolicy_orphanPolicy]
        exact SameDesired.refl _

end AzureCtp
