import AzureCtp.Deletion.Order
import AzureCtp.Policies

/-!
# Whether backup data survives deletion

Deleting the XR removes the composed resources whose policies allow it, in an order the
Usages permit. The backup StorageAccount is never among them, but it is placed in the
resource group of the Network XR, and removing that XR removes the group with all it
contains. So the account survives exactly when the Network XR, or something that guards
it, cannot be deleted.

## Main results

* `network_removable_iff`: when some deletion order removes the Network XR
* `backupSurvives_iff`: when no deletion order removes the account
-/

set_option autoImplicit false

namespace AzureCtp

open Component Document Removal

/-- The policies of the resource bound to the name allow Delete. -/
def Deletable (rsp : Response) (n : String) : Prop :=
  ∃ r policies, rsp.resources.lookup n = some r ∧ r.policies? = some policies ∧
    allows policies .delete = true

/-- The id of the Network XR, which labels its resource group. -/
def networkId (rsp : Response) : Option String :=
  (rsp.resources.lookup "network").bind fun r =>
    match r.spec with
    | .network parameters => some parameters.id
    | _ => none

/-- The resource selects the resource group of the Network XR. -/
def PlacedInNetwork (rsp : Response) (n : String) : Prop :=
  ∃ id, networkId rsp = some id ∧
    rsp.at? n ["resourceGroupNameSelector", "matchLabels",
      "azure.platform.upbound.io/network-id"] = some (.str id)

/-- The deletion removes the resource itself, or the Network XR whose resource group
contains it. -/
def Destroys (rsp : Response) (order : List String) (n : String) : Prop :=
  n ∈ order ∨ "network" ∈ order ∧ PlacedInNetwork rsp n

/-- No deletion of the XR removes the backup StorageAccount. -/
def BackupSurvives (rsp : Response) : Prop :=
  ∀ order left, DeletionOrder rsp (Deletable rsp) order left →
    ¬ Destroys rsp order "backup-storage-account"

variable {now : String} {req : Request}

theorem deletable_iff (c : Component) :
    Deletable (reconcile now req) c.name ↔ c.gate req.gates = true ∧
      ∃ route, c.route = some route ∧ allows (route.policies (req.config now)) .delete = true := by
  constructor
  · rintro ⟨r, policies, hr, hpolicies, hallows⟩
    obtain ⟨hgate, rfl⟩ := (lookup_reconcile_component c).mp hr
    rw [policies?_composed, Option.map_eq_some_iff] at hpolicies
    obtain ⟨route, hroute, rfl⟩ := hpolicies
    exact ⟨hgate, route, hroute, hallows⟩
  · rintro ⟨hgate, route, hroute, hallows⟩
    refine ⟨_, _, (lookup_reconcile_component c).mpr ⟨hgate, rfl⟩, ?_, hallows⟩
    rw [policies?_composed, hroute]
    rfl

/-- The account is always placed in the resource group of the Network XR. -/
theorem account_placed (hbackup : req.backupEnabled = true) :
    PlacedInNetwork (reconcile now req) "backup-storage-account" := by
  refine ⟨req.idVal, ?_, ?_⟩
  · have hnetwork : (reconcile now req).resources.lookup "network" =
        some (Component.network.composed now req) :=
      (lookup_reconcile_component .network).mpr ⟨rfl, rfl⟩
    rw [networkId, hnetwork]
    rfl
  · have hgate : Component.backupStorageAccount.gate req.gates = true := hbackup
    refine (at?_reconcile .backupStorageAccount _).trans ?_
    rw [if_pos hgate]
    rfl

theorem account_not_deletable :
    ¬ Deletable (reconcile now req) "backup-storage-account" := by
  intro hdeletable
  obtain ⟨-, route, hroute, hallows⟩ := (deletable_iff .backupStorageAccount).mp hdeletable
  obtain rfl : .storage = route := Option.some.inj hroute
  rw [Route.policies_storage] at hallows
  cases hallows

theorem observe_not_deletable :
    ¬ Deletable (reconcile now req) "k8gb-coredns-observe" := by
  intro hdeletable
  obtain ⟨-, route, hroute, hallows⟩ := (deletable_iff .k8gbCorednsObserve).mp hdeletable
  obtain rfl : .observe = route := Option.some.inj hroute
  cases hallows

theorem deletable_iff_of_mode (c : Component) (hgate : c.gate req.gates = true)
    (hroute : c.route = some .mode) :
    Deletable (reconcile now req) c.name ↔
      req.managementMode ∉ ["Provision", "ObserveOnly"] := by
  rw [deletable_iff, hroute]
  constructor
  · rintro ⟨-, route, hmode, hallows⟩
    obtain rfl : .mode = route := Option.some.inj hmode
    exact Route.policies_mode_delete_iff.mp hallows
  · exact fun hmode => ⟨hgate, .mode, rfl, Route.policies_mode_delete_iff.mpr hmode⟩

/-- Every guard but the CoreDNS observe Object has the mode's policies. -/
theorem guard_route {u x g : Component} (hpair : u.guardPair = some (x, g))
    (hg : g ≠ .k8gbCorednsObserve) : g.route = some .mode := by
  cases u <;> cases hpair <;> first | rfl | exact absurd rfl hg

/-- With k8gb the observe Object guards the AKS XR, which guards the Network XR. -/
theorem observe_guards_network (hk8gb : req.k8gbEnabled = true) :
    Relation.ReflTransGen (GuardLink (reconcile now req)) "k8gb-coredns-observe" "network" := by
  have haks : GuardLink (reconcile now req) "k8gb-coredns-observe" "aks" :=
    guardLink_of_pair .usageK8gbCorednsAks .aks .k8gbCorednsObserve rfl hk8gb hk8gb rfl
  have hnetwork : GuardLink (reconcile now req) "aks" "network" :=
    guardLink_of_pair .usageAksNetwork .network .aks rfl rfl rfl rfl
  exact (Relation.ReflTransGen.single haks).tail hnetwork

/-- Without k8gb every guard follows the mode. -/
theorem guard_deletable (hmode : req.managementMode ∉ ["Provision", "ObserveOnly"])
    (hk8gb : req.k8gbEnabled = false) {a b : String}
    (hlink : GuardLink (reconcile now req) a b) : Deletable (reconcile now req) a := by
  obtain ⟨u, x, g, rfl, hpair, hgate⟩ := exists_of_guardLink hlink
  have hne : g ≠ .k8gbCorednsObserve := by
    rintro rfl
    exact absurd hgate (by simp [gate, Request.gates, hk8gb])
  exact (deletable_iff_of_mode g hgate (guard_route hpair hne)).mpr hmode

theorem network_deletable_iff :
    Deletable (reconcile now req) "network" ↔
      req.managementMode ∉ ["Provision", "ObserveOnly"] :=
  deletable_iff_of_mode .network rfl rfl

/-- Some deletion order removes the Network XR exactly when the mode allows Delete and
no CoreDNS observe Object holds the AKS XR. -/
theorem network_removable_iff :
    (∃ order left, DeletionOrder (reconcile now req) (Deletable (reconcile now req)) order left ∧
      "network" ∈ order) ↔
      req.managementMode ∉ ["Provision", "ObserveOnly"] ∧ req.k8gbEnabled = false := by
  have hnetwork : "network" ∈ removable (reconcile now req) :=
    (mem_removable_iff .network).mpr ⟨rfl, rfl⟩
  rw [reconcile_ranked.removed_iff hnetwork]
  constructor
  · intro hall
    -- with k8gb the observe Object would have to be deletable as well
    refine ⟨network_deletable_iff.mp (hall "network" Relation.ReflTransGen.refl), ?_⟩
    by_contra hk8gb
    rw [Bool.not_eq_false] at hk8gb
    exact observe_not_deletable (hall _ (observe_guards_network hk8gb))
  · rintro ⟨hmode, hk8gb⟩ g hchain
    rcases Relation.ReflTransGen.cases_head hchain with rfl | ⟨x, hlink, -⟩
    · exact network_deletable_iff.mpr hmode
    · exact guard_deletable hmode hk8gb hlink

/-- The account survives exactly when no deletion order removes the Network XR. -/
theorem backupSurvives_iff_network (hbackup : req.backupEnabled = true) :
    BackupSurvives (reconcile now req) ↔
      ¬ ∃ order left, DeletionOrder (reconcile now req) (Deletable (reconcile now req)) order
        left ∧ "network" ∈ order := by
  constructor
  · rintro hsurvives ⟨order, left, horder, hmem⟩
    exact hsurvives order left horder (Or.inr ⟨hmem, account_placed hbackup⟩)
  · rintro hnot order left horder (haccount | ⟨hmem, -⟩)
    · exact account_not_deletable (horder.deletable_of_mem haccount)
    · exact hnot ⟨order, left, horder, hmem⟩

/-- **Backup survival.** With backup enabled, no deletion of the XR removes the backup
StorageAccount exactly when the mode is Provision or ObserveOnly, or k8gb is enabled. -/
theorem backupSurvives_iff (hbackup : req.backupEnabled = true) :
    BackupSurvives (reconcile now req) ↔
      req.managementMode ∈ ["Provision", "ObserveOnly"] ∨ req.k8gbEnabled = true := by
  rw [backupSurvives_iff_network hbackup, network_removable_iff, not_and_or, not_not,
    Bool.not_eq_false]

/-- A control plane with backup under the given mode. -/
def backedUp (mode : String) : Request where
  composite :=
    { parameters :=
        { Parameters.required "cp" "eastus" { count := some 3 } with
          backup := some { enabled := some "yes", location := some "acct/backups" }
          managementMode := some mode } }

/-- Under Provision the backup survives. -/
theorem backupSurvives_provision :
    BackupSurvives (reconcile "2026-03-01T00:00:00Z" (backedUp "Provision")) :=
  (backupSurvives_iff rfl).mpr (Or.inl (by decide))

/-- Under Full it does not: the account goes with the resource group. -/
theorem not_backupSurvives_full :
    ¬ BackupSurvives (reconcile "2026-03-01T00:00:00Z" (backedUp "Full")) := by
  rw [backupSurvives_iff_network rfl, not_not, network_removable_iff]
  exact ⟨by decide, rfl⟩

end AzureCtp
