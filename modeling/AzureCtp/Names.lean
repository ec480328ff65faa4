import AzureCtp.Components
import AzureCtp.Library.Joined

/-!
# Names of the composed resources

In a cluster a resource is what its apiVersion, kind, namespace and name say. Every
component but the backup storage account is named by the id of the control plane and a
suffix of its own. Ids may contain dashes, like the suffixes, but for no kind is one suffix
the ending of another, so a name determines the id and the suffix. The storage account
has a globally unique name that the user chooses.

## Main results

* `ident_injective`: kind and suffix identify a component
* `composed_injective`: so do kind and name of a composed resource
* `keys_apart`: resources of one response have distinct keys, those of two control planes
  share a key exactly if they are one storage account
-/

set_option autoImplicit false

namespace AzureCtp

open Document Joined

namespace Component

/-- What follows the id in `metadata.name`. -/
def suffix : Component → String
  | network | aks => ""
  | uxpRelease => "-uxp"
  | certmanagerRelease => "-certmanager"
  | envoyGatewayRelease => "-envoy-gateway"
  | k8gbRelease => "-k8gb"
  | k8gbCorednsObserve => "-k8gb-coredns"
  | argocdRelease => "-argocd"
  | vpaRelease => "-vpa"
  | knativeOperatorRelease => "-knative-operator"
  | c => "-" ++ c.name

theorem idents_nodup : (all.map fun c => (c.kind, c.suffix)).Nodup := by decide

/-- Kind and suffix identify a component. -/
theorem ident_injective {c d : Component} (hkind : c.kind = d.kind)
    (hsuffix : c.suffix = d.suffix) : c = d :=
  List.inj_on_of_nodup_map idents_nodup (mem_all c) (mem_all d) (Prod.ext hkind hsuffix)

/-- No suffix is the ending of another one of the same kind. -/
theorem suffix_free {c d : Component} (hkind : c.kind = d.kind)
    (hsuffix : c.suffix.toList <:+ d.suffix.toList) : c.suffix = d.suffix := by
  have hall : ∀ c ∈ all, ∀ d ∈ all, c.kind = d.kind →
      c.suffix.toList.isSuffixOf d.suffix.toList = true → c.suffix = d.suffix := by
    decide +kernel
  exact hall c (mem_all c) d (mem_all d) hkind (List.isSuffixOf_iff_suffix.mpr hsuffix)

variable {now : String} {req : Request}

theorem name_composed {c : Component} (hc : c ≠ backupStorageAccount) :
    (c.composed now req).metadata.name = req.idVal ++ c.suffix := by
  cases c <;>
    first
    | exact absurd rfl hc
    | rfl
    | exact String.append_empty.symm
    | exact String.append_assoc

theorem kind_eq_account_iff (c : Component) : c.kind = "Account" ↔ c = backupStorageAccount := by
  cases c <;> decide

end Component

open Component

variable {now now' : String} {req req' : Request}

/-- Of two composed resources of one kind both or none are storage accounts. -/
theorem account_iff_of_kind {c d : Component} (hkind : c.kind = d.kind) :
    c = backupStorageAccount ↔ d = backupStorageAccount := by
  rw [← kind_eq_account_iff, ← kind_eq_account_iff, hkind]

/-- Kind and name of a resource that is no storage account determine the id and the
component. -/
theorem composed_inj {c d : Component} (hc : c ≠ backupStorageAccount)
    (hkind : (c.composed now req).kind = (d.composed now' req').kind)
    (hname : (c.composed now req).metadata.name = (d.composed now' req').metadata.name) :
    req.idVal = req'.idVal ∧ c = d := by
  rw [kind_composed, kind_composed] at hkind
  have hd : d ≠ backupStorageAccount := fun h => hc ((account_iff_of_kind hkind).mpr h)
  rw [name_composed hc, name_composed hd] at hname
  obtain ⟨hid, hsuffix⟩ := append_inj_of_suffixFree hname (suffix_free hkind)
    fun hending => (suffix_free hkind.symm hending).symm
  exact ⟨hid, ident_injective hkind hsuffix⟩

/-- Kind and name identify a composed resource. -/
theorem composed_injective {c d : Component}
    (hkind : (c.composed now req).kind = (d.composed now req).kind)
    (hname : (c.composed now req).metadata.name = (d.composed now req).metadata.name) :
    c = d := by
  by_cases hc : c = backupStorageAccount
  · rw [kind_composed, kind_composed] at hkind
    rw [hc, (account_iff_of_kind hkind).mp hc]
  · exact (composed_inj hc hkind hname).2

/-! ### Keys -/

/-- What identifies a resource in the cluster. -/
def Resource.key (r : Resource) : String × String × String × String :=
  (r.apiVersion, r.kind, r.metadata.ns, r.metadata.name)

theorem key_backupStorageAccount (now : String) (req : Request) :
    (backupStorageAccount.composed now req).key =
      ("storage.azure.m.upbound.io/v1beta1", "Account", req.ns, req.storageAccount) := rfl

/-- **Resources are told apart.** The resources of one response have distinct keys. For two
control planes of one namespace with different ids the resources share a key exactly if
both are the backup storage account and both control planes name the same one. -/
theorem keys_apart :
    (∀ now req m n r s, (reconcile now req).resources.lookup m = some r →
      (reconcile now req).resources.lookup n = some s → r.key = s.key → m = n) ∧
    ∀ now now' req req', req.ns = req'.ns → req.idVal ≠ req'.idVal →
      ∀ m n r s, (reconcile now req).resources.lookup m = some r →
        (reconcile now' req').resources.lookup n = some s →
          (r.key = s.key ↔ m = "backup-storage-account" ∧ n = "backup-storage-account" ∧
            req.storageAccount = req'.storageAccount) := by
  constructor
  · intro now req m n r s hr hs hkey
    obtain ⟨c, -, rfl, rfl⟩ := lookup_reconcile_iff.mp hr
    obtain ⟨d, -, rfl, rfl⟩ := lookup_reconcile_iff.mp hs
    simp only [Resource.key, Prod.mk.injEq] at hkey
    rw [composed_injective hkey.2.1 hkey.2.2.2]
  · intro now now' req req' hns hid m n r s hr hs
    obtain ⟨c, -, rfl, rfl⟩ := lookup_reconcile_iff.mp hr
    obtain ⟨d, -, rfl, rfl⟩ := lookup_reconcile_iff.mp hs
    constructor
    · intro hkey
      simp only [Resource.key, Prod.mk.injEq] at hkey
      obtain ⟨-, hkind, -, hname⟩ := hkey
      -- any other component has the id in its name
      have hc : c = backupStorageAccount := by
        by_contra hc
        exact hid (composed_inj hc hkind hname).1
      rw [kind_composed, kind_composed] at hkind
      obtain rfl := (account_iff_of_kind hkind).mp hc
      subst hc
      exact ⟨rfl, rfl, hname⟩
    · rintro ⟨hm, hn, haccount⟩
      obtain rfl : c = backupStorageAccount := name_injective hm
      obtain rfl : d = backupStorageAccount := name_injective hn
      rw [key_backupStorageAccount, key_backupStorageAccount, hns, haccount]

/-- A control plane whose backups go to a common location. -/
def backedUpTogether (id : String) : Request where
  composite :=
    { parameters :=
        { Parameters.required id "eastus" { count := some 3 } with
          backup := some { enabled := some "yes", location := some "fleetbackups/ctp" } } }

theorem lookup_backedUpTogether (now id : String) (c : Component)
    (hgate : c.gate (backedUpTogether id).gates = true) :
    (reconcile now (backedUpTogether id)).resources.lookup c.name =
      some (c.composed now (backedUpTogether id)) :=
  (lookup_reconcile_component c).mpr ⟨hgate, rfl⟩

/-- Their Networks are apart. -/
theorem keys_apart_networks :
    let now := "2026-03-01T00:00:00Z"
    (network.composed now (backedUpTogether "cp-a")).key ≠
      (network.composed now (backedUpTogether "cp-b")).key := by
  intro now hkey
  have hns : (backedUpTogether "cp-a").ns = (backedUpTogether "cp-b").ns := rfl
  have hid : (backedUpTogether "cp-a").idVal ≠ (backedUpTogether "cp-b").idVal := by decide
  have ha := lookup_backedUpTogether now "cp-a" network rfl
  have hb := lookup_backedUpTogether now "cp-b" network rfl
  obtain ⟨hname, -⟩ := (keys_apart.2 _ _ _ _ hns hid _ _ _ _ ha hb).mp hkey
  exact absurd hname (by decide)

/-- Both compose the storage account of the location. -/
theorem shared_storageAccount :
    let now := "2026-03-01T00:00:00Z"
    (backedUpTogether "cp-a").ns = (backedUpTogether "cp-b").ns ∧
      (backedUpTogether "cp-a").idVal ≠ (backedUpTogether "cp-b").idVal ∧
      ∃ m n r s, (reconcile now (backedUpTogether "cp-a")).resources.lookup m = some r ∧
        (reconcile now (backedUpTogether "cp-b")).resources.lookup n = some s ∧
        r.key = s.key := by
  intro now
  have ha := lookup_backedUpTogether now "cp-a" backupStorageAccount (by decide)
  have hb := lookup_backedUpTogether now "cp-b" backupStorageAccount (by decide)
  refine ⟨rfl, by decide, _, _, _, _, ha, hb, ?_⟩
  rw [key_backupStorageAccount, key_backupStorageAccount]
  rfl

end AzureCtp
