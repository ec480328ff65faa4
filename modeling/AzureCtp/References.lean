import AzureCtp.Backup.Location
import AzureCtp.K8gb.Names
import AzureCtp.Names

/-!
# References of the composed resources

Missing values read as empty strings. What a composed resource refers to (accounts,
buckets, principals, zones, host names) is then a name or nothing, depending on whether
the schema requires the value, a gate waits for it, or neither. `Component.inputs` lists
the strings that each component passes on, so that a response is fully specified exactly
when these are.

## Main results

* `referenced_composed`, `externalName?_composed`: what each component refers to
* `fullySpecified_iff`: when every composed resource is fully specified
-/

set_option autoImplicit false

namespace AzureCtp

open Component Document Value

/-- Where the references to outside names stand, below `spec.forProvider`. -/
def referencePaths : List (List Step) :=
  [[.field "storageAccountNameRef", .field "name"],
   [.field "principalId"],
   [.field "scope"],
   [.field "issuer"],
   [.field "manifest", .field "spec", .field "objectStorage", .field "bucket"],
   [.field "manifest", .field "spec", .field "objectStorage", .field "config",
     .field "storage_account"],
   [.field "manifest", .field "spec", .field "backupLocation", .field "bucket"],
   [.field "manifest", .field "spec", .field "backupRef", .field "name"],
   [.field "values", .field "k8gb", .field "dnsZones", .items, .field "loadBalancedZone"],
   [.field "values", .field "k8gb", .field "dnsZones", .items, .field "parentZone"],
   [.field "manifest", .field "spec", .field "listeners", .items, .field "hostname"],
   [.field "manifest", .field "spec", .field "hostnames", .items],
   [.field "manifest", .field "spec", .field "dnsNames", .items],
   [.field "manifest", .field "spec", .field "source", .field "repoURL"]]

namespace Resource

/-- The values at the reference paths. -/
def referenced (r : Resource) : List Value :=
  r.managed?.toList.flatMap fun spec => referencePaths.flatMap spec.forProvider.select

/-- The external name the resource is annotated with. -/
def externalName? (r : Resource) : Option String :=
  r.metadata.annotations.lookup "crossplane.io/external-name"

/-- The resource has a name, and neither its external name nor a reference is empty. -/
structure Specified (r : Resource) : Prop where
  name : r.metadata.name ≠ ""
  externalName : ∀ n, r.externalName? = some n → n ≠ ""
  referenced : ∀ v ∈ r.referenced, v ≠ .str ""

end Resource

/-- No half-specified resource is composed. -/
def FullySpecified (rsp : Response) : Prop :=
  ∀ n r, rsp.resources.lookup n = some r → r.Specified

namespace Component

/-- The external name of a component. -/
def externalName? (req : Request) : Component → Option String
  | backupStorageAccount => some req.storageAccount
  | backupContainer => some req.containerName
  | k8gbRelease => some "k8gb"
  | argocdRelease => some "argocd"
  | _ => none

/-- What a component refers to. -/
def inputs (req : Request) : Component → List String
  | backupContainer => [req.storageAccount]
  | backupConfig => [req.containerName, req.storageAccount]
  | backupFederation => [req.oidcIssuerUrl]
  | backupRole => [req.principalId, req.storageAccountId]
  | backupRestore => [(restoreSource req.installFrom).2.1, (restoreSource req.installFrom).2.2]
  | k8gbIpRole => [req.k8gbClusterPrincipalId,
      String.ofList (beforeFirst "/providers/".toList req.k8gbPublicIpId.toList)]
  | k8gbRelease => [(req.k8gb.getD {}).dnsZone.getD "", (req.k8gb.getD {}).parentZone.getD ""]
  | argocdGateway | argocdHttproute | argocdCert => [(req.argocd.getD {}).hostname.getD ""]
  | argocdApp => [(req.argocd.getD {}).url.getD ""]
  | _ => []

end Component

variable {now : String} {req : Request}

/-! ### What a component refers to -/

section Sweep

variable (policies : List ManagementPolicy) (r : Resource)

theorem externalName?_orphanPolicy : (orphanPolicy policies r).externalName? = r.externalName? := by
  unfold orphanPolicy
  split
  · split_ifs <;> rfl
  · rfl

theorem referenced_orphanPolicy : (orphanPolicy policies r).referenced = r.referenced := by
  unfold orphanPolicy
  split
  · split_ifs
    · rfl
    · rename_i spec hspec _
      simp [Resource.referenced, Resource.managed?, hspec]
  · rfl

end Sweep

theorem externalName?_stamp (r : Resource) (config : Config) (azureTags : Bool) :
    (stamp r config azureTags).externalName? = r.externalName? :=
  lookup_setField_of_ne (by decide) _ _

/-- The readiness mark is no external name. -/
theorem externalName?_of_readyMark {r : Resource} {deployed : Bool} (own : List (String × String))
    (hannotations : r.metadata.annotations = own ++ readyMark deployed) :
    r.externalName? = own.lookup "crossplane.io/external-name" := by
  rw [Resource.externalName?, hannotations, List.lookup_append]
  cases deployed <;> exact Option.or_none

theorem externalName?_composed (c : Component) :
    (c.composed now req).externalName? = c.externalName? req := by
  rw [composed, externalName?_orphanPolicy]
  cases c with
  | uxpRelease | certmanagerRelease | envoyGatewayRelease | knativeOperatorRelease =>
    exact (externalName?_stamp _ _ _).trans
      (externalName?_of_readyMark [compositionResourceName _] rfl)
  | _ => rfl

theorem referenced_composed (c : Component) :
    (c.composed now req).referenced = (c.inputs req).map .str := by
  rw [composed, referenced_orphanPolicy]
  cases c <;> rfl

/-- A component of a control plane with an id is fully specified when what it passes on
is. -/
theorem specified_composed_iff (hid : req.idVal ≠ "") (c : Component) :
    (c.composed now req).Specified ↔
      (∀ n, c.externalName? req = some n → n ≠ "") ∧ ∀ s ∈ c.inputs req, s ≠ "" := by
  have hreferenced : (∀ v ∈ (c.inputs req).map Value.str, v ≠ .str "") ↔
      ∀ s ∈ c.inputs req, s ≠ "" := by
    simp
  constructor
  · rintro ⟨-, hexternal, href⟩
    rw [externalName?_composed] at hexternal
    rw [referenced_composed, hreferenced] at href
    exact ⟨hexternal, href⟩
  · rintro ⟨hexternal, href⟩
    refine ⟨?_, by rwa [externalName?_composed], by rwa [referenced_composed, hreferenced]⟩
    -- every other name begins with the id
    by_cases hc : c = backupStorageAccount
    · -- the storage account is named like its external name
      subst hc
      exact hexternal req.storageAccount rfl
    · rw [name_composed hc]
      exact fun hempty => hid (String.append_eq_empty_iff.mp hempty).1

/-! ### When all is specified -/

/-- What the schema should have required, or a gate should have waited for. -/
structure Request.Specifies (req : Request) : Prop where
  location : req.backupEnabled = true → req.backup.location ≠ none
  hostname : req.argocdEnabled = true → req.gatewayReady = true ∨ req.certmanagerReady = true →
    (req.argocd.getD {}).hostname.getD "" ≠ ""
  url : req.argocdEnabled = true → req.argocdDeployed = true →
    (req.argocd.getD {}).url.getD "" ≠ ""
  scope : req.k8gbEnabled = true → req.k8gbRoleEmitted = true →
    ¬ "/providers/".toList <+: req.k8gbPublicIpId.toList

theorem beforeFirst_eq_nil_iff {sep text : List Char} (htext : text ≠ []) :
    beforeFirst sep text = [] ↔ sep <+: text := by
  cases text with
  | nil => exact absurd rfl htext
  | cons c rest =>
    rw [beforeFirst, ← List.isPrefixOf_iff_prefix]
    split_ifs with hbegins
    · simp [hbegins]
    · simp [hbegins]

/-- An admitted location has an account and a container. -/
theorem storage_ne (hadmitted : req.params.admitted = true)
    (hlocation : req.backup.location ≠ none) :
    req.storageAccount ≠ "" ∧ req.containerName ≠ "" := by
  obtain ⟨location, hgiven⟩ := Option.ne_none_iff_exists'.mp hlocation
  have hmatches : matchesBlobPattern location = true := by
    unfold Request.backup at hgiven
    cases hbackup : req.params.backup with
    | none =>
      rw [hbackup] at hgiven
      cases hgiven
    | some backup =>
      rw [hbackup, Option.getD_some] at hgiven
      have hvalid := (Parameters.checked_of_valid hadmitted).backup
      rw [Parameters.defaulted, hbackup, Option.map_some, Option.all_some] at hvalid
      simp only [Backup.valid, Backup.defaulted, hgiven, Option.all_some,
        Bool.and_eq_true] at hvalid
      exact hvalid.1.2
  have hparts := ((matchesBlobPattern_iff location).mp hmatches).parse_ne
  rw [Request.storageAccount, Request.containerName, hgiven]
  exact hparts

/-- The zones of an admitted control plane with k8gb have names. -/
theorem zones_ne (hadmitted : req.params.admitted = true) (henabled : req.k8gbEnabled = true) :
    (req.k8gb.getD {}).dnsZone.getD "" ≠ "" ∧ (req.k8gb.getD {}).parentZone.getD "" ≠ "" := by
  have hcp : req.composite.AdmittedWithK8gb := by
    refine ⟨hadmitted, ?_⟩
    unfold Request.k8gbEnabled at henabled
    obtain ⟨k8gb, hk8gb, hon⟩ := (Option.any_eq_true _ _).mp henabled
    change (req.k8gb.getD {}).enabled = some "yes"
    rw [hk8gb]
    exact beq_iff_eq.mp hon
  exact hcp.zones_ne

/-- A composed RoleAssignment has a scope unless the id of the address starts with the
part that is cut off. -/
theorem scope_ne_iff (hrole : req.k8gbRoleEmitted = true) :
    String.ofList (beforeFirst "/providers/".toList req.k8gbPublicIpId.toList) ≠ "" ↔
      ¬ "/providers/".toList <+: req.k8gbPublicIpId.toList := by
  have hid : req.k8gbPublicIpId.toList ≠ [] := by
    simp only [Request.k8gbRoleEmitted, Bool.and_eq_true, bne_iff_ne] at hrole
    exact fun hnil => hrole.1 (String.toList_inj.mp hnil)
  rw [← beforeFirst_eq_nil_iff hid, Ne, String.ofList_eq_empty_iff]

/-- A response is fully specified when what its components pass on is. -/
theorem fullySpecified_components (hid : req.idVal ≠ "") :
    FullySpecified (reconcile now req) ↔
      ∀ c : Component, c.gate req.gates = true →
        (∀ n, c.externalName? req = some n → n ≠ "") ∧ ∀ s ∈ c.inputs req, s ≠ "" := by
  constructor
  · intro h c hgate
    have hspecified := h c.name (c.composed now req)
      ((lookup_reconcile_component c).mpr ⟨hgate, rfl⟩)
    exact (specified_composed_iff hid c).mp hspecified
  · intro h n r hr
    obtain ⟨c, hgate, rfl, rfl⟩ := lookup_reconcile_iff.mp hr
    exact (specified_composed_iff hid c).mpr (h c hgate)

/-- What the components of a specified request pass on is not empty. -/
theorem Request.Specifies.inputs_ne (h : req.Specifies) (hadmitted : req.params.admitted = true)
    {c : Component} (hgate : c.gate req.gates = true) :
    (∀ n, c.externalName? req = some n → n ≠ "") ∧ ∀ s ∈ c.inputs req, s ≠ "" := by
  cases c with
  | backupStorageAccount =>
    have hstorage := storage_ne hadmitted (h.location hgate)
    exact ⟨fun n hn => Option.some.inj hn ▸ hstorage.1, List.forall_mem_nil _⟩
  | backupContainer =>
    have hstorage := storage_ne hadmitted (h.location hgate)
    exact ⟨fun n hn => Option.some.inj hn ▸ hstorage.2, List.forall_mem_singleton.mpr hstorage.1⟩
  | backupConfig =>
    have hstorage := storage_ne hadmitted (h.location hgate)
    refine ⟨nofun, List.forall_mem_cons.mpr ⟨hstorage.2, ?_⟩⟩
    exact List.forall_mem_singleton.mpr hstorage.1
  | backupFederation =>
    -- composed only once the issuer is known
    obtain ⟨-, hworkload⟩ := Bool.and_eq_true_iff.mp hgate
    have hissuer := (Bool.and_eq_true_iff.mp hworkload).1
    exact ⟨nofun, List.forall_mem_singleton.mpr (bne_iff_ne.mp hissuer)⟩
  | backupRole =>
    obtain ⟨-, hids⟩ := Bool.and_eq_true_iff.mp hgate
    obtain ⟨hprincipal, haccount⟩ := Bool.and_eq_true_iff.mp hids
    refine ⟨nofun, List.forall_mem_cons.mpr ⟨bne_iff_ne.mp hprincipal, ?_⟩⟩
    exact List.forall_mem_singleton.mpr (bne_iff_ne.mp haccount)
  | backupRestore =>
    obtain ⟨-, hrestorable⟩ := Bool.and_eq_true_iff.mp hgate
    obtain ⟨hsource, hname⟩ := Bool.and_eq_true_iff.mp hrestorable
    have hcontainer := (Bool.and_eq_true_iff.mp hsource).2
    refine ⟨nofun, List.forall_mem_cons.mpr ⟨bne_iff_ne.mp hcontainer, ?_⟩⟩
    exact List.forall_mem_singleton.mpr (bne_iff_ne.mp hname)
  | k8gbIpRole =>
    obtain ⟨hk8gb, hrole⟩ := Bool.and_eq_true_iff.mp hgate
    have hprincipal := bne_iff_ne.mp (Bool.and_eq_true_iff.mp hrole).2
    refine ⟨nofun, List.forall_mem_cons.mpr ⟨hprincipal, List.forall_mem_singleton.mpr ?_⟩⟩
    exact (scope_ne_iff hrole).mpr (h.scope hk8gb hrole)
  | k8gbRelease =>
    have hzones := zones_ne hadmitted hgate
    refine ⟨fun n hn => Option.some.inj hn ▸ by decide, ?_⟩
    exact List.forall_mem_cons.mpr ⟨hzones.1, List.forall_mem_singleton.mpr hzones.2⟩
  | argocdRelease => exact ⟨fun n hn => Option.some.inj hn ▸ by decide, List.forall_mem_nil _⟩
  | argocdGateway | argocdHttproute =>
    obtain ⟨hargocd, hgateway⟩ := Bool.and_eq_true_iff.mp hgate
    exact ⟨nofun, List.forall_mem_singleton.mpr (h.hostname hargocd (Or.inl hgateway))⟩
  | argocdCert =>
    obtain ⟨hargocd, hcertmanager⟩ := Bool.and_eq_true_iff.mp hgate
    exact ⟨nofun, List.forall_mem_singleton.mpr (h.hostname hargocd (Or.inr hcertmanager))⟩
  | argocdApp =>
    obtain ⟨hargocd, hdeployed⟩ := Bool.and_eq_true_iff.mp hgate
    exact ⟨nofun, List.forall_mem_singleton.mpr (h.url hargocd hdeployed)⟩
  | _ => exact ⟨nofun, List.forall_mem_nil _⟩

/-- Every composed resource is fully specified exactly when the inputs are. -/
theorem fullySpecified_iff (hadmitted : req.params.admitted = true) (hid : req.idVal ≠ "") :
    FullySpecified (reconcile now req) ↔ req.Specifies := by
  rw [fullySpecified_components hid]
  constructor
  · intro h
    refine ⟨fun hbackup hnone => ?_, fun hargocd hready => ?_, fun hargocd hdeployed => ?_,
      fun hk8gb hrole => ?_⟩
    · refine (h backupStorageAccount hbackup).1 req.storageAccount rfl ?_
      rw [Request.storageAccount, hnone]
      rfl
    · rcases hready with hgateway | hcertmanager
      · exact (h .argocdGateway (Bool.and_eq_true_iff.mpr ⟨hargocd, hgateway⟩)).2 _
          List.mem_cons_self
      · exact (h .argocdCert (Bool.and_eq_true_iff.mpr ⟨hargocd, hcertmanager⟩)).2 _
          List.mem_cons_self
    · exact (h .argocdApp (Bool.and_eq_true_iff.mpr ⟨hargocd, hdeployed⟩)).2 _ List.mem_cons_self
    · rw [← scope_ne_iff hrole]
      exact (h .k8gbIpRole (Bool.and_eq_true_iff.mpr ⟨hk8gb, hrole⟩)).2 _
        (List.mem_cons_of_mem _ List.mem_cons_self)
  · exact fun h c hgate => h.inputs_ne hadmitted hgate

/-- An admitted control plane with backups whose location is left out. -/
def locationOmitted : Request where
  composite :=
    { parameters :=
        { Parameters.required "cp" "eastus" { count := some 3 } with
          backup := some { enabled := some "yes" } } }

/-- Its storage account has no name. -/
theorem not_fullySpecified_locationOmitted :
    locationOmitted.params.admitted = true ∧ locationOmitted.idVal ≠ "" ∧
      locationOmitted.location ≠ "" ∧
      ¬ FullySpecified (reconcile "2026-03-01T00:00:00Z" locationOmitted) := by
  refine ⟨by decide, by decide, by decide, fun hspecified => ?_⟩
  have haccount : (reconcile "2026-03-01T00:00:00Z" locationOmitted).resources.lookup
      "backup-storage-account" = some _ :=
    (lookup_reconcile_component backupStorageAccount).mpr ⟨by decide, rfl⟩
  exact (hspecified _ _ haccount).name rfl

/-- With backup, k8gb and Argo CD on and all that their gates read observed, everything is
specified. -/
theorem fullySpecified_equipped :
    FullySpecified (reconcile "2026-03-02T00:00:00Z" (equippedWith awaited)) := by
  refine (fullySpecified_iff (by decide) (by decide)).mpr ⟨?_, ?_, ?_, ?_⟩
  · exact fun _ => by decide
  · exact fun _ _ => by decide
  · exact fun _ _ => by decide
  · exact fun _ _ => by decide

end AzureCtp
