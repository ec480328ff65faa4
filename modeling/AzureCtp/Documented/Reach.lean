import AzureCtp.Documented.Effect
import AzureCtp.Invariance.Clock

/-!
# Documented parameters reach the resources

With every gate open, each value read from the parameters stands somewhere in a composed
resource and can be read back from it. What cannot be read back are values that no
resource depends on: the bounds of the vertical autoscaling and the strategy of k8gb, and
beyond these only different spellings of one setting.

## Main results

* `sameResources_of_sameEffect`: parameters of the same effect compose the same resources
* `SameResources.effect`: the effect is read back from the resources
* `reaches_iff`: so these are exactly the differences that are dropped
-/

set_option autoImplicit false

namespace AzureCtp

open Component Document

/-- The composed resources of two responses differ in their stamps at most. -/
def SameResources (a b : Response) : Prop :=
  ∀ n, (a.resources.lookup n).map Resource.unstamped =
    (b.resources.lookup n).map Resource.unstamped

/-! ### Stamps -/

theorem SameResources.trans {a b c : Response} (hab : SameResources a b)
    (hbc : SameResources b c) : SameResources a c := fun n => (hab n).trans (hbc n)

theorem sameResources_of_eq {a b : Response} (heq : a.resources = b.resources) :
    SameResources a b := fun n => by rw [heq]

/-- The clock changes stamps only. -/
theorem sameResources_now (now now' : String) (req : Request) :
    SameResources (reconcile now req) (reconcile now' req) := by
  intro n
  have hsame := sameUpToStamps_now now now' req
  by_cases hn : n ∈ azureTagged
  · -- stamped in its tags as well
    exact hsame.tagged n hn
  · have hrest := congrArg (Option.map Resource.untagged) (hsame.rest n hn)
    rw [Option.map_map, Option.map_map] at hrest
    exact hrest

/-! ### Reading the effect back -/

theorem managed?_unstamped (r : Resource) :
    r.unstamped.managed? = r.managed?.map fun spec =>
      { spec with
        forProvider := spec.forProvider.modify "tags" fun tags => tags.erase stampKey } := by
  obtain ⟨apiVersion, kind, metadata, spec⟩ := r
  cases spec <;> rfl

/-- Only the tags are stamped below `spec.forProvider`. -/
theorem forProvider?_unstamped {key : String} (hkey : key ≠ "tags") (path : List String)
    (r : Resource) : r.unstamped.forProvider? (key :: path) = r.forProvider? (key :: path) := by
  rw [Resource.forProvider?, managed?_unstamped, Resource.forProvider?]
  cases r.managed? with
  | none => rfl
  | some spec => simp only [Option.map_some, Option.bind_some, Value.at?_cons,
      Value.get?_modify_of_ne hkey]

theorem references_unstamped (r : Resource) :
    r.unstamped.managed?.map ManagedSpec.references = r.managed?.map ManagedSpec.references := by
  rw [managed?_unstamped, Option.map_map]
  rfl

theorem network?_unstamped (r : Resource) : r.unstamped.network? = r.network? := by
  obtain ⟨apiVersion, kind, metadata, spec⟩ := r
  cases spec <;> rfl

theorem aks?_unstamped (r : Resource) : r.unstamped.aks? = r.aks? := by
  obtain ⟨apiVersion, kind, metadata, spec⟩ := r
  cases spec <;> rfl

namespace SameResources

variable {now now' : String} {a b : Request}

/-- The same components are composed. -/
theorem gate_eq (h : SameResources (reconcile now a) (reconcile now' b)) (c : Component) :
    c.gate a.gates = c.gate b.gates := by
  have hc := congrArg Option.isSome (h c.name)
  rw [Option.isSome_map, Option.isSome_map, lookup_component, lookup_component] at hc
  revert hc
  cases c.gate a.gates <;> cases c.gate b.gates <;> simp

/-- What does not depend on the stamps is read alike from both. -/
theorem read {α : Type} (h : SameResources (reconcile now a) (reconcile now' b))
    (f : Resource → α) (hf : ∀ r, f r.unstamped = f r) {c : Component}
    (hgate : c.gate a.gates = true) : f (c.composed now a) = f (c.composed now' b) := by
  have hc := h c.name
  rw [lookup_component, lookup_component, if_pos hgate, if_pos (h.gate_eq c ▸ hgate),
    Option.map_some, Option.map_some, Option.some_inj] at hc
  rw [← hf, hc, hf]

theorem at_eq (h : SameResources (reconcile now a) (reconcile now' b)) {c : Component}
    (hgate : c.gate a.gates = true) {key : String} (hkey : key ≠ "tags") (path : List String) :
    (c.resource now a).forProvider? (key :: path) =
      (c.resource now' b).forProvider? (key :: path) := by
  have hread := h.read (·.forProvider? (key :: path)) (forProvider?_unstamped hkey path) hgate
  rwa [composed, composed, forProvider?_orphanPolicy, forProvider?_orphanPolicy] at hread

/-- Two strings that stand at one place of a component are the same. -/
theorem str_eq (h : SameResources (reconcile now a) (reconcile now' b)) {c : Component}
    (hgate : c.gate a.gates = true) {key : String} (hkey : key ≠ "tags") (path : List String)
    {s t : String} (hs : (c.resource now a).forProvider? (key :: path) = some (.str s))
    (ht : (c.resource now' b).forProvider? (key :: path) = some (.str t)) : s = t := by
  have hat := h.at_eq hgate hkey path
  rw [hs, ht] at hat
  exact Value.str.inj (Option.some.inj hat)

end SameResources

/-! ### Values from their readings -/

theorem eq_of_getD_eq {α : Type} {x y : Option α} {default : α} (hx : x.isSome = true)
    (hy : y.isSome = true) (h : x.getD default = y.getD default) : x = y := by
  obtain ⟨s, rfl⟩ := Option.isSome_iff_exists.mp hx
  obtain ⟨t, rfl⟩ := Option.isSome_iff_exists.mp hy
  exact congrArg some h

/-- Two admitted locations with the same parts are the same. -/
theorem location_eq {x y : Option String} (hx : x.all matchesBlobPattern = true)
    (hy : y.all matchesBlobPattern = true)
    (h : parseBlobLocation (x.getD "") = parseBlobLocation (y.getD "")) : x = y := by
  have hempty : parseBlobLocation "" = ("", "") := rfl
  cases x with
  | none =>
    cases y with
    | none => rfl
    | some t =>
      -- an admitted location never parses to empty parts
      have hne := ((matchesBlobPattern_iff t).mp hy).parse_ne.1
      rw [Option.getD_none, Option.getD_some, hempty] at h
      exact absurd (congrArg Prod.fst h).symm hne
  | some s =>
    have hs := (matchesBlobPattern_iff s).mp hx
    cases y with
    | none =>
      rw [Option.getD_none, Option.getD_some, hempty] at h
      exact absurd (congrArg Prod.fst h) hs.parse_ne.1
    | some t =>
      have ht := (matchesBlobPattern_iff t).mp hy
      rw [Option.getD_some, Option.getD_some] at h
      rw [← hs.join_parse, ← ht.join_parse, h]

/-- Two admitted sources with the same parts are the same. -/
theorem source_eq {x y : InstallFrom} (hx : x.valid = true) (hy : y.valid = true)
    (h : restoreSource (some x) = restoreSource (some y)) : x = y := by
  have hany : ∀ location : Option String, location.any matchesBlobPattern = true →
      location.all matchesBlobPattern = true := by
    intro location hlocation
    obtain ⟨l, rfl, hl⟩ := (Option.any_eq_true _ _).mp hlocation
    exact hl
  simp only [InstallFrom.valid, Bool.and_eq_true] at hx hy
  simp only [restoreSource, Option.getD_some, Prod.mk.injEq] at h
  obtain ⟨haccount, hcontainer, hname⟩ := h
  have hlocation := location_eq (hany _ hx.1) (hany _ hy.1) (Prod.ext haccount hcontainer)
  have hnames := eq_of_getD_eq hx.2 hy.2 hname
  obtain ⟨location, name⟩ := x
  obtain ⟨location', name'⟩ := y
  exact congrArg₂ InstallFrom.mk hlocation hnames

/-- The mode's list names the mode. -/
theorem modePolicies_inj : ∀ m ∈ ["Provision", "ObserveOnly", "Full", "Deprovision"],
    ∀ m' ∈ ["Provision", "ObserveOnly", "Full", "Deprovision"],
      modePolicies m = modePolicies m' → m = m' := by
  decide

theorem gate_of_open {req : Request} (h : OpenRequest req) {c : Component}
    (hc : c.gate (openGates false false false) = true) : c.gate req.gates = true := by
  have hmono : ∀ s r l, c.gate (openGates false false false) = true →
      c.gate (openGates s r l) = true := by
    cases c <;> decide
  rw [h.gates_eq]
  exact hmono _ _ _ hc

namespace SameResources

variable {now now' : String} {a b : Request}

theorem network (h : SameResources (reconcile now a) (reconcile now' b)) (ha : OpenRequest a)
    (hb : OpenRequest b) : a.params.id = b.params.id ∧ a.params.location = b.params.location ∧
      a.params.providerConfigName = b.params.providerConfigName ∧
      (a.params.network.getD {}).defaulted = (b.params.network.getD {}).defaulted ∧
      a.params.managementMode = b.params.managementMode := by
  have hread := h.read Resource.network? network?_unstamped
    (gate_of_open ha (by decide : Component.network.gate (openGates false false false) = true))
  have hparams := NetworkParameters.mk.inj (Option.some.inj hread)
  obtain ⟨hid, hlocation, haddress, hsubnet, hpolicies, hprovider⟩ := hparams
  refine ⟨eq_of_getD_eq ha.full.id hb.full.id hid,
    eq_of_getD_eq ha.full.location hb.full.location hlocation,
    eq_of_getD_eq ha.full.providerConfigName hb.full.providerConfigName hprovider, ?_, ?_⟩
  · exact congrArg₂ NetworkParam.mk (congrArg some haddress) (congrArg some hsubnet)
  · -- the four modes have different lists of policies
    obtain ⟨mode, hmode, hlisted⟩ := ha.full.managementMode
    obtain ⟨mode', hmode', hlisted'⟩ := hb.full.managementMode
    rw [Request.mgmtPolicies, Request.mgmtPolicies, Request.managementMode,
      Request.managementMode, hmode, hmode'] at hpolicies
    rw [hmode, hmode', modePolicies_inj mode hlisted mode' hlisted' hpolicies]

theorem aks (h : SameResources (reconcile now a) (reconcile now' b)) (ha : OpenRequest a)
    (hb : OpenRequest b) : a.params.version = b.params.version ∧
      a.params.nodes.map (fun nodes => (nodes.count, nodes.vmSize)) =
        b.params.nodes.map (fun nodes => (nodes.count, nodes.vmSize)) ∧
      (a.params.nodes.getD {}).availabilityZones.filter (· ≠ []) =
        (b.params.nodes.getD {}).availabilityZones.filter (· ≠ []) := by
  have hread := h.read Resource.aks? aks?_unstamped
    (gate_of_open ha (by decide : Component.aks.gate (openGates false false false) = true))
  obtain ⟨-, -, hversion, hpool, -, -⟩ := AksParameters.mk.inj (Option.some.inj hread)
  obtain ⟨hcount, hsize, hzones⟩ := AksNodes.mk.inj hpool
  refine ⟨eq_of_getD_eq ha.full.version hb.full.version hversion, ?_, hzones⟩
  obtain ⟨nodes, hnodes, hgiven, hsized⟩ := ha.full.nodes
  obtain ⟨nodes', hnodes', hgiven', hsized'⟩ := hb.full.nodes
  rw [Request.nodes, Request.nodes, hnodes, hnodes', Option.getD_some, Option.getD_some]
    at hcount hsize
  rw [hnodes, hnodes', Option.map_some, Option.map_some, eq_of_getD_eq hgiven hgiven' hcount,
    eq_of_getD_eq hsized hsized' hsize]

theorem uxp (h : SameResources (reconcile now a) (reconcile now' b)) (ha : OpenRequest a)
    (hb : OpenRequest b) : a.params.uxp = b.params.uxp := by
  have hversion : a.uxpVersion = b.uxpVersion :=
    h.str_eq (rfl : Component.uxpRelease.gate a.gates = true) (by decide : "chart" ≠ "tags")
      ["version"] rfl rfl
  obtain ⟨version, huxp⟩ := ha.full.uxp
  obtain ⟨version', huxp'⟩ := hb.full.uxp
  rw [Request.uxpVersion, Request.uxpVersion, huxp, huxp'] at hversion
  rw [huxp, huxp', show version = version' from hversion]

theorem storage (h : SameResources (reconcile now a) (reconcile now' b)) (ha : OpenRequest a)
    (hb : OpenRequest b) : (a.params.backup.getD {}).location = (b.params.backup.getD {}).location ∧
      orElseEmpty (a.params.backup.getD {}).bucketRegion (a.params.location.getD "") =
        orElseEmpty (b.params.backup.getD {}).bucketRegion (b.params.location.getD "") := by
  have hconfig : Component.backupConfig.gate a.gates = true := gate_of_open ha (by decide)
  have hgate : backupStorageAccount.gate a.gates = true := gate_of_open ha (by decide)
  have hmanifest : "manifest" ≠ "tags" := by decide
  have haccount : a.storageAccount = b.storageAccount :=
    h.str_eq hconfig hmanifest ["spec", "objectStorage", "config", "storage_account"] rfl rfl
  have hcontainer : a.containerName = b.containerName :=
    h.str_eq hconfig hmanifest ["spec", "objectStorage", "bucket"] rfl rfl
  have hregion : a.bucketRegion = b.bucketRegion :=
    h.str_eq hgate (by decide : "location" ≠ "tags") [] rfl rfl
  rw [Request.storageAccount, Request.storageAccount, ha.backup_eq, hb.backup_eq] at haccount
  rw [Request.containerName, Request.containerName, ha.backup_eq, hb.backup_eq] at hcontainer
  rw [Request.bucketRegion, Request.bucketRegion, ha.backup_eq, hb.backup_eq] at hregion
  exact ⟨location_eq ha.full.locations.1 hb.full.locations.1 (Prod.ext haccount hcontainer),
    hregion⟩

/-- The schedule is read back, or neither control plane has one. -/
theorem schedule (h : SameResources (reconcile now a) (reconcile now' b)) (ha : OpenRequest a)
    (hb : OpenRequest b) : (a.params.backup.getD {}).schedule.getD "" =
      (b.params.backup.getD {}).schedule.getD "" := by
  rw [← ha.backup_eq, ← hb.backup_eq]
  have hgate := h.gate_eq .backupSchedule
  rw [ha.gates_eq, hb.gates_eq, ← ha.backup_eq, ← hb.backup_eq] at hgate
  -- whether there is one decides on the component itself
  have hgiven : (a.backup.schedule.getD "" != "") = (b.backup.schedule.getD "" != "") := hgate
  by_cases hnone : a.backup.schedule.getD "" = ""
  · rw [hnone, bne_self_eq_false] at hgiven
    rw [hnone, bne_eq_false_iff_eq.mp hgiven.symm]
  · have hopen : Component.backupSchedule.gate a.gates = true := by
      rw [ha.gates_eq, ← ha.backup_eq]
      exact bne_iff_ne.mpr hnone
    exact h.str_eq hopen (by decide : "manifest" ≠ "tags") ["spec", "schedule"] rfl rfl

theorem argocd (h : SameResources (reconcile now a) (reconcile now' b)) (ha : OpenRequest a) :
    (a.argocd.getD {}).hostname.getD "" = (b.argocd.getD {}).hostname.getD "" ∧
      (a.argocd.getD {}).url.getD "" = (b.argocd.getD {}).url.getD "" := by
  have hcert : Component.argocdCert.gate a.gates = true := gate_of_open ha (by decide)
  have happ : Component.argocdApp.gate a.gates = true := gate_of_open ha (by decide)
  have hmanifest : "manifest" ≠ "tags" := by decide
  constructor
  · have hnames := h.at_eq hcert hmanifest ["spec", "dnsNames"]
    have hlist : [Value.str ((a.argocd.getD {}).hostname.getD "")] =
        [Value.str ((b.argocd.getD {}).hostname.getD "")] :=
      Value.list.inj (Option.some.inj hnames)
    exact Value.str.inj (List.cons.inj hlist).1
  · exact h.str_eq happ hmanifest ["spec", "source", "repoURL"] rfl rfl

theorem k8gb (h : SameResources (reconcile now a) (reconcile now' b)) (ha : OpenRequest a)
    (hb : OpenRequest b) : (a.params.k8gb.getD {}).dnsZone = (b.params.k8gb.getD {}).dnsZone ∧
      (a.params.k8gb.getD {}).parentZone = (b.params.k8gb.getD {}).parentZone ∧
      deriveK8gbGeoTag a.params.k8gb (a.params.location.getD "") (a.params.id.getD "") =
        deriveK8gbGeoTag b.params.k8gb (b.params.location.getD "") (b.params.id.getD "") := by
  have hrelease : Component.k8gbRelease.gate a.gates = true := gate_of_open ha (by decide)
  have hvalues : "values" ≠ "tags" := by decide
  have hzones := h.at_eq hrelease hvalues ["k8gb", "dnsZones"]
  have hlist : [Value.dict [("loadBalancedZone", .str ((a.k8gb.getD {}).dnsZone.getD "")),
        ("parentZone", .str ((a.k8gb.getD {}).parentZone.getD ""))]] =
      [Value.dict [("loadBalancedZone", .str ((b.k8gb.getD {}).dnsZone.getD "")),
        ("parentZone", .str ((b.k8gb.getD {}).parentZone.getD ""))]] :=
    Value.list.inj (Option.some.inj hzones)
  have htag : a.k8gbGeoTag = b.k8gbGeoTag :=
    h.str_eq hrelease hvalues ["k8gb", "clusterGeoTag"] rfl rfl
  obtain ⟨k8gb, hk8gb, -, hzone, hparent⟩ := ha.full.k8gb
  obtain ⟨k8gb', hk8gb', -, hzone', hparent'⟩ := hb.full.k8gb
  rw [Request.k8gb, Request.k8gb, hk8gb, hk8gb'] at hlist
  simp only [List.cons.injEq, Value.dict.injEq, Prod.mk.injEq, Value.str.injEq, and_true,
    true_and, Option.getD_some] at hlist
  refine ⟨?_, ?_, ?_⟩
  · rw [hk8gb, hk8gb']
    exact eq_of_getD_eq hzone hzone' hlist.1
  · rw [hk8gb, hk8gb']
    exact eq_of_getD_eq hparent hparent' hlist.2
  · rwa [Request.k8gbGeoTag, Request.k8gbGeoTag, if_pos ha.k8gbEnabled, if_pos hb.k8gbEnabled]
      at htag

/-- The license is read back from the references, or neither control plane has one. -/
theorem license (h : SameResources (reconcile now a) (reconcile now' b)) (ha : OpenRequest a)
    (hb : OpenRequest b) : a.licenseParam = b.licenseParam := by
  have hgate := h.gate_eq uxpLicenseSecret
  rw [ha.gates_eq, hb.gates_eq] at hgate
  have hgiven : a.licenseParam.isSome = b.licenseParam.isSome := hgate
  cases hlicense : a.licenseParam with
  | none =>
    rw [hlicense, Option.isSome_none, eq_comm, Option.isSome_eq_false_iff,
      Option.isNone_iff_eq_none] at hgiven
    exact hgiven.symm
  | some license =>
    have hopen : uxpLicenseSecret.gate a.gates = true := by
      rw [ha.gates_eq]
      exact Option.isSome_of_eq_some hlicense
    rw [hlicense, Option.isSome_some, eq_comm] at hgiven
    obtain ⟨license', hlicense'⟩ := Option.isSome_iff_exists.mp hgiven
    obtain ⟨name, ns, rfl⟩ := ha.full.license hlicense
    obtain ⟨name', ns', rfl⟩ := hb.full.license hlicense'
    have hread := h.read (fun r => r.managed?.map ManagedSpec.references) references_unstamped hopen
    simp only [composed, Component.resource, ha.licenseClaim, hb.licenseClaim, hlicense,
      hlicense'] at hread
    -- the first reference copies from the Secret on the management cluster
    obtain ⟨href, -⟩ := List.cons.inj (Option.some.inj hread)
    obtain ⟨hpatches, -⟩ := Reference.mk.inj href
    obtain ⟨-, -, hname, hns, -⟩ := PatchesFrom.mk.inj (Option.some.inj hpatches)
    rw [hlicense']
    obtain rfl : name = name' := Option.some.inj hname
    obtain rfl : ns = ns' := Option.some.inj hns
    rfl

/-- What is restored from is written next to the name of the backup. -/
theorem restoreSource_eq (h : SameResources (reconcile now a) (reconcile now' b))
    (hopen : Component.backupRestore.gate a.gates = true) :
    restoreSource a.installFrom = restoreSource b.installFrom := by
  have hmanifest : "manifest" ≠ "tags" := by decide
  have hname : (restoreSource a.installFrom).2.2 = (restoreSource b.installFrom).2.2 :=
    h.str_eq hopen hmanifest ["spec", "backupRef", "name"] rfl rfl
  have hcontainer : (restoreSource a.installFrom).2.1 = (restoreSource b.installFrom).2.1 :=
    h.str_eq hopen hmanifest ["spec", "backupLocation", "bucket"] rfl rfl
  -- the account is part of the endpoint
  have hendpoint : (restoreSource a.installFrom).1 ++ ".blob.core.windows.net" =
      (restoreSource b.installFrom).1 ++ ".blob.core.windows.net" :=
    h.str_eq hopen hmanifest ["spec", "backupLocation", "config", "endpoint"] rfl rfl
  have haccount := (String.append_left_inj _).mp hendpoint
  exact Prod.ext haccount (Prod.ext hcontainer hname)

/-- The source to restore from is read back, or neither control plane has one. -/
theorem installFrom (h : SameResources (reconcile now a) (reconcile now' b)) (ha : OpenRequest a)
    (hb : OpenRequest b) :
    (a.params.backup.getD {}).installFrom.filter (fun source => source.name.getD "" != "") =
      (b.params.backup.getD {}).installFrom.filter (fun source => source.name.getD "" != "") := by
  have hgate := h.gate_eq .backupRestore
  rw [ha.gates_eq, hb.gates_eq] at hgate
  have hgiven : restorable (a.params.backup.getD {}).installFrom =
      restorable (b.params.backup.getD {}).installFrom := hgate
  by_cases hrestorable : restorable (a.params.backup.getD {}).installFrom = true
  · -- both are restored, from sources with the same parts
    have hrestorable' : restorable (b.params.backup.getD {}).installFrom = true :=
      hgiven ▸ hrestorable
    have hopen : Component.backupRestore.gate a.gates = true := by
      rw [ha.gates_eq]
      exact hrestorable
    have hsource := h.restoreSource_eq hopen
    rw [Request.installFrom, Request.installFrom, ha.backup_eq, hb.backup_eq] at hsource
    obtain ⟨x, hx⟩ := exists_of_restorable hrestorable
    obtain ⟨y, hy⟩ := exists_of_restorable hrestorable'
    rw [installFrom_of_restorable ha.full hrestorable,
      installFrom_of_restorable hb.full hrestorable', hx, hy]
    rw [hx, hy] at hsource
    rw [source_eq (ha.full.locations.2 x hx) (hb.full.locations.2 y hy) hsource]
  · -- neither is, so neither source has a name
    rw [filter_of_not_restorable ha.full hrestorable,
      filter_of_not_restorable hb.full (hgiven ▸ hrestorable)]

/-- **The effect is read back** from the composed resources. -/
theorem effect (h : SameResources (reconcile now a) (reconcile now' b)) (ha : OpenRequest a)
    (hb : OpenRequest b) : SameEffect a.params b.params := by
  obtain ⟨hid, hlocation, hprovider, hnetwork, hmode⟩ := h.network ha hb
  obtain ⟨hversion, hnodes, hzones⟩ := h.aks ha hb
  obtain ⟨hbackup, hregion⟩ := h.storage ha hb
  obtain ⟨hhostname, hurl⟩ := h.argocd ha
  obtain ⟨hdns, hparent, htag⟩ := h.k8gb ha hb
  exact
    { id := hid
      location := hlocation
      providerConfigName := hprovider
      version := hversion
      nodes := hnodes
      availabilityZones := hzones
      network := hnetwork
      uxp := h.uxp ha hb
      backupLocation := hbackup
      bucketRegion := hregion
      schedule := h.schedule ha hb
      installFrom := h.installFrom ha hb
      license := h.license ha hb
      dnsZone := hdns
      parentZone := hparent
      geoTag := htag
      hostname := hhostname
      url := hurl
      managementMode := hmode }

end SameResources

/-! ### The parameters that are dropped -/

section Requests

variable {req : Request} {p q : Parameters}

theorem OpenRequest.withParams (hreported : AllReported req.observed) (hp : p.Full)
    (hfree : (req.withParams p).licenseConflict = "") : OpenRequest (req.withParams p) where
  full := hp
  reported := hreported
  free := hfree

/-- Parameters of the same effect compose the same resources. -/
theorem sameResources_of_sameEffect (now now' : String) (hp : OpenRequest (req.withParams p))
    (hq : OpenRequest (req.withParams q)) (h : SameEffect p q) :
    SameResources (reconcile now (req.withParams p)) (reconcile now' (req.withParams q)) := by
  have hreads : SameReads (req.withParams p) (req.withParams q) :=
    sameReads_of_sameEffect hp hq rfl rfl rfl h
  exact (sameResources_of_eq hreads.resources).trans (sameResources_now now now' _)

/-- **Documented parameters reach the resources**, exactly when they differ in their effect:
two different parameter objects compose resources that differ in more than their stamps. -/
theorem reaches_iff (now now' : String) (hreported : AllReported req.observed) (hp : p.Full)
    (hq : q.Full) (hfree : (req.withParams p).licenseConflict = "")
    (hfree' : (req.withParams q).licenseConflict = "") :
    (p ≠ q → ¬ SameResources (reconcile now (req.withParams p))
        (reconcile now' (req.withParams q))) ↔ p = q ∨ ¬ SameEffect p q := by
  have hopen := OpenRequest.withParams hreported hp hfree
  have hopen' := OpenRequest.withParams hreported hq hfree'
  constructor
  · intro hreaches
    by_cases heq : p = q
    · exact Or.inl heq
    · exact Or.inr fun heffect =>
        hreaches heq (sameResources_of_sameEffect now now' hopen hopen' heffect)
  · intro hdiffers hne hsame
    rcases hdiffers with heq | heffect
    · exact hne heq
    · exact heffect (hsame.effect hopen hopen')

end Requests

/-- Parameters with every feature on, in a given region and with a bound on what VPA grants. -/
def everyFeature (location maxCpu : String) : Parameters :=
  Parameters.defaulted
    { Parameters.required "cp" location { count := some 3 } with
      backup := some { enabled := some "yes", location := some "acct/backups" }
      license := some { secretRef := some { name := some "uxp-license" } }
      providerVerticalPodAutoscaling := some { enabled := some "yes", maxCpu := some maxCpu }
      knative := some { enabled := some "yes" }
      k8gb := some
        { enabled := some "yes"
          dnsZone := some "gslb.example.com"
          parentZone := some "example.com" }
      argocd := some
        { enabled := some "yes"
          hostname := some "argocd.example.com"
          url := some "https://git.example.com/apps" } }

theorem everyFeature_full (location maxCpu : String) : (everyFeature location maxCpu).Full where
  defaulted := Parameters.defaulted_defaulted _
  admitted := rfl
  enabled f := by cases f <;> rfl

/-- Its request, once the bootstrap is complete. -/
def everyFeatureRequest : Request :=
  bootRequest "2026-03-01T00:00:00Z" { parameters := everyFeature "eastus" "2" } 4

theorem allReported_everyFeature : AllReported everyFeatureRequest.observed := by
  have hboot : Bootstrap { parameters := everyFeature "eastus" "2" } _ _ :=
    bootRequest_bootstrap "2026-03-01T00:00:00Z" fun source hsource => by cases hsource
  exact hboot.allReported (everyFeature_full "eastus" "2") rfl le_rfl

/-- Without peers no other control plane holds the license. -/
theorem everyFeature_free (location maxCpu : String) :
    (everyFeatureRequest.withParams (everyFeature location maxCpu)).licenseConflict = "" := by
  simp [everyFeatureRequest, bootRequest, Request.withParams, Request.licenseConflict,
    checkLicenseConflict]

/-- Another region is found in the resources. -/
theorem reaches_location :
    ¬ SameResources
      (reconcile "2026-03-02T00:00:00Z"
        (everyFeatureRequest.withParams (everyFeature "eastus" "2")))
      (reconcile "2026-03-02T00:00:00Z"
        (everyFeatureRequest.withParams (everyFeature "westus2" "2"))) := by
  have hne : ¬ SameEffect (everyFeature "eastus" "2") (everyFeature "westus2" "2") := fun h =>
    absurd (Option.some.inj h.location) (by decide)
  exact (reaches_iff _ _ allReported_everyFeature (everyFeature_full _ _) (everyFeature_full _ _)
    (everyFeature_free _ _) (everyFeature_free _ _)).mpr (Or.inr hne)
    fun heq => hne (heq ▸ SameEffect.refl _)

/-- Another bound of the vertical autoscaling is not. -/
theorem not_reaches_maxCpu :
    AllReported everyFeatureRequest.observed ∧
      (everyFeature "eastus" "2").Full ∧ (everyFeature "eastus" "4").Full ∧
      (everyFeatureRequest.withParams (everyFeature "eastus" "2")).licenseConflict = "" ∧
      (everyFeatureRequest.withParams (everyFeature "eastus" "4")).licenseConflict = "" ∧
      ¬ (everyFeature "eastus" "2" ≠ everyFeature "eastus" "4" →
        ¬ SameResources
          (reconcile "2026-03-02T00:00:00Z"
            (everyFeatureRequest.withParams (everyFeature "eastus" "2")))
          (reconcile "2026-03-02T00:00:00Z"
            (everyFeatureRequest.withParams (everyFeature "eastus" "4")))) := by
  have hopen : ∀ maxCpu,
      OpenRequest (everyFeatureRequest.withParams (everyFeature "eastus" maxCpu)) := fun maxCpu =>
    .withParams allReported_everyFeature (everyFeature_full _ _) (everyFeature_free _ _)
  have heffect : SameEffect (everyFeature "eastus" "2") (everyFeature "eastus" "4") := by
    constructor <;> rfl
  have hne : everyFeature "eastus" "2" ≠ everyFeature "eastus" "4" := by
    intro heq
    have hvpa := congrArg Parameters.providerVerticalPodAutoscaling heq
    simp [everyFeature, Parameters.defaulted, Parameters.required, Vpa.defaulted] at hvpa
  exact ⟨allReported_everyFeature, everyFeature_full _ _, everyFeature_full _ _,
    everyFeature_free _ _, everyFeature_free _ _, fun hreaches =>
      hreaches hne (sameResources_of_sameEffect _ _ (hopen "2") (hopen "4") heffect)⟩

end AzureCtp
