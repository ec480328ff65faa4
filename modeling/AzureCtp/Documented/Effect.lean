import AzureCtp.Documented.Open
import AzureCtp.Invariance.Reads

/-!
# The effect of the parameters

With every gate open, two parameter objects have the same effect when they agree but for
the bounds of the vertical autoscaling, the strategy of k8gb, and different spellings of
one setting, such as a region that is left out and one that repeats the location.

## Main results

* `sameReads_of_sameEffect`: parameters of the same effect are read alike
-/

set_option autoImplicit false

namespace AzureCtp

open Component

/-- Two parameter objects with all features on have the same effect: they may differ in the
bounds of the vertical autoscaling and the strategy of k8gb, and in the spelling of a
setting. -/
structure SameEffect (p q : Parameters) : Prop where
  id : p.id = q.id
  location : p.location = q.location
  providerConfigName : p.providerConfigName = q.providerConfigName
  version : p.version = q.version
  nodes : p.nodes.map (fun nodes => (nodes.count, nodes.vmSize)) =
    q.nodes.map (fun nodes => (nodes.count, nodes.vmSize))
  /-- No zone is as good as none given. -/
  availabilityZones : (p.nodes.getD {}).availabilityZones.filter (· ≠ []) =
    (q.nodes.getD {}).availabilityZones.filter (· ≠ [])
  network : (p.network.getD {}).defaulted = (q.network.getD {}).defaulted
  uxp : p.uxp = q.uxp
  backupLocation : (p.backup.getD {}).location = (q.backup.getD {}).location
  /-- Backups stay in the region unless another one is named. -/
  bucketRegion : orElseEmpty (p.backup.getD {}).bucketRegion (p.location.getD "") =
    orElseEmpty (q.backup.getD {}).bucketRegion (q.location.getD "")
  schedule : (p.backup.getD {}).schedule.getD "" = (q.backup.getD {}).schedule.getD ""
  /-- A backup to install from needs a name. -/
  installFrom : (p.backup.getD {}).installFrom.filter (fun source => source.name.getD "" != "") =
    (q.backup.getD {}).installFrom.filter (fun source => source.name.getD "" != "")
  license : p.license = q.license
  dnsZone : (p.k8gb.getD {}).dnsZone = (q.k8gb.getD {}).dnsZone
  parentZone : (p.k8gb.getD {}).parentZone = (q.k8gb.getD {}).parentZone
  geoTag : deriveK8gbGeoTag p.k8gb (p.location.getD "") (p.id.getD "") =
    deriveK8gbGeoTag q.k8gb (q.location.getD "") (q.id.getD "")
  hostname : (p.argocd.getD {}).hostname.getD "" = (q.argocd.getD {}).hostname.getD ""
  url : (p.argocd.getD {}).url.getD "" = (q.argocd.getD {}).url.getD ""
  managementMode : p.managementMode = q.managementMode

theorem SameEffect.refl (p : Parameters) : SameEffect p p := by
  constructor <;> rfl

/-! ### The same effect composes the same resources -/

/-- An admitted source can be restored exactly when it has a name. -/
theorem restorable_eq {p : Parameters} (hp : p.Full) :
    restorable (p.backup.getD {}).installFrom =
      ((p.backup.getD {}).installFrom.filter (fun source => source.name.getD "" != "")).isSome := by
  cases hfrom : (p.backup.getD {}).installFrom with
  | none => decide
  | some source =>
    have hvalid := hp.locations.2 source hfrom
    simp only [InstallFrom.valid, Bool.and_eq_true] at hvalid
    obtain ⟨location, hlocation, hmatches⟩ := (Option.any_eq_true _ _).mp hvalid.1
    obtain ⟨haccount, hcontainer⟩ := ((matchesBlobPattern_iff location).mp hmatches).parse_ne
    simp only [restorable, restoreSource, Option.getD_some, hlocation, bne_iff_ne.mpr haccount,
      bne_iff_ne.mpr hcontainer, Bool.true_and, Option.filter_some]
    split_ifs with hname
    · exact hname
    · exact Bool.not_eq_true _ ▸ hname

theorem exists_of_restorable {source : Option InstallFrom}
    (hrestorable : restorable source = true) : ∃ given, source = some given := by
  cases source with
  | none => exact absurd hrestorable (by decide)
  | some given => exact ⟨given, rfl⟩

theorem filter_of_not_restorable {p : Parameters} (hp : p.Full)
    (hnot : ¬ restorable (p.backup.getD {}).installFrom = true) :
    (p.backup.getD {}).installFrom.filter (fun source => source.name.getD "" != "") = none := by
  rwa [restorable_eq hp, Option.not_isSome_iff_eq_none] at hnot

/-- What can be restored is not filtered out. -/
theorem installFrom_of_restorable {p : Parameters} (hp : p.Full)
    (hrestorable : restorable (p.backup.getD {}).installFrom = true) :
    (p.backup.getD {}).installFrom.filter (fun source => source.name.getD "" != "") =
      (p.backup.getD {}).installFrom := by
  rw [restorable_eq hp] at hrestorable
  obtain ⟨source, hsource⟩ := Option.isSome_iff_exists.mp hrestorable
  rw [hsource, (Option.filter_eq_some_iff.mp hsource).1]

section SameEffect

variable {a b : Request}

/-- Count and size are read with fallbacks of their own. -/
theorem nodes_of_sameEffect {β : Type} (field : Option Int × Option String → β)
    (h : SameEffect a.params b.params) :
    field (a.nodes.count, a.nodes.vmSize) = field (b.nodes.count, b.nodes.vmSize) := by
  have hnodes := congrArg (fun nodes => nodes.getD (none, none)) h.nodes
  have hread : ∀ nodes : Option Nodes,
      (nodes.map fun nodes => (nodes.count, nodes.vmSize)).getD (none, none) =
        ((nodes.getD {}).count, (nodes.getD {}).vmSize) := by
    intro nodes
    cases nodes <;> rfl
  rw [hread, hread] at hnodes
  exact congrArg field hnodes

/-- With every gate open both VPA and Knative are on. -/
theorem mgrArgs_of_open (ha : OpenRequest a) :
    a.mgrArgs = ["--enable-provider-vpa", "--enable-knative-runtime"] ∧
      runtimeCapabilities a.vpa a.knative a.vpaReady a.knativeFullyReady =
        ["ProviderVPA", "FunctionKnativeRuntime"] := by
  have hready : a.vpaReady = true := ha.deployed (by decide)
  rw [mgrArgs_eq, capabilities_eq, ha.vpaEnabled, ha.knativeEnabled, hready,
    ha.knativeFullyReady.2, ha.featuresLicensed]
  exact ⟨rfl, rfl⟩

theorem restorable_of_sameEffect (ha : OpenRequest a) (hb : OpenRequest b)
    (h : SameEffect a.params b.params) :
    restorable (a.params.backup.getD {}).installFrom =
      restorable (b.params.backup.getD {}).installFrom := by
  rw [restorable_eq ha.full, restorable_eq hb.full, h.installFrom]

theorem source_of_sameEffect (ha : OpenRequest a) (hb : OpenRequest b)
    (h : SameEffect a.params b.params) (hsource : restorable a.installFrom = true) :
    restoreSource a.installFrom = restoreSource b.installFrom := by
  rw [Request.installFrom, ha.backup_eq] at hsource ⊢
  have hsource' := hsource
  rw [restorable_of_sameEffect ha hb h] at hsource'
  rw [Request.installFrom, hb.backup_eq, ← installFrom_of_restorable ha.full hsource,
    h.installFrom, installFrom_of_restorable hb.full hsource']

/-- The geo tag and those of the peers. -/
theorem geoTags_of_sameEffect (ha : OpenRequest a) (hb : OpenRequest b)
    (hpeers : a.allControlPlanes = b.allControlPlanes) (h : SameEffect a.params b.params) :
    a.k8gbGeoTag = b.k8gbGeoTag ∧ a.k8gbExtGeoTags = b.k8gbExtGeoTags := by
  have htag : a.k8gbGeoTag = b.k8gbGeoTag := by
    rw [Request.k8gbGeoTag, Request.k8gbGeoTag, if_pos ha.k8gbEnabled, if_pos hb.k8gbEnabled]
    exact h.geoTag
  have hid : a.idVal = b.idVal := by rw [Request.idVal, Request.idVal, h.id]
  have hzone : (a.k8gb.getD {}).dnsZone = (b.k8gb.getD {}).dnsZone := h.dnsZone
  refine ⟨htag, ?_⟩
  rw [Request.k8gbExtGeoTags, Request.k8gbExtGeoTags, if_pos ha.k8gbEnabled,
    if_pos hb.k8gbEnabled, hid, hzone, htag, hpeers]

theorem sameReads_of_sameEffect (ha : OpenRequest a) (hb : OpenRequest b)
    (hobserved : a.observed = b.observed) (hns : a.ns = b.ns)
    (hpeers : a.allControlPlanes = b.allControlPlanes) (h : SameEffect a.params b.params) :
    SameReads a b := by
  have hid : a.idVal = b.idVal := by rw [Request.idVal, Request.idVal, h.id]
  have hlocation : a.location = b.location := by rw [Request.location, Request.location, h.location]
  have hmode : a.managementMode = b.managementMode := by
    rw [Request.managementMode, Request.managementMode, h.managementMode]
  have hnetwork : a.networkParam.defaulted = b.networkParam.defaulted := h.network
  have hrestore := restorable_of_sameEffect ha hb h
  obtain ⟨htag, hpeerTags⟩ := geoTags_of_sameEffect ha hb hpeers h
  have hlicense : a.licenseClaim = b.licenseClaim := by
    rw [ha.licenseClaim, hb.licenseClaim]
    exact h.license
  exact
    { observed := hobserved
      gates := by rw [ha.gates_eq, hb.gates_eq, h.schedule, hrestore, h.license]
      config := fun now => by rw [Request.config, Request.config, hns, hmode]
      idVal := hid
      location := hlocation
      providerConfig := by rw [Request.providerConfig, Request.providerConfig, h.providerConfigName]
      mgmtPolicies := by rw [Request.mgmtPolicies, Request.mgmtPolicies, hmode]
      version := by rw [Request.version, Request.version, h.version]
      count := nodes_of_sameEffect (fun read => read.1.getD 2) h
      vmSize := nodes_of_sameEffect (fun read => read.2.getD "Standard_D2s_v3") h
      availabilityZones := h.availabilityZones
      addressRange := Option.some.inj (congrArg NetworkParam.addressRange hnetwork)
      generalSubnetRange := Option.some.inj (congrArg NetworkParam.generalSubnetRange hnetwork)
      uxpVersion := by rw [Request.uxpVersion, Request.uxpVersion, h.uxp]
      -- both features are on in both requests, whatever the bounds are
      mgrArgs := (mgrArgs_of_open ha).1.trans (mgrArgs_of_open hb).1.symm
      capabilities := (mgrArgs_of_open ha).2.trans (mgrArgs_of_open hb).2.symm
      oidcIssuerUrl := by
        rw [Sees.oidcIssuerUrl_eq ha.backupEnabled, Sees.oidcIssuerUrl_eq hb.backupEnabled,
          hobserved]
      storageAccount := by
        rw [Request.storageAccount, Request.storageAccount, ha.backup_eq, hb.backup_eq,
          h.backupLocation]
      containerName := by
        rw [Request.containerName, Request.containerName, ha.backup_eq, hb.backup_eq,
          h.backupLocation]
      bucketRegion := by
        rw [Request.bucketRegion, Request.bucketRegion, ha.backup_eq, hb.backup_eq]
        exact h.bucketRegion
      schedule := by rw [ha.backup_eq, hb.backup_eq, h.schedule]
      source := source_of_sameEffect ha hb h
      license := by rw [hlicense]
      dnsZone := by
        change (a.params.k8gb.getD {}).dnsZone.getD "" = (b.params.k8gb.getD {}).dnsZone.getD ""
        rw [h.dnsZone]
      parentZone := by
        change (a.params.k8gb.getD {}).parentZone.getD "" =
          (b.params.k8gb.getD {}).parentZone.getD ""
        rw [h.parentZone]
      geoTag := htag
      extGeoTags := hpeerTags
      publicIpId := by rw [ha.publicIpId, hb.publicIpId, hobserved]
      clusterPrincipalId := by rw [ha.clusterPrincipalId, hb.clusterPrincipalId, hobserved]
      hostname := h.hostname
      url := h.url }

end SameEffect

end AzureCtp
