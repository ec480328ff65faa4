import AzureCtp.K8gb.Peers

/-!
# The mesh of a zone

Every control plane composes its own list of peers, alone, from a list that contains
itself. The views of all of them should fit: each lists the tags of exactly the other
members of its zone, so that with its own tag added every member has the same set.

The loop tells a control plane from its peers by the id, which is unique within a
namespace only. A peer that shares the id is skipped, and its tag is missing unless a
third member brings it in.

## Main results

* `composesMesh_iff`: a member composes its list exactly when no tag is missing
* `MeshList.own_or_mem_iff`: a list with the own tag added is all tags of the zone
* `mesh_iff`: when the views of all members fit
-/

set_option autoImplicit false

namespace AzureCtp

open Document

variable {zone : String} {cps : List ControlPlane} {cp : ControlPlane} {now : String}
  {req : Request}

/-- A tag of another member of the zone that differs from the own one. Members are told
apart by namespace and name. -/
def OtherTag (zone : String) (cps : List ControlPlane) (cp : ControlPlane) (tag : String) :
    Prop :=
  ∃ peer ∈ cps, identity peer ≠ identity cp ∧ peer.OnZone zone ∧ peer.geoTag ≠ cp.geoTag ∧
    peer.geoTag = tag

/-- The list a member should compose: the tags of exactly the others, in order. -/
structure MeshList (zone : String) (cps : List ControlPlane) (cp : ControlPlane)
    (tags : List String) : Prop where
  increasing : tags.Pairwise (· < ·)
  exact : ∀ tag, tag ∈ tags ↔ OtherTag zone cps cp tag

/-- A reconcile composes the list its ControlPlane should. -/
structure ComposesMesh (now : String) (req : Request) (zone : String) (tags : List String) :
    Prop where
  list : MeshList zone req.allControlPlanes req.composite tags
  composed : composedGeoTags (reconcile now req) = some (.str (",".intercalate tags))

/-- The mesh is complete, and symmetric: on one zone every member's tag together with
its list is the same set. -/
structure Mesh (cps : List ControlPlane) : Prop where
  complete : ∀ now req, ReconciledIn cps req → ∀ zone, req.composite.OnZone zone →
    ∃ tags, ComposesMesh now req zone tags
  symmetric : ∀ now now' a b, ReconciledIn cps a → ReconciledIn cps b → ∀ zone,
    a.composite.OnZone zone → b.composite.OnZone zone → ∀ tagsA tagsB,
    ComposesMesh now a zone tagsA → ComposesMesh now' b zone tagsB → ∀ tag,
    (tag = a.composite.geoTag ∨ tag ∈ tagsA) ↔ (tag = b.composite.geoTag ∨ tag ∈ tagsB)

/-! ### One member -/

/-- The tags of the others, as a set. -/
def otherTags (zone : String) (cp : ControlPlane) (cps : List ControlPlane) : Finset String :=
  ((cps.filter fun peer => identity peer ≠ identity cp ∧ peer.OnZone zone ∧
    peer.geoTag ≠ cp.geoTag).map ControlPlane.geoTag).toFinset

theorem mem_otherTags {tag : String} :
    tag ∈ otherTags zone cp cps ↔ OtherTag zone cps cp tag := by
  simp only [otherTags, List.mem_toFinset, List.mem_map, List.mem_filter, decide_eq_true_eq,
    OtherTag, and_assoc]

theorem meshList_sort : MeshList zone cps cp ((otherTags zone cp cps).sort (· ≤ ·)) where
  increasing := (otherTags zone cp cps).sortedLT_sort.pairwise
  exact tag := by rw [Finset.mem_sort, mem_otherTags]

/-- There is one such list. -/
theorem MeshList.eq_sort {tags : List String} (h : MeshList zone cps cp tags) :
    tags = (otherTags zone cp cps).sort (· ≤ ·) := by
  refine h.increasing.sortedLT.eq_of_mem_iff (otherTags zone cp cps).sortedLT_sort fun tag => ?_
  rw [h.exact, Finset.mem_sort, mem_otherTags]

/-! ### Members told apart -/

/-- The own tag and the list are the tags of all members of the zone. -/
theorem MeshList.own_or_mem_iff {tags : List String} (h : MeshList zone cps cp tags)
    (hdistinct : (cps.map identity).Nodup) (hcp : cp ∈ cps) (hon : cp.OnZone zone)
    (tag : String) :
    (tag = cp.geoTag ∨ tag ∈ tags) ↔ ∃ peer ∈ cps, peer.OnZone zone ∧ peer.geoTag = tag := by
  rw [h.exact]
  constructor
  · rintro (rfl | ⟨peer, hpeer, -, hzone, -, htag⟩)
    · exact ⟨cp, hcp, hon, rfl⟩
    · exact ⟨peer, hpeer, hzone, htag⟩
  · rintro ⟨peer, hpeer, hzone, rfl⟩
    by_cases hown : peer.geoTag = cp.geoTag
    · exact Or.inl hown
    · -- a member with another tag is another member
      refine Or.inr ⟨peer, hpeer, fun hidentity => hown ?_, hzone, hown, rfl⟩
      rw [eq_of_identity_eq hdistinct hpeer hcp hidentity]

/-- The loop collects no tag but those of others. -/
theorem peerTags_subset (hdistinct : (cps.map identity).Nodup) (hcp : cp ∈ cps) :
    peerTags zone cp cps ⊆ otherTags zone cp cps := by
  intro tag htag
  obtain ⟨peer, hpeer, hon, rfl⟩ := mem_peerTags.mp htag
  refine mem_otherTags.mpr ⟨peer, hpeer, fun hidentity => hon.other ?_, hon.onZone, hon.tag, rfl⟩
  rw [eq_of_identity_eq hdistinct hpeer hcp hidentity]

theorem otherTags_ne_empty : ∀ tag ∈ otherTags zone cp cps, tag ≠ "" := by
  intro tag htag
  obtain ⟨peer, -, -, -, -, rfl⟩ := mem_otherTags.mp htag
  exact peer.geoTag_ne_empty

/-- A member composes its list exactly when the loop collects all tags of others. -/
theorem composesMesh_iff (hdistinct : (cps.map identity).Nodup) (hreq : ReconciledIn cps req)
    (hon : req.composite.OnZone zone) :
    (∃ tags, ComposesMesh now req zone tags) ↔
      peerTags zone req.composite cps = otherTags zone req.composite cps := by
  have hcomposed : composedGeoTags (reconcile now req) = some (.str
      (",".intercalate ((peerTags zone req.composite cps).sort (· ≤ ·)))) := by
    rw [composedGeoTags_reconcile hon, hreq.served]
  constructor
  · rintro ⟨tags, htags⟩
    have hlist := htags.list
    rw [hreq.served] at hlist
    have hjoin := hcomposed.symm.trans htags.composed
    rw [hlist.eq_sort, Option.some.injEq, Value.str.injEq] at hjoin
    exact Joined.eq_of_intercalate_sort_eq (by decide) (peerTags_subset hdistinct hreq.member)
      otherTags_ne_empty hjoin
  · intro hall
    have hlist : MeshList zone req.allControlPlanes req.composite
        ((otherTags zone req.composite cps).sort (· ≤ ·)) := by
      rw [hreq.served]
      exact meshList_sort
    exact ⟨_, hlist, by rw [hcomposed, hall]⟩

/-! ### All members -/

/-- Whenever two members of a zone share an id and differ in their tags, a member with
another id uses the tag as well, so that it is not lost. -/
def TagsSurvive (cps : List ControlPlane) : Prop :=
  ∀ zone, ∀ a ∈ cps, ∀ c ∈ cps, a.OnZone zone → c.OnZone zone → identity c ≠ identity a →
    c.idVal = a.idVal → c.geoTag ≠ a.geoTag →
    ∃ d ∈ cps, d.OnZone zone ∧ d.idVal ≠ a.idVal ∧ d.geoTag = c.geoTag

/-- **The mesh of a zone.** For ControlPlanes with pairwise distinct namespace and name
and non-empty ids, the mesh is complete and symmetric exactly when no tag is lost to a
shared id. -/
theorem mesh_iff (hdistinct : (cps.map identity).Nodup) (hids : ∀ cp ∈ cps, cp.idVal ≠ "") :
    Mesh cps ↔ TagsSurvive cps := by
  constructor
  · intro hmesh zone a ha c hc hona honc hother hid htag
    have hall := (composesMesh_iff hdistinct (memberRequest_reconciledIn ha) hona).mp
      (hmesh.complete "" _ (memberRequest_reconciledIn ha) zone hona)
    have hlisted : c.geoTag ∈ peerTags zone a cps :=
      hall ▸ mem_otherTags.mpr ⟨c, hc, hother, honc, htag, rfl⟩
    obtain ⟨d, hd, hpeer, hdtag⟩ := mem_peerTags.mp hlisted
    exact ⟨d, hd, hpeer.onZone, hpeer.other, hdtag⟩
  · intro hsurvive
    refine ⟨fun now req hreq zone hon => ?_, fun now now' a b ha hb zone hona honb tagsA tagsB
      hA hB tag => ?_⟩
    · rw [composesMesh_iff hdistinct hreq hon]
      refine (peerTags_subset hdistinct hreq.member).antisymm fun tag htag => ?_
      obtain ⟨c, hc, hother, honc, hdiffers, rfl⟩ := mem_otherTags.mp htag
      -- a member with the own id is skipped, so its tag has to come from elsewhere
      by_cases hid : c.idVal = req.composite.idVal
      · obtain ⟨d, hd, hond, hdid, hdtag⟩ :=
          hsurvive zone _ hreq.member c hc hon honc hother hid hdiffers
        exact mem_peerTags.mpr ⟨d, hd, ⟨hids d hd, hdid, hond, hdtag ▸ hdiffers⟩, hdtag⟩
      · exact mem_peerTags.mpr ⟨c, hc, ⟨hids c hc, hid, honc, hdiffers⟩, rfl⟩
    · have hlistA := hA.list
      have hlistB := hB.list
      rw [ha.served] at hlistA
      rw [hb.served] at hlistB
      rw [hlistA.own_or_mem_iff hdistinct ha.member hona,
        hlistB.own_or_mem_iff hdistinct hb.member honb]

/-- Two control planes with ids of their own. -/
def meshPair : List ControlPlane :=
  [k8gbPlane "team-a" "cp-a" "eastus" "gslb.example.com" "example.com",
    k8gbPlane "team-b" "cp-b" "westus2" "gslb.example.com" "example.com"]

/-- They see each other. -/
theorem mesh_iff_pair : Mesh meshPair :=
  (mesh_iff (by decide) (by decide)).mpr fun zone a ha c hc _ _ hother hid _ => by
    rcases List.mem_pair.mp ha with rfl | rfl <;> rcases List.mem_pair.mp hc with rfl | rfl <;>
      first | exact absurd rfl hother | exact absurd hid (by decide)

/-- Two control planes of one name and id, in two namespaces. -/
def sharedIdPair : List ControlPlane :=
  [k8gbPlane "team-a" "cp" "eastus" "gslb.example.com" "example.com",
    k8gbPlane "team-b" "cp" "westus2" "gslb.example.com" "example.com"]

/-- They do not see each other. -/
theorem not_mesh_shared_id :
    (sharedIdPair.map identity).Nodup ∧ (∀ cp ∈ sharedIdPair, cp.idVal ≠ "") ∧
      ¬ Mesh sharedIdPair := by
  have hdistinct : (sharedIdPair.map identity).Nodup := by decide
  refine ⟨hdistinct, by decide, fun hmesh => ?_⟩
  have hmember : ReconciledIn sharedIdPair _ := memberRequest_reconciledIn List.mem_cons_self
  have hon : (k8gbPlane "team-a" "cp" "eastus" "gslb.example.com" "example.com").OnZone
      "gslb.example.com" := by decide
  have hall := (composesMesh_iff hdistinct hmember hon).mp
    (hmesh.complete "2026-03-01T00:00:00Z" _ hmember _ hon)
  revert hall
  decide

end AzureCtp
