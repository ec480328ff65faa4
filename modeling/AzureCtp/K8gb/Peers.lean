import AzureCtp.Components
import AzureCtp.Library.Joined

/-!
# The k8gb peers of a control plane

A control plane composes the geo tags of its peers into its k8gb Release, from the list
of all ControlPlanes. The loop over the list skips the control plane itself by its id,
and takes those with k8gb on the same load-balanced zone whose tag differs.

## Main results

* `mem_peerTags`: the tags the loop collects
* `composedGeoTags_reconcile`: what is composed is the join of these tags
-/

set_option autoImplicit false

namespace AzureCtp

open Document

namespace ControlPlane

variable (cp : ControlPlane)

def idVal : String := cp.parameters.id.getD ""

/-- The k8gb parameters, with the fallback of the loop over the peers. -/
def k8gbParam : K8gb := cp.parameters.k8gb.getD {}

/-- k8gb is enabled on the load-balanced zone. -/
def OnZone (zone : String) : Prop :=
  cp.k8gbParam.enabled = some "yes" ∧ cp.k8gbParam.dnsZone = some zone

/-- The geo tag a control plane uses for itself, and a peer uses for it. -/
def geoTag : String :=
  deriveK8gbGeoTag (some cp.k8gbParam) (cp.parameters.location.getD "") cp.idVal

instance (zone : String) : Decidable (cp.OnZone zone) :=
  inferInstanceAs (Decidable (_ ∧ _))

end ControlPlane

/-- One control plane is a peer of another one on the zone. -/
structure PeerOn (zone : String) (cp peer : ControlPlane) : Prop where
  named : peer.idVal ≠ ""
  other : peer.idVal ≠ cp.idVal
  onZone : peer.OnZone zone
  tag : peer.geoTag ≠ cp.geoTag

/-- A reconcile of a member of the list, which is served this list. -/
structure ReconciledIn (cps : List ControlPlane) (req : Request) : Prop where
  member : req.composite ∈ cps
  served : req.allControlPlanes = cps

/-- The first reconcile of a member. -/
def memberRequest (cps : List ControlPlane) (cp : ControlPlane) : Request where
  composite := cp
  allControlPlanes := cps

theorem memberRequest_reconciledIn {cps : List ControlPlane} {cp : ControlPlane}
    (hcp : cp ∈ cps) : ReconciledIn cps (memberRequest cps cp) := ⟨hcp, rfl⟩

/-- A control plane with k8gb on the given zones. -/
def k8gbPlane (ns id location dnsZone parentZone : String) : ControlPlane where
  metadata := { ns := some ns, name := some "cp" }
  parameters :=
    { Parameters.required id location { count := some 3 } with
      k8gb := some
        { enabled := some "yes"
          dnsZone := some dnsZone
          parentZone := some parentZone } }

/-! ### Tags -/

theorem orElseEmpty_ne_empty {value : Option String} {fallback : String}
    (hfallback : fallback ≠ "") : orElseEmpty value fallback ≠ "" := by
  unfold orElseEmpty
  split
  · split_ifs with hempty
    · exact hfallback
    · exact hempty
  · exact hfallback

theorem orElseEmpty_of_empty {value : Option String} {fallback : String}
    (hvalue : value.getD "" = "") : orElseEmpty value fallback = fallback := by
  cases value with
  | none => rfl
  | some s => exact if_pos hvalue

theorem ControlPlane.geoTag_ne_empty (cp : ControlPlane) : cp.geoTag ≠ "" := by
  refine orElseEmpty_ne_empty fun hempty => ?_
  have hchars := congrArg String.toList hempty
  simp only [String.toList_append] at hchars
  cases hchars

variable {cp peer : ControlPlane} {zone : String} {cps : List ControlPlane}

/-- One round of the loop takes the tag of a peer. -/
theorem peerGeoTag?_eq_some_iff {tag : String} :
    peerGeoTag? cp.idVal zone cp.geoTag peer = some tag ↔
      PeerOn zone cp peer ∧ peer.geoTag = tag := by
  have hround : peerGeoTag? cp.idVal zone cp.geoTag peer =
      if peer.idVal = "" ∨ peer.idVal = cp.idVal then none
      else if peer.k8gbParam.enabled ≠ some "yes" ∨ peer.k8gbParam.dnsZone ≠ some zone then none
      else if peer.geoTag ≠ "" ∧ peer.geoTag ≠ cp.geoTag then some peer.geoTag else none := rfl
  rw [hround]
  constructor
  · intro htag
    split_ifs at htag with hid hzone hdiffers
    rw [not_or] at hid
    rw [not_or, not_not, not_not] at hzone
    exact ⟨⟨hid.1, hid.2, hzone, hdiffers.2⟩, Option.some.inj htag⟩
  · rintro ⟨⟨hnamed, hother, hzone, hdiffers⟩, rfl⟩
    have hid : ¬ (peer.idVal = "" ∨ peer.idVal = cp.idVal) := not_or.mpr ⟨hnamed, hother⟩
    have honzone : ¬ (peer.k8gbParam.enabled ≠ some "yes" ∨
        peer.k8gbParam.dnsZone ≠ some zone) := by
      rw [not_or, not_not, not_not]
      exact hzone
    rw [if_neg hid, if_neg honzone, if_pos ⟨peer.geoTag_ne_empty, hdiffers⟩]

/-- The set the loop over the list collects. -/
def peerTags (zone : String) (cp : ControlPlane) (cps : List ControlPlane) : Finset String :=
  (cps.filterMap (peerGeoTag? cp.idVal zone cp.geoTag)).toFinset

theorem mem_peerTags {tag : String} :
    tag ∈ peerTags zone cp cps ↔ ∃ peer ∈ cps, PeerOn zone cp peer ∧ peer.geoTag = tag := by
  simp only [peerTags, List.mem_toFinset, List.mem_filterMap, peerGeoTag?_eq_some_iff]

/-! ### The composed tags -/

/-- `extGslbClustersGeoTags` of the composed k8gb Release. -/
def composedGeoTags (rsp : Response) : Option Value :=
  rsp.at? "k8gb-release" ["values", "k8gb", "extGslbClustersGeoTags"]

variable {now : String} {req : Request}

theorem k8gb_eq_some (henabled : cp.k8gbParam.enabled = some "yes") :
    cp.parameters.k8gb = some cp.k8gbParam := by
  unfold ControlPlane.k8gbParam at henabled ⊢
  cases hparam : cp.parameters.k8gb with
  | none =>
    rw [hparam] at henabled
    cases henabled
  | some k8gb => rfl

theorem k8gbEnabled_of_enabled (henabled : req.composite.k8gbParam.enabled = some "yes") :
    req.k8gbEnabled = true := by
  have hk8gb : req.k8gb = some req.composite.k8gbParam := k8gb_eq_some henabled
  rw [Request.k8gbEnabled, hk8gb, Option.any_some, henabled]
  rfl

theorem k8gbGeoTag_eq (henabled : req.composite.k8gbParam.enabled = some "yes") :
    req.k8gbGeoTag = req.composite.geoTag := by
  rw [Request.k8gbGeoTag, if_pos (k8gbEnabled_of_enabled henabled)]
  rfl

theorem composedGeoTags_reconcile (hon : req.composite.OnZone zone) :
    composedGeoTags (reconcile now req) = some (.str
      (",".intercalate ((peerTags zone req.composite req.allControlPlanes).sort (· ≤ ·)))) := by
  have henabled := k8gbEnabled_of_enabled hon.1
  have htags : req.k8gbExtGeoTags =
      ",".intercalate ((peerTags zone req.composite req.allControlPlanes).sort (· ≤ ·)) := by
    have hzone : (req.k8gb.getD {}).dnsZone.getD "" = zone := by
      have hdnsZone : (req.k8gb.getD {}).dnsZone = some zone := hon.2
      rw [hdnsZone, Option.getD_some]
    rw [Request.k8gbExtGeoTags, if_pos henabled, hzone, k8gbGeoTag_eq hon.1]
    rfl
  have hgate : Component.gate req.gates .k8gbRelease = true := henabled
  refine (at?_reconcile .k8gbRelease _).trans ?_
  rw [if_pos hgate, ← htags]
  rfl

end AzureCtp
