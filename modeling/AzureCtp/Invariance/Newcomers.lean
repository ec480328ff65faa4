import AzureCtp.Invariance.Peers
import AzureCtp.License.Turns

/-!
# What a new ControlPlane changes for the others

A ControlPlane that joins the cluster is younger than those already there and holds no
license. Whatever it requests, nobody's guard gives way to it, and of what is composed for
the others only the k8gb Release, which lists the geo tags of the peers, can change.

## Main results

* `aheadOf_append`: a newcomer is ahead of nobody
* `newcomers_disturb_nothing`: what changes for a ControlPlane when others join
-/

set_option autoImplicit false

namespace AzureCtp

open Component

/-- ControlPlanes that are younger than `xr` and hold no license. -/
def Newcomers (xr : ControlPlane) (new : List ControlPlane) : Prop :=
  ∀ cp ∈ new, secret? cp.statusLicense = none ∧ age xr < age cp

/-- The request once others have joined. -/
def Request.joinedBy (req : Request) (new : List ControlPlane) : Request :=
  { req with allControlPlanes := req.allControlPlanes ++ new }

section Guard

variable {xr : ControlPlane} {cps new : List ControlPlane} {k : String}

/-- Who holds nothing and is younger goes after `xr`. -/
theorem Newcomers.claimOrder_lt (hnew : Newcomers xr new) {cp : ControlPlane} (hcp : cp ∈ new) :
    claimOrder k xr < claimOrder k cp := by
  obtain ⟨hnone, hage⟩ := hnew cp hcp
  have hcpholds : holds k cp = false := by
    rw [← Bool.not_eq_true, holds, onSecret_iff]
    rintro ⟨s, hs, -⟩
    rw [hnone] at hs
    cases hs
  by_cases hholds : holds k xr = true
  · exact claimOrder_lt_of_holds hholds hcpholds
  · rw [Bool.not_eq_true] at hholds
    exact (claimOrder_lt_iff_of_holds_eq (hholds.trans hcpholds.symm)).mpr hage

/-- A newcomer is ahead of nobody. -/
theorem aheadOf_append (hnew : Newcomers xr new) :
    aheadOf k xr (cps ++ new) = aheadOf k xr cps := by
  unfold aheadOf
  rw [List.filter_append, List.append_right_eq_self, List.filter_eq_nil_iff]
  intro cp hcp hahead
  rw [Bool.and_eq_true, decide_eq_true_eq] at hahead
  exact absurd hahead.2 (hnew.claimOrder_lt hcp).not_gt

theorem checkLicenseConflict_append (hnew : Newcomers xr new) (lic : Option License) :
    checkLicenseConflict xr lic (cps ++ new) = checkLicenseConflict xr lic cps := by
  unfold checkLicenseConflict
  simp only [aheadOf_append hnew]
  cases cps with
  | nil =>
    -- among newcomers alone nobody is ahead
    split_ifs <;> rfl
  | cons => rfl

end Guard

variable {req : Request} {new : List ControlPlane}

theorem licenseConflict_joinedBy (hnew : Newcomers req.composite new) :
    (req.joinedBy new).licenseConflict = req.licenseConflict :=
  checkLicenseConflict_append hnew _

theorem licenseClaim_joinedBy (hnew : Newcomers req.composite new) :
    (req.joinedBy new).licenseClaim = req.licenseClaim :=
  licenseClaim_congr rfl (licenseConflict_joinedBy hnew) rfl

theorem resource_joinedBy (hnew : Newcomers req.composite new) (now : String) {c : Component}
    (hc : c ≠ .k8gbRelease) : c.resource now (req.joinedBy new) = c.resource now req := by
  cases c with
  | k8gbRelease => exact absurd rfl hc
  | uxpLicenseSecret | uxpLicense =>
    rw [resource, resource, licenseClaim_joinedBy hnew]
    rfl
  | _ => rfl

/-- The newcomers have no geo tag on the zone of the request that is not there already. -/
def Request.AddsNoTag (req : Request) (new : List ControlPlane) : Prop :=
  ∀ cp ∈ new, ∀ tag,
    peerGeoTag? req.idVal ((req.k8gb.getD {}).dnsZone.getD "") req.k8gbGeoTag cp = some tag →
      ∃ known ∈ req.allControlPlanes,
        peerGeoTag? req.idVal ((req.k8gb.getD {}).dnsZone.getD "") req.k8gbGeoTag known = some tag

/-- The geo tags of the zone are a set, so a tag that is there already adds nothing. -/
theorem k8gbExtGeoTags_joinedBy (htags : req.k8gbEnabled = true → req.AddsNoTag new) :
    (req.joinedBy new).k8gbExtGeoTags = req.k8gbExtGeoTags := by
  change (if req.k8gbEnabled then deriveK8gbExtGeoTags req.idVal
      ((req.k8gb.getD {}).dnsZone.getD "") req.k8gbGeoTag (req.allControlPlanes ++ new) else "") =
    if req.k8gbEnabled then deriveK8gbExtGeoTags req.idVal
      ((req.k8gb.getD {}).dnsZone.getD "") req.k8gbGeoTag req.allControlPlanes else ""
  split_ifs with hon
  · have hsub : (new.filterMap (peerGeoTag? req.idVal ((req.k8gb.getD {}).dnsZone.getD "")
        req.k8gbGeoTag)).toFinset ⊆ (req.allControlPlanes.filterMap (peerGeoTag? req.idVal
          ((req.k8gb.getD {}).dnsZone.getD "") req.k8gbGeoTag)).toFinset := by
      intro tag htag
      rw [List.mem_toFinset, List.mem_filterMap] at htag ⊢
      obtain ⟨cp, hcp, hcptag⟩ := htag
      exact htags hon cp hcp tag hcptag
    rw [deriveK8gbExtGeoTags, deriveK8gbExtGeoTags, List.filterMap_append, List.toFinset_append,
      Finset.union_eq_left.mpr hsub]
  · rfl

/-- **Newcomers disturb nothing.** When ControlPlanes join that are younger and hold no
license, whatever they request, a ControlPlane keeps its license claim and its status, and of
its resources only the k8gb Release can change; nothing at all changes when they add no geo
tag to its own zone, whatever k8gb zones they join otherwise. -/
theorem newcomers_disturb_nothing (hnew : Newcomers req.composite new) (now : String) :
    (reconcile now (req.joinedBy new)).composite = (reconcile now req).composite ∧
    (∀ n, n ≠ "k8gb-release" → (reconcile now (req.joinedBy new)).resources.lookup n =
      (reconcile now req).resources.lookup n) ∧
    ((req.k8gbEnabled = true → req.AddsNoTag new) →
      reconcile now (req.joinedBy new) = reconcile now req) := by
  have hconflict := licenseConflict_joinedBy hnew
  have hclaim := licenseClaim_joinedBy hnew
  refine ⟨?_, fun n hn => ?_, fun htags => ?_⟩
  · have hstatus : ∀ created, (req.joinedBy new).status now created = req.status now created := by
      intro created
      rw [Request.status, Request.status, hconflict, hclaim]
      rfl
    rw [reconcile, reconcile, hstatus]
  · have hgates : (req.joinedBy new).gates = req.gates := by
      rw [Request.gates, Request.gates, hclaim]
      rfl
    have hlookup : ((reconcile now (req.joinedBy new)).resources.lookup n).map id =
        ((reconcile now req).resources.lookup n).map id := by
      refine lookup_map_congr (fun c => by rw [hgates]) fun c hname => ?_
      have hc : c ≠ .k8gbRelease := by
        rintro rfl
        exact hn hname.symm
      rw [composed, composed, resource_joinedBy hnew now hc]
      rfl
    rwa [Option.map_id_fun, id, id] at hlookup
  · exact reconcile_congr rfl rfl hconflict (k8gbExtGeoTags_joinedBy htags)

/-- A sharer with k8gb on a zone of its parent zone. -/
def zoned (name created dnsZone : String) : ControlPlane :=
  { sharer name created with
    parameters :=
      { (sharer name created).parameters with
        id := some name
        location := some "eastus"
        k8gb := some
          { enabled := some "yes"
            dnsZone := some dnsZone
            parentZone := some "example.com" } } }

/-- A ControlPlane that requests the license of one already there, with k8gb on another zone,
changes nothing for it. -/
theorem newcomers_disturb_nothing_zoned :
    reconcile "2026-04-01T00:00:00Z" (Request.joinedBy
        { composite := zoned "cp-a" "2026-01-01T00:00:00Z" "one.example.com" }
        [zoned "cp-b" "2026-03-01T00:00:00Z" "two.example.com"]) =
      reconcile "2026-04-01T00:00:00Z"
        { composite := zoned "cp-a" "2026-01-01T00:00:00Z" "one.example.com" } := by
  have hnew : Newcomers (zoned "cp-a" "2026-01-01T00:00:00Z" "one.example.com")
      [zoned "cp-b" "2026-03-01T00:00:00Z" "two.example.com"] := by
    intro cp hcp
    rw [List.mem_singleton.mp hcp]
    exact ⟨rfl, by decide⟩
  refine (newcomers_disturb_nothing hnew _).2.2 fun _ cp hcp tag htag => ?_
  -- its zone is another one, so it has no tag on this one
  rw [List.mem_singleton.mp hcp] at htag
  cases htag

end AzureCtp
