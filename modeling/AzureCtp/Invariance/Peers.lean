import AzureCtp.Invariance.Clock
import AzureCtp.K8gb.Peers
import AzureCtp.License.Claim

/-!
# How the peers are listed

The list of all ControlPlanes reaches the response in two places: the license guard,
which takes the least of those ahead, and the geo tags, which are collected into a set.
Neither sees the order of the list or repetitions in it.

## Main results

* `checkLicenseConflict_congr`, `deriveK8gbExtGeoTags_congr`: the two places
* `listing_irrelevant`: the whole response
-/

set_option autoImplicit false

namespace AzureCtp

open Document

/-! ### The two places -/

section Listings

variable {cps cps' : List ControlPlane}

theorem isEmpty_congr (hmem : ∀ cp, cp ∈ cps ↔ cp ∈ cps') : cps.isEmpty = cps'.isEmpty := by
  rw [Bool.eq_iff_iff, List.isEmpty_iff, List.isEmpty_iff, List.eq_nil_iff_forall_not_mem,
    List.eq_nil_iff_forall_not_mem]
  simp only [hmem]

/-- The guard names one owner, whichever way the peers are listed. -/
theorem checkLicenseConflict_congr (hmem : ∀ cp, cp ∈ cps ↔ cp ∈ cps') (xr : ControlPlane)
    (license : Option License) :
    checkLicenseConflict xr license cps = checkLicenseConflict xr license cps' := by
  unfold checkLicenseConflict
  rw [isEmpty_congr hmem]
  split_ifs with hskip
  · rfl
  · generalize secretKey (license.getD {}) = myKey
    have hahead : ∀ cp, cp ∈ aheadOf myKey xr cps ↔ cp ∈ aheadOf myKey xr cps' := by
      intro cp
      simp only [aheadOf, List.mem_filter, hmem]
    have hkey : ((aheadOf myKey xr cps).argmin (claimOrder myKey)).map (claimOrder myKey) =
        ((aheadOf myKey xr cps').argmin (claimOrder myKey)).map (claimOrder myKey) :=
      Election.argmin_map_key_congr hahead
    dsimp only
    cases h : (aheadOf myKey xr cps).argmin (claimOrder myKey) with
    | none =>
      cases h' : (aheadOf myKey xr cps').argmin (claimOrder myKey) with
      | none => rfl
      | some owner' =>
        rw [h, h'] at hkey
        cases hkey
    | some owner =>
      cases h' : (aheadOf myKey xr cps').argmin (claimOrder myKey) with
      | none =>
        rw [h, h'] at hkey
        cases hkey
      | some owner' =>
        -- the two owners have one key, hence one identity
        rw [h, h'] at hkey
        dsimp only
        rw [joinIdentity, joinIdentity, identity_eq_of_claimOrder_eq (Option.some.inj hkey)]

/-- The tags are collected into a set. -/
theorem deriveK8gbExtGeoTags_congr (hmem : ∀ cp, cp ∈ cps ↔ cp ∈ cps')
    (idVal dnsZone myTag : String) :
    deriveK8gbExtGeoTags idVal dnsZone myTag cps =
      deriveK8gbExtGeoTags idVal dnsZone myTag cps' := by
  have hset : (cps.filterMap (peerGeoTag? idVal dnsZone myTag)).toFinset =
      (cps'.filterMap (peerGeoTag? idVal dnsZone myTag)).toFinset := by
    ext tag
    simp only [List.mem_toFinset, List.mem_filterMap, hmem]
  rw [deriveK8gbExtGeoTags, deriveK8gbExtGeoTags, hset]

end Listings

/-! ### The response -/

/-- Two requests that differ only in how the ControlPlanes are listed. -/
structure SamePeers (a b : Request) : Prop where
  composite : a.composite = b.composite
  observed : a.observed = b.observed
  mem_iff : ∀ cp, cp ∈ a.allControlPlanes ↔ cp ∈ b.allControlPlanes

/-- The list reaches the response through the conflict and the tags only. -/
theorem reconcile_congr {now : String} {a b : Request} (hcomposite : a.composite = b.composite)
    (hobserved : a.observed = b.observed) (hconflict : a.licenseConflict = b.licenseConflict)
    (htags : a.k8gbExtGeoTags = b.k8gbExtGeoTags) : reconcile now a = reconcile now b := by
  obtain ⟨composite, observed, cps⟩ := a
  obtain ⟨composite', observed', cps'⟩ := b
  obtain rfl : composite = composite' := hcomposite
  obtain rfl : observed = observed' := hobserved
  -- the listing is read for the conflict and for the geo tags only
  have hclaim : Request.licenseClaim ⟨composite, observed, cps⟩ =
      Request.licenseClaim ⟨composite, observed, cps'⟩ := licenseClaim_congr rfl hconflict rfl
  have hlicense : Request.licenseWrites ⟨composite, observed, cps⟩ now =
      Request.licenseWrites ⟨composite, observed, cps'⟩ now := by
    rw [Request.licenseWrites, Request.licenseWrites, hclaim]
    rfl
  have hk8gb : Request.k8gbWrites ⟨composite, observed, cps⟩ now =
      Request.k8gbWrites ⟨composite, observed, cps'⟩ now := by
    rw [Request.k8gbWrites, Request.k8gbWrites, htags]
    rfl
  have hwrites : Request.writes ⟨composite, observed, cps⟩ now =
      Request.writes ⟨composite, observed, cps'⟩ now := by
    rw [Request.writes, Request.writes, hlicense, hk8gb]
    rfl
  have hstatus : Request.status ⟨composite, observed, cps⟩ now =
      Request.status ⟨composite, observed, cps'⟩ now := by
    funext creationTimestamp
    rw [Request.status, Request.status, hconflict, hclaim]
    rfl
  simp only [reconcile, hwrites, hstatus]
  rfl

/-- **The listing of the peers is irrelevant.** For two requests that list the same
ControlPlanes in any order and with any repetitions, the responses are equal up to
stamps. -/
theorem listing_irrelevant {a b : Request} (h : SamePeers a b) (now now' : String) :
    SameUpToStamps (reconcile now a) (reconcile now' b) := by
  obtain ⟨composite, observed, cps⟩ := a
  obtain ⟨composite', observed', cps'⟩ := b
  obtain rfl : composite = composite' := h.composite
  obtain rfl : observed = observed' := h.observed
  have hconflict : Request.licenseConflict ⟨composite, observed, cps⟩ =
      Request.licenseConflict ⟨composite, observed, cps'⟩ :=
    checkLicenseConflict_congr h.mem_iff _ _
  have htags : Request.k8gbExtGeoTags ⟨composite, observed, cps⟩ =
      Request.k8gbExtGeoTags ⟨composite, observed, cps'⟩ := by
    rw [Request.k8gbExtGeoTags, Request.k8gbExtGeoTags, deriveK8gbExtGeoTags_congr h.mem_iff]
    rfl
  have hsame : reconcile now ⟨composite, observed, cps⟩ =
      reconcile now ⟨composite, observed, cps'⟩ := reconcile_congr rfl rfl hconflict htags
  rw [hsame]
  exact sameUpToStamps_now now now' _

/-- A sharer with a listing of the sharers. -/
def listed (cps : List ControlPlane) : Request where
  composite := sharer "cp-b" "2026-02-01T00:00:00Z"
  allControlPlanes := cps

/-- Listed in another order and with a repetition, the peers give the same response. -/
theorem listing_irrelevant_sharers :
    SameUpToStamps
      (reconcile "2026-03-01T00:00:00Z" (listed
        [sharer "cp-a" "2026-01-01T00:00:00Z", sharer "cp-b" "2026-02-01T00:00:00Z"]))
      (reconcile "2026-03-02T00:00:00Z" (listed
        [sharer "cp-b" "2026-02-01T00:00:00Z", sharer "cp-a" "2026-01-01T00:00:00Z",
          sharer "cp-b" "2026-02-01T00:00:00Z"])) := by
  refine listing_irrelevant ⟨rfl, rfl, fun cp => ?_⟩ _ _
  simp only [listed, List.mem_cons, List.not_mem_nil, or_false]

end AzureCtp
