import AzureCtp.Library.Election
import AzureCtp.Model.Compose

/-!
# The license guard elects one owner

What the guard is for, in terms of Secrets: the ControlPlanes with a claim on a
Secret are ranked, holders first, then by age, and the first one owns it. Each
ControlPlane evaluates `checkLicenseConflict` alone, comparing string keys. Over a
list with distinct identities these evaluations are the local views of one
election, so they name a common owner.

## Main results

* `onSecret_key`: key comparison is naming the same Secret
* `conflictOf_eq_view`: the guard computes the local view
* `license_owner_agreement`: free exactly at the owner, and every conflicted
  requester names it
-/

set_option autoImplicit false

namespace AzureCtp

open Election

/-- A Secret of the management cluster. Kubernetes object names contain no slash. -/
structure Secret where
  ns : String
  name : String
  name_ne : name ≠ ""
  ns_slash : '/' ∉ ns.toList
  name_slash : '/' ∉ name.toList

namespace Secret

/-- The key `secretKey` computes for a license that names the Secret. -/
def key (K : Secret) : String := K.ns ++ "/" ++ K.name

/-- The license refers to this Secret. -/
def namedBy (K : Secret) (lic : License) : Bool :=
  let ref := lic.secretRef.getD {}
  ref.ns.getD "default" == K.ns && ref.name.getD "" == K.name

/-- The ControlPlane requests this Secret in its spec. -/
def requestedBy (K : Secret) (obj : ControlPlane) : Bool :=
  K.namedBy (obj.parameters.license.getD {})

/-- The ControlPlane holds this Secret according to its status. -/
def heldBy (K : Secret) (obj : ControlPlane) : Bool :=
  K.namedBy (obj.statusLicense.getD {})

/-- The ControlPlane participates: not terminating, and it requests or holds the
Secret. -/
def claimedBy (K : Secret) (obj : ControlPlane) : Bool :=
  !terminating obj && (K.requestedBy obj || K.heldBy obj)

/-- The order of the participants: not a holder, timestamp missing, timestamp,
namespace, name. -/
def rank (K : Secret) (obj : ControlPlane) : ClaimKey :=
  let ts := obj.metadata.creationTimestamp.getD ""
  toLex (!K.heldBy obj, toLex (ts == "", toLex (ts, toLex (identity obj))))

/-- The owner among the listed ControlPlanes. -/
def Owner (K : Secret) (members : List ControlPlane) (obj : ControlPlane) : Prop :=
  Elected K.claimedBy K.rank members obj

/-- A listed, live ControlPlane whose spec requests the Secret. -/
def Requester (K : Secret) (members : List ControlPlane) (obj : ControlPlane) : Prop :=
  obj ∈ members ∧ terminating obj = false ∧ K.requestedBy obj = true

end Secret

/-- What the guard answers a listed ControlPlane about its own license. -/
def conflictOf (members : List ControlPlane) (obj : ControlPlane) : String :=
  checkLicenseConflict obj obj.parameters.license members

/-! ### Keys -/

theorem secretKey_eq_iff (K : Secret) (lic : License) :
    secretKey lic = K.key ↔ K.namedBy lic = true := by
  simp only [secretKey, Secret.key, Secret.namedBy, Bool.and_eq_true, beq_iff_eq]
  constructor
  · intro heq
    have hslash : "/".toList = ['/'] := rfl
    have hlist := congrArg String.toList heq.symm
    simp only [String.toList_append, List.append_assoc, hslash, List.singleton_append] at hlist
    -- the key of `K` has one slash, so it is read in one way
    obtain ⟨hns, -, hname⟩ :=
      (List.append_cons_inj_of_notMem K.ns_slash K.name_slash).mp hlist
    exact ⟨String.toList_injective hns.symm, String.toList_injective hname.symm⟩
  · rintro ⟨hns, hname⟩
    rw [hns, hname]

/-- Comparing keys is naming the same Secret. -/
theorem onSecret_key (K : Secret) (lic : License) : onSecret K.key lic = K.namedBy lic := by
  have hname : K.namedBy lic = true → (lic.secretRef.getD {}).name.getD "" ≠ "" := by
    intro h
    simp only [Secret.namedBy, Bool.and_eq_true, beq_iff_eq] at h
    rw [h.2]
    exact K.name_ne
  rw [Bool.eq_iff_iff, onSecret, Bool.and_eq_true, bne_iff_ne, beq_iff_eq, secretKey_eq_iff]
  exact ⟨And.right, fun h => ⟨hname h, h⟩⟩

theorem claimOrder_key (K : Secret) : claimOrder K.key = K.rank := by
  funext obj
  simp only [claimOrder, Secret.rank, holds, onSecret_key, Secret.heldBy]

/-! ### The guard as a local view -/

/-- The order is total up to identities. -/
theorem identity_eq_of_claimOrder_eq {myKey : String} {a b : ControlPlane}
    (heq : claimOrder myKey a = claimOrder myKey b) : identity a = identity b := by
  obtain ⟨-, heq⟩ := Prod.mk.inj (toLex.injective heq)
  obtain ⟨-, heq⟩ := Prod.mk.inj (toLex.injective heq)
  obtain ⟨-, heq⟩ := Prod.mk.inj (toLex.injective heq)
  exact toLex.injective heq

theorem aheadOf_key {K : Secret} {members : List ControlPlane}
    (hdistinct : (members.map identity).Nodup) {xr : ControlPlane} (hxr : xr ∈ members) :
    aheadOf K.key xr members = ahead K.claimedBy K.rank members xr := by
  refine List.filter_congr fun ctp hctp => ?_
  rw [claimOrder_key]
  simp only [holds, onSecret_key, Secret.claimedBy, Secret.requestedBy, Secret.heldBy]
  -- the guard skips its own entry by identity, the election by irreflexivity
  by_cases hid : identity ctp = identity xr
  · obtain rfl := eq_of_identity_eq hdistinct hctp hxr hid
    simp only [bne_self_eq_false, Bool.false_and, lt_irrefl, decide_false, Bool.and_false]
  · have hne : (identity ctp != identity xr) = true := bne_iff_ne.mpr hid
    simp only [hne, Bool.true_and]

/-- On a list with distinct identities the guard computes the requester's local
view of the election. -/
theorem conflictOf_eq_view {K : Secret} {members : List ControlPlane}
    (hdistinct : (members.map identity).Nodup) {xr : ControlPlane} (hxr : xr ∈ members)
    (hrequest : K.requestedBy xr = true) :
    conflictOf members xr =
      match view K.claimedBy K.rank members xr with
      | some owner => joinIdentity owner
      | none => "" := by
  have hkey : secretKey (xr.parameters.license.getD {}) = K.key :=
    (secretKey_eq_iff K _).mpr hrequest
  -- a license that names `K` is truthy, so the guard does not return early
  have htruthy : License.truthy xr.parameters.license = true := by
    by_contra hfalse
    have hname : K.name = "" := by
      have hnamed := hrequest
      simp only [Secret.requestedBy, Secret.namedBy, Bool.and_eq_true, beq_iff_eq] at hnamed
      rw [← hnamed.2]
      cases hlic : xr.parameters.license with
      | none => rfl
      | some lic =>
        have hsecret : lic.secretRef = none := by
          simpa [License.truthy, hlic] using hfalse
        simp [hsecret]
    exact K.name_ne hname
  have hempty : members.isEmpty = false := by
    cases members with
    | nil => cases hxr
    | cons => rfl
  have hproceed : ¬ (!License.truthy xr.parameters.license || members.isEmpty) = true := by
    simp [htruthy, hempty]
  have howner : (aheadOf (secretKey (xr.parameters.license.getD {})) xr members).argmin
      (claimOrder (secretKey (xr.parameters.license.getD {}))) =
      view K.claimedBy K.rank members xr := by
    rw [hkey, aheadOf_key hdistinct hxr, claimOrder_key, view]
  rw [← howner]
  exact if_neg hproceed

theorem joinIdentity_ne_empty (obj : ControlPlane) : joinIdentity obj ≠ "" := by
  intro heq
  have hlength := congrArg (fun s => s.toList.length) heq
  simp [joinIdentity] at hlength

/-- Free of conflict is being the owner. -/
theorem conflictOf_eq_empty_iff {K : Secret} {members : List ControlPlane}
    (hdistinct : (members.map identity).Nodup) {x : ControlPlane} (hx : K.Requester members x) :
    conflictOf members x = "" ↔ K.Owner members x := by
  have hclaim : K.claimedBy x = true := by
    simp [Secret.claimedBy, hx.2.1, hx.2.2]
  rw [Secret.Owner, ← view_eq_none_iff hx.1 hclaim, conflictOf_eq_view hdistinct hx.1 hx.2.2]
  cases view K.claimedBy K.rank members x with
  | none => simp
  | some owner => simp [joinIdentity_ne_empty owner]

/-- A conflict names the owner. -/
theorem exists_owner_of_conflictOf_ne {K : Secret} {members : List ControlPlane}
    (hdistinct : (members.map identity).Nodup) {x : ControlPlane} (hx : K.Requester members x)
    (hconflict : conflictOf members x ≠ "") :
    ∃ owner, K.Owner members owner ∧ conflictOf members x = joinIdentity owner := by
  have hview := conflictOf_eq_view hdistinct hx.1 hx.2.2
  cases hv : view K.claimedBy K.rank members x with
  | none =>
    rw [hv] at hview
    exact absurd hview hconflict
  | some owner =>
    rw [hv] at hview
    exact ⟨owner, elected_of_view_eq_some hv, hview⟩

theorem owner_unique {K : Secret} {members : List ControlPlane}
    (hdistinct : (members.map identity).Nodup) {x y : ControlPlane}
    (hx : K.Owner members x) (hy : K.Owner members y) : x = y := by
  refine hx.unique (fun a ha b hb heq => ?_) hy
  rw [← claimOrder_key] at heq
  exact eq_of_identity_eq hdistinct ha hb (identity_eq_of_claimOrder_eq heq)

/-- **License owner agreement.** On a list of ControlPlanes with distinct
identities, a live requester of the Secret `K` is free of conflict exactly when it
is the owner, and otherwise names the owner. All conflicted requesters name one
owner, at most one requester is free, and when every participant requests `K`
exactly one is. -/
theorem license_owner_agreement (K : Secret) (members : List ControlPlane)
    (hdistinct : (members.map identity).Nodup) :
    (∀ x, K.Requester members x →
      (conflictOf members x = "" ↔ K.Owner members x) ∧
      (¬ K.Owner members x →
        ∃ owner, K.Owner members owner ∧ conflictOf members x = joinIdentity owner)) ∧
    (∀ x y, K.Requester members x → K.Requester members y →
      conflictOf members x ≠ "" → conflictOf members y ≠ "" →
        conflictOf members x = conflictOf members y) ∧
    (∀ x y, K.Requester members x → K.Requester members y →
      conflictOf members x = "" → conflictOf members y = "" → x = y) ∧
    ((∃ x, K.Requester members x) →
      (∀ x ∈ members, K.claimedBy x = true → K.requestedBy x = true) →
        ∃! x, K.Requester members x ∧ conflictOf members x = "") := by
  refine ⟨fun x hx => ⟨conflictOf_eq_empty_iff hdistinct hx, fun hnot => ?_⟩, ?_, ?_, ?_⟩
  · exact exists_owner_of_conflictOf_ne hdistinct hx
      (mt (conflictOf_eq_empty_iff hdistinct hx).mp hnot)
  · intro x y hx hy hcx hcy
    obtain ⟨owner, howner, hox⟩ := exists_owner_of_conflictOf_ne hdistinct hx hcx
    obtain ⟨owner', howner', hoy⟩ := exists_owner_of_conflictOf_ne hdistinct hy hcy
    rw [hox, hoy, owner_unique hdistinct howner howner']
  · intro x y hx hy hcx hcy
    exact owner_unique hdistinct ((conflictOf_eq_empty_iff hdistinct hx).mp hcx)
      ((conflictOf_eq_empty_iff hdistinct hy).mp hcy)
  · rintro ⟨x, hx⟩ hall
    have hclaim : K.claimedBy x = true := by
      simp [Secret.claimedBy, hx.2.1, hx.2.2]
    -- some participant is elected, and here every participant is a requester
    obtain ⟨owner, howner⟩ : ∃ owner, K.Owner members owner := exists_elected hx.1 hclaim
    have hlive : terminating owner = false := by
      have hpart := howner.2.1
      simp only [Secret.claimedBy, Bool.and_eq_true, Bool.not_eq_true'] at hpart
      exact hpart.1
    have hrequester : K.Requester members owner :=
      ⟨howner.1, hlive, hall owner howner.1 howner.2.1⟩
    refine ⟨owner, ⟨hrequester, (conflictOf_eq_empty_iff hdistinct hrequester).mpr howner⟩, ?_⟩
    rintro y ⟨hy, hcy⟩
    exact owner_unique hdistinct ((conflictOf_eq_empty_iff hdistinct hy).mp hcy) howner

/-- A ControlPlane of the default namespace that requests the license Secret
`crossplane-system/uxp-license-shared`. -/
def sharer (name created : String) : ControlPlane where
  metadata := { ns := some "default", name := some name, creationTimestamp := some created }
  parameters :=
    { license := some
        { secretRef := some
            { name := some "uxp-license-shared", ns := some "crossplane-system" } } }

/-- The Secret of the sharers. -/
def sharedSecret : Secret where
  ns := "crossplane-system"
  name := "uxp-license-shared"
  name_ne := by decide
  ns_slash := by decide
  name_slash := by decide

/-- Of two sharers the newer one is not the owner: the guard names it the older. -/
theorem license_owner_agreement_sharers :
    ¬ sharedSecret.Owner
      [sharer "cp-b" "2026-02-01T00:00:00Z", sharer "cp-a" "2026-01-01T00:00:00Z"]
      (sharer "cp-b" "2026-02-01T00:00:00Z") := by
  intro howner
  have hagree := license_owner_agreement sharedSecret
    [sharer "cp-b" "2026-02-01T00:00:00Z", sharer "cp-a" "2026-01-01T00:00:00Z"] (by decide)
  have hfree := (hagree.1 _ ⟨List.mem_cons_self, by decide, by decide⟩).1.mpr howner
  exact absurd hfree (by decide)

end AzureCtp
