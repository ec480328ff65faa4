import AzureCtp.License.Claim
import Mathlib.Logic.Relation

/-!
# License exclusivity over runs of a management cluster

The cluster as a transition system: ControlPlanes are created, edited, marked
terminating and removed, and reconciled against the current list of all of them.
A reconcile applies its response: the status license is what the response writes,
the installed license is what its composed Object refers to.

The guard compares a requester with snapshots of its peers only. What makes it
enough is that a member's status and its installed license always name the same
Secret, so a holder can be recognised by its status, and that no two live members
hold Secrets with one key.

## Main results

* `Exclusive.step`: one step of the cluster keeps the invariant
* `license_exclusive`: in every reachable cluster no two distinct live members
  hold the same Secret, in status or installed
-/

set_option autoImplicit false

namespace AzureCtp

/-- A ControlPlane of the management cluster with its last applied
`uxp-license-secret` Object. -/
structure Member where
  xr : ControlPlane
  licenseObject : Option Resource

namespace Member

/-- The license installed by the member's Object. -/
def installed (m : Member) : Option License := licenseOfObject m.licenseObject

/-- The member after its response is applied. -/
def apply (m : Member) (rsp : Response) : Member where
  xr := { m.xr with statusLicense := statusLicense rsp }
  licenseObject := rsp.resources.lookup "uxp-license-secret"

@[simp] theorem apply_statusLicense (m : Member) (rsp : Response) :
    (m.apply rsp).xr.statusLicense = statusLicense rsp := rfl

@[simp] theorem apply_installed (m : Member) (rsp : Response) :
    (m.apply rsp).installed = licenseOfObject (rsp.resources.lookup "uxp-license-secret") := rfl

/-- The member holds the Secret, in its status or installed. -/
def Holds (m : Member) (s : String × String) : Prop :=
  secret? m.xr.statusLicense = some s ∨ secret? m.installed = some s

end Member

/-- What happens to one member; `peers` is the current list of all ControlPlanes,
served in any order. -/
inductive MemberStep (peers : List ControlPlane) : Member → Member → Prop
  | edit (m : Member) (parameters : Parameters) :
      MemberStep peers m { m with xr := { m.xr with parameters := parameters } }
  | terminate (m : Member) (timestamp : String) (hset : timestamp ≠ "") :
      MemberStep peers m
        { m with
          xr := { m.xr with
            metadata := { m.xr.metadata with deletionTimestamp := some timestamp } } }
  | reconcile (m : Member) (now : String) (req : Request)
      (hlive : terminating m.xr = false) (hcomposite : req.composite = m.xr)
      (hpeers : req.allControlPlanes.Perm peers)
      (hobserved : observedLicenseObject req.observed = m.licenseObject) :
      MemberStep peers m (m.apply (reconcile now req))

/-- One step of the cluster. -/
inductive ClusterStep : List Member → List Member → Prop
  | create (c : List Member) (xr : ControlPlane)
      (hfresh : identity xr ∉ c.map fun m => identity m.xr) (hstatus : xr.statusLicense = none) :
      ClusterStep c (⟨xr, none⟩ :: c)
  | change (before after : List Member) {m m' : Member}
      (hstep : MemberStep ((before ++ m :: after).map Member.xr) m m') :
      ClusterStep (before ++ m :: after) (before ++ m' :: after)
  | remove (before after : List Member) (m : Member) :
      ClusterStep (before ++ m :: after) (before ++ after)

/-- The clusters reachable from the empty one. -/
def ReachableCluster (c : List Member) : Prop := Relation.ReflTransGen ClusterStep [] c

/-- The invariant of the cluster. -/
structure Exclusive (c : List Member) : Prop where
  distinct : (c.map fun m => identity m.xr).Nodup
  /-- Status and installed license name the same Secret. -/
  synced : ∀ m ∈ c, secret? m.xr.statusLicense = secret? m.installed
  /-- No two live members hold Secrets with one key. -/
  apart : ∀ a ∈ c, ∀ b ∈ c, identity a.xr ≠ identity b.xr →
    terminating a.xr = false → terminating b.xr = false →
      ∀ s t, secret? a.xr.statusLicense = some s → secret? b.xr.statusLicense = some t →
        keyOf s ≠ keyOf t

theorem exclusive_nil : Exclusive [] where
  distinct := List.nodup_nil
  synced := by simp
  apart := by simp

theorem Exclusive.sublist {c d : List Member} (hc : Exclusive c) (hsub : d.Sublist c) :
    Exclusive d where
  distinct := hc.distinct.sublist (hsub.map _)
  synced := fun m hm => hc.synced m (hsub.mem hm)
  apart := fun a ha b hb => hc.apart a (hsub.mem ha) b (hsub.mem hb)

theorem Exclusive.cons {c : List Member} (hc : Exclusive c) {m : Member}
    (hfresh : identity m.xr ∉ c.map fun o => identity o.xr)
    (hsynced : secret? m.xr.statusLicense = secret? m.installed)
    (hapart : ∀ o ∈ c, terminating m.xr = false → terminating o.xr = false →
      ∀ s t, secret? m.xr.statusLicense = some s → secret? o.xr.statusLicense = some t →
        keyOf s ≠ keyOf t) :
    Exclusive (m :: c) where
  distinct := List.nodup_cons.mpr ⟨hfresh, hc.distinct⟩
  synced := by
    intro o ho
    rcases List.mem_cons.mp ho with rfl | ho
    · exact hsynced
    · exact hc.synced o ho
  apart := by
    intro a ha b hb hne hla hlb s t hs ht
    -- the new member against itself, against the rest either way round, and the rest
    rcases List.mem_cons.mp ha with rfl | hac <;> rcases List.mem_cons.mp hb with rfl | hbc
    · exact absurd rfl hne
    · exact hapart b hbc hla hlb s t hs ht
    · exact (hapart a hac hlb hla t s ht hs).symm
    · exact hc.apart a hac b hbc hne hla hlb s t hs ht

theorem Exclusive.perm {c d : List Member} (hc : Exclusive c) (hperm : c.Perm d) :
    Exclusive d where
  distinct := (hperm.map _).nodup_iff.mp hc.distinct
  synced := fun m hm => hc.synced m (hperm.mem_iff.mpr hm)
  apart := fun a ha b hb => hc.apart a (hperm.mem_iff.mpr ha) b (hperm.mem_iff.mpr hb)

/-- A step leaves a member's identity alone. -/
theorem MemberStep.identity_eq {peers : List ControlPlane} {m m' : Member}
    (hstep : MemberStep peers m m') : identity m'.xr = identity m.xr := by
  cases hstep <;> rfl

/-- A step never revives a terminating member. -/
theorem MemberStep.live_before {peers : List ControlPlane} {m m' : Member}
    (hstep : MemberStep peers m m') (hlive : terminating m'.xr = false) :
    terminating m.xr = false := by
  cases hstep with
  | edit => exact hlive
  | terminate timestamp hset => exact absurd hlive (by simpa [terminating] using hset)
  | reconcile _ _ hlive' => exact hlive'

theorem MemberStep.synced {peers : List ControlPlane} {m m' : Member}
    (hstep : MemberStep peers m m')
    (hsynced : secret? m.xr.statusLicense = secret? m.installed) :
    secret? m'.xr.statusLicense = secret? m'.installed := by
  cases hstep with
  | edit => exact hsynced
  | terminate => exact hsynced
  | reconcile now req =>
    rw [Member.apply_statusLicense, Member.apply_installed, secret?_status, secret?_licenseObject]

/-- What a step can claim: the Secret held before, or one on whose key no other
live member is. -/
theorem MemberStep.claim {peers : List ControlPlane} {m m' : Member}
    (hstep : MemberStep peers m m') {s : String × String}
    (hsynced : secret? m.xr.statusLicense = secret? m.installed)
    (hs : secret? m'.xr.statusLicense = some s) :
    (∃ t, secret? m.xr.statusLicense = some t ∧ keyOf t = keyOf s) ∨
      ∀ peer ∈ peers, identity peer ≠ identity m.xr → terminating peer = false →
        holds (keyOf s) peer = false := by
  cases hstep with
  | edit => exact Or.inl ⟨s, hs, rfl⟩
  | terminate => exact Or.inl ⟨s, hs, rfl⟩
  | reconcile now req hlive hcomposite hpeers hobserved =>
    have hclaim : secret? req.licenseClaim = some s := by
      rwa [Member.apply_statusLicense, secret?_status] at hs
    by_cases hconflict : req.licenseConflict = ""
    · -- the requested license is claimed: no holder may be ahead of the request
      by_cases htruthy : License.truthy req.licenseParam = true
      · rw [licenseClaim_of_free htruthy hconflict] at hclaim
        have hkey : secretKey (req.licenseParam.getD {}) = keyOf s := by
          rw [secretKey_eq, (secret?_eq_some_iff.mp hclaim).1]
        by_cases hheld : holds (keyOf s) m.xr = true
        · obtain ⟨t, ht, hkt⟩ := onSecret_iff.mp hheld
          exact Or.inl ⟨t, ht, hkt⟩
        · refine Or.inr fun peer hpeer hother hplive => ?_
          by_contra hholds
          rw [← hkey, Bool.not_eq_false] at hholds
          rw [← hkey, Bool.not_eq_true, ← hcomposite] at hheld
          exact conflict_ne_empty_of_holder htruthy (hpeers.mem_iff.mpr hpeer)
            (by rwa [hcomposite]) hplive hholds hheld hconflict
      · rw [licenseClaim_of_not_truthy htruthy] at hclaim
        cases hclaim
    · -- only the installed license is claimed, and the status already names it
      rcases licenseClaim_of_conflict hconflict with hnone | hinstalled
      · rw [hnone] at hclaim
        cases hclaim
      · rw [hinstalled, getInstalledLicense_eq, hobserved] at hclaim
        exact Or.inl ⟨s, hsynced.trans hclaim, rfl⟩

/-- A member step, seen from the front of the list. -/
theorem Exclusive.memberStep {c : List Member} {m m' : Member} {peers : List ControlPlane}
    (hc : Exclusive (m :: c)) (hstep : MemberStep peers m m')
    (hpeers : ∀ o ∈ c, o.xr ∈ peers) : Exclusive (m' :: c) := by
  have hnodup := List.nodup_cons.mp hc.distinct
  have hrest : Exclusive c := hc.sublist (List.sublist_cons_self m c)
  refine hrest.cons (by rw [hstep.identity_eq]; exact hnodup.1)
    (hstep.synced (hc.synced m List.mem_cons_self)) ?_
  intro o ho hlive holive s t hs ht hkey
  have hother : identity m.xr ≠ identity o.xr := fun heq =>
    hnodup.1 (List.mem_map.mpr ⟨o, ho, heq.symm⟩)
  -- a Secret held before is apart by the invariant, a new one by the guard
  rcases hstep.claim (hc.synced m List.mem_cons_self) hs with ⟨u, hu, hku⟩ | hfree
  · exact hc.apart m List.mem_cons_self o (List.mem_cons_of_mem m ho) hother
      (hstep.live_before hlive) holive u t hu ht (hku.trans hkey)
  · have hnot := hfree o.xr (hpeers o ho) hother.symm holive
    have hholds : holds (keyOf s) o.xr = true := onSecret_iff.mpr ⟨t, ht, hkey.symm⟩
    rw [hholds] at hnot
    cases hnot

/-- One step of the cluster keeps the invariant. -/
theorem Exclusive.step {c d : List Member} (hc : Exclusive c) (hstep : ClusterStep c d) :
    Exclusive d := by
  cases hstep with
  | create _ xr hfresh hstatus =>
    have hnone : secret? xr.statusLicense = none := by rw [hstatus]; rfl
    refine hc.cons hfresh hnone ?_
    intro o _ _ _ s t hs
    rw [hnone] at hs
    cases hs
  | @change before after m m' hmember =>
    -- the invariant does not see the order, so the member that moves comes first
    have hfront : ∀ x : Member, (x :: (before ++ after)).Perm (before ++ x :: after) :=
      fun x => List.perm_middle.symm
    refine Exclusive.perm (Exclusive.memberStep (hc.perm (hfront m).symm) hmember ?_) (hfront m')
    intro o ho
    exact List.mem_map_of_mem ((hfront m).mem_iff.mp (List.mem_cons_of_mem m ho))
  | remove before after m =>
    exact hc.sublist (List.Sublist.append_left (List.sublist_cons_self m after) before)

theorem ReachableCluster.exclusive {c : List Member} (hreach : ReachableCluster c) :
    Exclusive c := by
  induction hreach with
  | refl => exact exclusive_nil
  | tail _ hstep ih => exact ih.step hstep

theorem Exclusive.status_of_holds {c : List Member} (hc : Exclusive c) {m : Member} (hm : m ∈ c)
    {s : String × String} (hholds : m.Holds s) : secret? m.xr.statusLicense = some s := by
  rcases hholds with hstatus | hinstalled
  · exact hstatus
  · exact (hc.synced m hm).trans hinstalled

/-- **License exclusivity over runs.** In every cluster reachable from the empty
one, no two distinct live ControlPlanes hold the same Secret, in status or
installed. -/
theorem license_exclusive {c : List Member} (hreach : ReachableCluster c) {a b : Member}
    (ha : a ∈ c) (hb : b ∈ c) (hne : identity a.xr ≠ identity b.xr)
    (hlivea : terminating a.xr = false) (hliveb : terminating b.xr = false)
    (s : String × String) : ¬ (a.Holds s ∧ b.Holds s) := by
  rintro ⟨hholdsa, hholdsb⟩
  exact hreach.exclusive.apart a ha b hb hne hlivea hliveb s s
    (hreach.exclusive.status_of_holds ha hholdsa)
    (hreach.exclusive.status_of_holds hb hholdsb) rfl

/-- The older sharer, just created. -/
def olderSharer : Member := ⟨sharer "cp-a" "2026-01-01T00:00:00Z", none⟩

/-- The newer sharer, just created. -/
def newerSharer : Member := ⟨sharer "cp-b" "2026-02-01T00:00:00Z", none⟩

/-- The first reconcile of the older sharer. -/
def olderSharerRequest : Request where
  composite := olderSharer.xr
  allControlPlanes := [olderSharer.xr, newerSharer.xr]

/-- The older sharer after its reconcile. -/
def olderSharerApplied : Member :=
  olderSharer.apply (reconcile "2026-03-01T00:00:00Z" olderSharerRequest)

theorem sharers_reachable : ReachableCluster [newerSharer, olderSharerApplied] := by
  refine ((Relation.ReflTransGen.refl.tail (ClusterStep.create [] olderSharer.xr ?_ ?_)).tail
    (ClusterStep.create [olderSharer] newerSharer.xr ?_ ?_)).tail
    (ClusterStep.change [newerSharer] [] (MemberStep.reconcile olderSharer
      "2026-03-01T00:00:00Z" olderSharerRequest ?_ ?_ ?_ ?_))
  · exact List.not_mem_nil
  · rfl
  · decide
  · rfl
  · decide
  · rfl
  · exact List.Perm.swap newerSharer.xr olderSharer.xr []
  · rfl

/-- The older of two sharers is reconciled and holds the Secret, so the newer one
does not. -/
theorem license_exclusive_sharers :
    olderSharerApplied.Holds ("crossplane-system", "uxp-license-shared") ∧
      ¬ newerSharer.Holds ("crossplane-system", "uxp-license-shared") := by
  have hholds : olderSharerApplied.Holds ("crossplane-system", "uxp-license-shared") := by
    refine Or.inl ?_
    rw [olderSharerApplied, Member.apply_statusLicense, secret?_status]
    decide
  refine ⟨hholds, fun hnewer => ?_⟩
  exact license_exclusive sharers_reachable (List.mem_cons_of_mem newerSharer List.mem_cons_self)
    List.mem_cons_self (by decide) rfl rfl _ ⟨hholds, hnewer⟩

end AzureCtp
