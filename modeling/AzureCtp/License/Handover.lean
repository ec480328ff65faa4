import AzureCtp.License.Retention
import AzureCtp.License.Turns

/-!
# How claims move and where they settle

What the claims protocol gives the cluster between two edits. The owner of a Secret
holds it from its first reconcile on. A claim changes at most once. After one round of
reconciles for each ControlPlane no claim changes any more: then every ControlPlane
holds what it requests or waits for a live holder. Holders that request each other's
Secrets wait for ever, since a claim is released only by claiming another. All but the
first of these hold also where a race has given a Secret several holders.

## Main results

* `owner_holds_after_reconcile`: the owner of a Secret gets it at its first turn
* `claim_changes_at_most_once`: a claim that moved does not move again
* `claims_settle`: the claims settle, and in what state
* `circular_wait_persists`: a circle of holders never gets out of it
-/

set_option autoImplicit false

namespace AzureCtp

open Claims

variable {c d e : List Member} {turns : List (String × String)}

theorem heldBy_iff_heldKey {K : Secret} {m : Member} :
    K.heldBy m.xr = true ↔ m.heldKey = some K.key := by
  rw [heldKey_eq_some_iff, holds, onSecret_key, Secret.heldBy]

theorem requestedBy_iff_requestedKey {K : Secret} {m : Member} :
    K.requestedBy m.xr = true ↔ m.requestedKey = some K.key := by
  rw [requestedKey_eq_some_iff, onSecret_key, Secret.requestedBy]

/-- A run of reconciles keeps a cluster exclusive. -/
theorem Turns.exclusive (hrun : Turns turns c d) (hc : Exclusive c) : Exclusive d := by
  induction hrun with
  | nil => exact hc
  | cons hstep _ ih => exact ih (hc.step hstep.clusterStep)

/-- Live members of one identity before and after a run. -/
theorem Refines.exists_member (hrun : Refines turns c d) {m : Member} (hm : m ∈ c)
    (hlive : terminating m.xr = false) :
    ∃ m' ∈ d, identity m'.xr = identity m.xr ∧ terminating m'.xr = false := by
  have hmem : identity m.xr ∈ (setting d).members := by
    rw [hrun.setting_eq]
    exact mem_members_iff.mpr ⟨m, hm, rfl, hlive⟩
  exact mem_members_iff.mp hmem

/-! ### Handover -/

/-- An owner that does not hold the Secret is the first claimant of a free one. -/
theorem first_of_owner (hc : Recorded c) {K : Secret} {x : Member} (hx : x ∈ c)
    (howner : K.Owner (c.map Member.xr) x.xr) (hlive : terminating x.xr = false)
    (hrequest : K.requestedBy x.xr = true) (hnot : K.heldBy x.xr = false) :
    (setting c).Free (heldKeys c) K.key ∧ (setting c).First K.key (identity x.xr) := by
  have hleast : ∀ o ∈ c, terminating o.xr = false →
      (K.requestedBy o.xr || K.heldBy o.xr) = true →
        claimOrder K.key x.xr ≤ claimOrder K.key o.xr := by
    intro o ho holive hclaims
    rw [claimOrder_key]
    refine howner.2.2 o.xr (List.mem_map_of_mem ho) ?_
    rw [Secret.claimedBy, holive, hclaims]
    rfl
  have hholds : ∀ o : Member, holds K.key o.xr = K.heldBy o.xr := fun o => onSecret_key K _
  have hfree : ∀ o ∈ c, terminating o.xr = false → holds K.key o.xr = false := by
    -- a holder would come before `x` in the claim order
    intro o ho holive
    by_contra hoholds
    rw [Bool.not_eq_false] at hoholds
    have hle := hleast o ho holive (by rw [← hholds, hoholds, Bool.or_true])
    exact absurd hle (not_le.mpr (claimOrder_lt_of_holds hoholds (by rw [hholds, hnot])))
  refine ⟨(free_iff hc.distinct).mpr hfree, mem_members_iff.mpr ⟨x, hx, rfl, hlive⟩, ?_, ?_⟩
  · rw [wants_identity hc.distinct hx hlive, ← requestedBy_iff_requestedKey, hrequest]
  · intro who hwho hwants
    obtain ⟨o, ho, rfl, holive⟩ := mem_members_iff.mp hwho
    rw [wants_identity hc.distinct ho holive, ← requestedBy_iff_requestedKey] at hwants
    -- with no holder the claim order is the order of age
    rw [rank_identity hc.distinct hx hlive, rank_identity hc.distinct ho holive, ← not_lt]
    intro hlt
    have hle := hleast o ho holive (by rw [hwants, Bool.true_or])
    rw [← not_lt, claimOrder_lt_iff_of_holds_eq
      ((hfree o ho holive).trans (hfree x hx hlive).symm)] at hle
    exact hle hlt

/-- **Handover.** In a run of reconciles, in whatever order, the owner of a Secret it
requests holds it from its first turn on, and it is the only one. -/
theorem owner_holds_after_reconcile (hreach : ReachableCluster c) (hnames : SlashFree c)
    {K : Secret} {x : Member} (hx : x ∈ c) (howner : K.Owner (c.map Member.xr) x.xr)
    (hrequest : K.requestedBy x.xr = true) (hrun : Turns turns c d)
    (hturn : identity x.xr ∈ turns) :
    (∃ x' ∈ d, identity x'.xr = identity x.xr ∧ K.heldBy x'.xr = true) ∧
      ∀ y ∈ d, identity y.xr ≠ identity x.xr → terminating y.xr = false →
        K.heldBy y.xr = false := by
  have hc := hreach.exclusive.recorded
  have hrefines := hrun.refines hc hnames
  have hlive : terminating x.xr = false := by
    have hclaimed := howner.2.1
    simp only [Secret.claimedBy, Bool.and_eq_true, Bool.not_eq_true'] at hclaimed
    exact hclaimed.1
  have hkey := requestedBy_iff_requestedKey.mp hrequest
  have hheld : heldKeys d (identity x.xr) = some K.key := by
    rw [hrefines.heldKeys_eq]
    cases hbefore : K.heldBy x.xr with
    | true =>
      -- settled from the start: its turns change nothing
      rw [Setting.run_of_settled, wants_identity hc.distinct hx hlive, hkey]
      rw [heldKeys_identity hc.distinct hx hlive, wants_identity hc.distinct hx hlive, hkey,
        heldBy_iff_heldKey.mp hbefore]
    | false =>
      obtain ⟨hfree, hfirst⟩ := first_of_owner hc hx howner hlive hrequest hbefore
      exact Setting.run_first hfree hfirst hturn
  obtain ⟨x', hx', hid, hlive'⟩ := hrefines.exists_member hx hlive
  rw [← hid, heldKeys_identity hrefines.recorded.distinct hx' hlive'] at hheld
  refine ⟨⟨x', hx', hid, heldBy_iff_heldKey.mpr hheld⟩, fun y hy hne hylive => ?_⟩
  -- another holder would share the Secret with it, in an exclusive cluster
  by_contra hyheld
  rw [Bool.not_eq_false, heldBy_iff_heldKey] at hyheld
  obtain ⟨s, hs, hsk⟩ := Option.map_eq_some_iff.mp hheld
  obtain ⟨t, ht, htk⟩ := Option.map_eq_some_iff.mp hyheld
  exact (hrun.exclusive hreach.exclusive).apart y hy x' hx' (by rwa [hid]) hylive hlive' t s ht hs
    (htk.trans hsk.symm)

theorem sharers_run : Turns [identity olderSharer.xr] [newerSharer, olderSharer]
    [newerSharer, olderSharerApplied] :=
  Turns.cons olderSharer_reconciled (Turns.nil _)

/-- The older of two sharers owns the Secret and holds it after its reconcile. -/
theorem owner_holds_after_reconcile_sharers :
    sharedSecret.heldBy newerSharer.xr = false ∧
      ∃ x ∈ [newerSharer, olderSharerApplied], sharedSecret.heldBy x.xr = true := by
  have howner : sharedSecret.Owner ([newerSharer, olderSharer].map Member.xr) olderSharer.xr :=
    ⟨by simp, by decide, by decide⟩
  obtain ⟨⟨x, hx, -, hheld⟩, hothers⟩ := owner_holds_after_reconcile sharers_created
    slashFree_sharers (List.mem_cons_of_mem newerSharer List.mem_cons_self) howner (by decide)
    sharers_run List.mem_cons_self
  exact ⟨hothers newerSharer List.mem_cons_self (by decide) rfl, x, hx, hheld⟩

/-! ### Settling -/

/-- **A claim changes at most once.** Once a ControlPlane's claim has changed in a run of
reconciles, it is what the ControlPlane requests, and it stays so in every longer run. -/
theorem claim_changes_at_most_once (hc : Recorded c) (hnames : SlashFree c)
    {more : List (String × String)} (hrun : Turns turns c d) (hmore : Turns more d e)
    {who : String × String} (hchange : heldKeys d who ≠ heldKeys c who) :
    heldKeys d who = (liveMember? c who).bind Member.requestedKey ∧
      heldKeys e who = heldKeys d who := by
  have hd := hrun.refines hc hnames
  have he := hmore.refines hd.recorded hd.slashFree
  have hsettled : heldKeys d who = (setting c).wants who := by
    rw [hd.heldKeys_eq] at hchange ⊢
    exact Setting.run_apply_eq_or.resolve_left hchange
  refine ⟨hsettled, ?_⟩
  rw [he.heldKeys_eq, hd.setting_eq, Setting.run_of_settled hsettled, hsettled]

/-- The claim of the older sharer has moved, and does not move again. -/
theorem claim_changes_at_most_once_sharers :
    heldKeys [newerSharer, olderSharerApplied] (identity olderSharer.xr) =
      olderSharer.requestedKey := by
  refine (claim_changes_at_most_once exclusive_sharers.recorded slashFree_sharers sharers_run
    (Turns.nil _) ?_).1
  rw [heldKeys_reconciled exclusive_sharers.recorded exclusive_sharers.distinct rfl
    slashFree_sharers olderSharer_reconciled]
  decide

/-- Every live ControlPlane holds what it requests, or waits for a live holder. -/
def ClaimsSettled (c : List Member) : Prop :=
  ∀ m ∈ c, terminating m.xr = false → m.heldKey = m.requestedKey ∨
    ∃ k, m.requestedKey = some k ∧ ∃ o ∈ c, identity o.xr ≠ identity m.xr ∧
      terminating o.xr = false ∧ o.heldKey = some k

/-- Each live ControlPlane of the cluster has a turn, in any order. -/
def FairRound (c : List Member) (turns : List (String × String)) : Prop :=
  ∀ who, who ∈ turns ↔ ∃ m ∈ c, identity m.xr = who ∧ terminating m.xr = false

/-- The settled clusters are those in which no turn changes a claim. -/
theorem claimsSettled_iff (hdistinct : (c.map fun m => identity m.xr).Nodup) :
    ClaimsSettled c ↔ (setting c).Quiescent (heldKeys c) := by
  rw [Setting.quiescent_iff]
  constructor
  · intro hsettled who hwho
    obtain ⟨m, hm, rfl, hlive⟩ := mem_members_iff.mp hwho
    rw [heldKeys_identity hdistinct hm hlive, wants_identity hdistinct hm hlive]
    rcases hsettled m hm hlive with hheld | ⟨k, hrequest, o, ho, hne, holive, hheld⟩
    · exact Or.inl hheld
    · refine Or.inr ⟨k, hrequest, identity o.xr, mem_members_iff.mpr ⟨o, ho, rfl, holive⟩, hne, ?_⟩
      rw [heldKeys_identity hdistinct ho holive, hheld]
  · intro hquiet m hm hlive
    have hwaits := hquiet _ (mem_members_iff.mpr ⟨m, hm, rfl, hlive⟩)
    rw [heldKeys_identity hdistinct hm hlive, wants_identity hdistinct hm hlive] at hwaits
    rcases hwaits with hheld | ⟨k, hrequest, who, hwho, hne, hheld⟩
    · exact Or.inl hheld
    · obtain ⟨o, ho, rfl, holive⟩ := mem_members_iff.mp hwho
      rw [heldKeys_identity hdistinct ho holive] at hheld
      exact Or.inr ⟨k, hrequest, o, ho, hne, holive, hheld⟩

theorem card_unsettled_le :
    ((setting c).unsettled (heldKeys c)).card ≤ (c.filter Member.live).length := by
  calc ((setting c).unsettled (heldKeys c)).card
      ≤ (setting c).members.card := Finset.card_filter_le _ _
    _ ≤ ((c.filter Member.live).map fun m => identity m.xr).length := List.toFinset_card_le _
    _ = (c.filter Member.live).length := List.length_map _

/-- Each live ControlPlane has had as many turns as there are live ControlPlanes. -/
structure FairRounds (c : List Member) (rounds : List (List (String × String))) : Prop where
  fair : ∀ turns ∈ rounds, FairRound c turns
  count : (c.filter Member.live).length ≤ rounds.length

theorem FairRounds.quiescent {rounds : List (List (String × String))}
    (hrounds : FairRounds c rounds) (hd : Refines rounds.flatten c d) :
    (setting d).Quiescent (heldKeys d) := by
  rw [hd.setting_eq, hd.heldKeys_eq]
  refine Setting.quiescent_run_flatten (fun turns hturns who => ?_)
    (card_unsettled_le.trans hrounds.count)
  rw [hrounds.fair turns hturns, mem_members_iff]

theorem Refines.heldKeys_eq_of_quiescent (hd : Refines turns c d)
    (hquiet : (setting c).Quiescent (heldKeys c)) : heldKeys d = heldKeys c := by
  rw [hd.heldKeys_eq, hquiet.run hd.mem_members]

/-- **The claims settle.** After as many rounds of reconciles as there are live
ControlPlanes, each round in its own order, every live ControlPlane holds what it requests
or waits for a live holder, and no further reconcile changes a claim. -/
theorem claims_settle (hc : Recorded c) (hnames : SlashFree c)
    {rounds : List (List (String × String))} (hrounds : FairRounds c rounds)
    (hrun : Turns rounds.flatten c d) :
    ClaimsSettled d ∧ ∀ turns e, Turns turns d e → heldKeys e = heldKeys d := by
  have hd := hrun.refines hc hnames
  have hquiet := hrounds.quiescent hd
  refine ⟨(claimsSettled_iff hd.recorded.distinct).mpr hquiet, fun turns e hmore => ?_⟩
  exact (hmore.refines hd.recorded hd.slashFree).heldKeys_eq_of_quiescent hquiet

theorem Member.observedLicenseObject_apply (m : Member) (rsp : Response) :
    observedLicenseObject (observeIdeal rsp) = (m.apply rsp).licenseObject := by
  rw [observedLicenseObject, lookup_observeIdeal, Option.map_map]
  exact Option.map_id'

/-- A live member with the resources it observes, its Object among them. -/
structure Observer where
  member : Member
  observed : Observed
  live : terminating member.xr = false
  synced : observedLicenseObject observed = member.licenseObject

namespace Observer

/-- The next request of the member, served the cluster as it is. -/
def request (o : Observer) (c : List Member) : Request where
  composite := o.member.xr
  observed := o.observed
  allControlPlanes := c.map Member.xr

theorem upToDate_request {o : Observer} (hmem : o.member ∈ c) :
    UpToDate c o.member (o.request c) :=
  ⟨hmem, o.live, rfl, List.Perm.refl _⟩

/-- The member after its reconcile, with all it has composed observed. -/
def reconciled (o : Observer) (c : List Member) : Observer where
  member := o.member.apply (reconcile "2026-03-01T00:00:00Z" (o.request c))
  observed := observeIdeal (reconcile "2026-03-01T00:00:00Z" (o.request c))
  live := o.live
  synced := o.member.observedLicenseObject_apply _

theorem reconciled_turn (o : Observer) (before after : List Member) :
    Reconciled (before ++ o.member :: after) (identity o.member.xr)
      (before ++ o.member :: after)
      (before ++ (o.reconciled (before ++ o.member :: after)).member :: after) :=
  Reconciled.turn before after o.member _ _ o.live rfl (List.Perm.refl _) o.synced

end Observer

/-- The two sharers in the course of a run. -/
structure Sharers where
  newer : Observer
  older : Observer

namespace Sharers

/-- The cluster of the two. -/
def cluster (s : Sharers) : List Member := [s.newer.member, s.older.member]

def newerTurn (s : Sharers) : Sharers := { s with newer := s.newer.reconciled s.cluster }

def olderTurn (s : Sharers) : Sharers := { s with older := s.older.reconciled s.cluster }

theorem newerTurn_reconciled (s : Sharers) :
    Reconciled s.cluster (identity s.newer.member.xr) s.cluster s.newerTurn.cluster :=
  s.newer.reconciled_turn [] [s.older.member]

theorem olderTurn_reconciled (s : Sharers) :
    Reconciled s.cluster (identity s.older.member.xr) s.cluster s.olderTurn.cluster :=
  s.older.reconciled_turn [s.newer.member] []

/-- The sharers, just created. -/
def created : Sharers where
  newer := ⟨newerSharer, ∅, rfl, rfl⟩
  older := ⟨olderSharer, ∅, rfl, rfl⟩

/-- Each of the two has had two turns, the newer one first in one round and last in the
other. -/
def settled : Sharers := created.newerTurn.olderTurn.olderTurn.newerTurn

/-- The two rounds. -/
def rounds : List (List (String × String)) :=
  [[identity newerSharer.xr, identity olderSharer.xr],
    [identity olderSharer.xr, identity newerSharer.xr]]

theorem rounds_run : Turns rounds.flatten created.cluster settled.cluster :=
  Turns.cons created.newerTurn_reconciled
    (Turns.cons created.newerTurn.olderTurn_reconciled
      (Turns.cons created.newerTurn.olderTurn.olderTurn_reconciled
        (Turns.cons created.newerTurn.olderTurn.olderTurn.newerTurn_reconciled (Turns.nil _))))

theorem rounds_fair : FairRounds created.cluster rounds where
  fair := by
    intro turns hturns who
    have hmem : who ∈ turns ↔ who = identity newerSharer.xr ∨ who = identity olderSharer.xr := by
      -- the two rounds differ in their order only
      simp only [rounds, List.mem_cons, List.not_mem_nil, or_false] at hturns
      rcases hturns with rfl | rfl
      · simp
      · simp [or_comm]
    rw [hmem]
    constructor
    · rintro (rfl | rfl)
      · exact ⟨newerSharer, List.mem_cons_self, rfl, rfl⟩
      · exact ⟨olderSharer, List.mem_cons_of_mem newerSharer List.mem_cons_self, rfl, rfl⟩
    · rintro ⟨m, hm, rfl, -⟩
      rcases List.mem_pair.mp hm with rfl | rfl
      · exact Or.inl rfl
      · exact Or.inr rfl
  count := by decide

end Sharers

/-- After the two rounds the newer sharer waits for the Secret, which the older one holds. -/
theorem claims_settle_sharers :
    ∃ k, Sharers.settled.newer.member.requestedKey = some k ∧
      ∃ o ∈ Sharers.settled.cluster, identity o.xr ≠ identity Sharers.settled.newer.member.xr ∧
        terminating o.xr = false ∧ o.heldKey = some k := by
  obtain ⟨hsettled, -⟩ := claims_settle exclusive_sharers.recorded slashFree_sharers
    Sharers.rounds_fair Sharers.rounds_run
  have hnewer := List.mem_cons_self (a := Sharers.settled.newer.member)
    (l := [Sharers.settled.older.member])
  refine (hsettled _ hnewer Sharers.settled.newer.live).resolve_left fun hheld => ?_
  -- in no turn of the protocol does the newer one take the Secret
  have hrefines := Sharers.rounds_run.refines exclusive_sharers.recorded slashFree_sharers
  have hkeys := heldKeys_identity hrefines.recorded.distinct hnewer Sharers.settled.newer.live
  rw [hheld, hrefines.heldKeys_eq] at hkeys
  exact absurd hkeys (by decide)

/-- The older sharer alone. -/
def loneRequest : Request where
  composite := olderSharer.xr
  allControlPlanes := [olderSharer.xr]

/-- The older sharer, reconciled alone. -/
def loneSharer : Member := olderSharer.apply (reconcile "2026-03-01T00:00:00Z" loneRequest)

/-! ### Circles -/

/-- **A circular wait persists.** Live ControlPlanes that each request what another of them
holds keep what they hold in every run of reconciles. -/
theorem circular_wait_persists (hc : Recorded c) (hnames : SlashFree c)
    {circle : List Member} (hcircle : ∀ m ∈ circle, m ∈ c ∧ terminating m.xr = false)
    (hwait : ∀ m ∈ circle, ∃ k, m.requestedKey = some k ∧ ∃ o ∈ circle, o.heldKey = some k)
    (hrun : Turns turns c d) {m : Member} (hm : m ∈ circle) :
    ∃ m' ∈ d, identity m'.xr = identity m.xr ∧ m'.heldKey = m.heldKey := by
  have hd := hrun.refines hc hnames
  have hkept : heldKeys d (identity m.xr) = heldKeys c (identity m.xr) := by
    rw [hd.heldKeys_eq]
    -- the circle is closed under waiting, so no turn in it finds a free Secret
    have hmem : identity m.xr ∈ {who | ∃ o ∈ circle, identity o.xr = who} := ⟨m, hm, rfl⟩
    refine Setting.run_of_waiting ?_ hmem
    rintro _ ⟨o, ho, rfl⟩
    obtain ⟨k, hrequest, p, hp, hheld⟩ := hwait o ho
    obtain ⟨hoc, holive⟩ := hcircle o ho
    obtain ⟨hpc, hplive⟩ := hcircle p hp
    refine ⟨k, by rw [wants_identity hc.distinct hoc holive, hrequest], identity p.xr,
      ⟨p, hp, rfl⟩, mem_members_iff.mpr ⟨p, hpc, rfl, hplive⟩, ?_⟩
    rw [heldKeys_identity hc.distinct hpc hplive, hheld]
  obtain ⟨hmc, hlive⟩ := hcircle m hm
  obtain ⟨m', hm', hid, hlive'⟩ := hd.exists_member hmc hlive
  refine ⟨m', hm', hid, ?_⟩
  rw [heldKeys_identity hc.distinct hmc hlive, ← hid,
    heldKeys_identity hd.recorded.distinct hm' hlive'] at hkept
  exact hkept

/-- The license of the sharers. -/
def sharedLicense : License where
  secretRef := some { name := some "uxp-license-shared", ns := some "crossplane-system" }

/-- A newer ControlPlane that requests another Secret. -/
def otherMember : Member :=
  ⟨{ newerSharer.xr with parameters := { license := some otherLicense } }, none⟩

/-- Its first reconcile, beside the older sharer that holds the shared Secret. -/
def otherRequest : Request where
  composite := otherMember.xr
  allControlPlanes := [otherMember.xr, loneSharer.xr]

/-- The other ControlPlane, with its own Secret. -/
def otherHolder : Member := otherMember.apply (reconcile "2026-03-02T00:00:00Z" otherRequest)

/-- The older sharer once its spec requests the other Secret. -/
def swappedOlder : Member :=
  { loneSharer with xr := { loneSharer.xr with parameters := { license := some otherLicense } } }

/-- The newer ControlPlane once its spec requests the shared Secret. -/
def swappedNewer : Member :=
  { otherHolder with xr := { otherHolder.xr with parameters := { license := some sharedLicense } } }

theorem swapped_reachable : ReachableCluster [swappedNewer, swappedOlder] := by
  refine (((((Relation.ReflTransGen.refl.tail
    (ClusterStep.create [] olderSharer.xr (by simp) rfl)).tail
    (ClusterStep.change [] [] (MemberStep.reconcile olderSharer _ loneRequest rfl rfl
      (List.Perm.refl _) rfl))).tail
    (ClusterStep.create [loneSharer] otherMember.xr (by decide) rfl)).tail
    (ClusterStep.change [] [loneSharer] (MemberStep.reconcile otherMember
      "2026-03-02T00:00:00Z" otherRequest rfl rfl (List.Perm.refl _) rfl))).tail
    (ClusterStep.change [otherHolder] [] (MemberStep.edit loneSharer
      { license := some otherLicense }))).tail
    (ClusterStep.change [] [swappedOlder] (MemberStep.edit otherHolder
      { license := some sharedLicense }))

theorem secret?_swappedOlder : secret? swappedOlder.xr.statusLicense =
    some ("crossplane-system", "uxp-license-shared") := by
  have hstatus : swappedOlder.xr.statusLicense =
      statusLicense (reconcile "2026-03-01T00:00:00Z" loneRequest) := rfl
  rw [hstatus, secret?_status]
  decide

theorem secret?_swappedNewer : secret? swappedNewer.xr.statusLicense =
    some ("crossplane-system", "uxp-license-other") := by
  have hstatus : swappedNewer.xr.statusLicense =
      statusLicense (reconcile "2026-03-02T00:00:00Z" otherRequest) := rfl
  rw [hstatus, secret?_status]
  have hfree : otherRequest.licenseConflict = "" := by decide
  rw [licenseClaim_of_free (by decide) hfree]
  decide

/-- The next reconcile of the older ControlPlane. -/
def swappedRequest : Request where
  composite := swappedOlder.xr
  observed := Round.observedAfter ⟨"2026-03-01T00:00:00Z", loneRequest⟩
  allControlPlanes := [swappedNewer.xr, swappedOlder.xr]

theorem observed_swappedRequest :
    observedLicenseObject swappedRequest.observed = swappedOlder.licenseObject :=
  Round.observedLicenseObject_observedAfter ⟨"2026-03-01T00:00:00Z", loneRequest⟩

theorem swapped_reconciled : Reconciled [swappedNewer, swappedOlder]
    (identity swappedOlder.xr) [swappedNewer, swappedOlder]
    [swappedNewer, swappedOlder.apply (reconcile "2026-03-03T00:00:00Z" swappedRequest)] :=
  Reconciled.turn [swappedNewer] [] swappedOlder "2026-03-03T00:00:00Z" swappedRequest rfl rfl
    (List.Perm.refl _) observed_swappedRequest

theorem slashFree_swapped : SlashFree [swappedNewer, swappedOlder] := by
  have hnewer : secret? swappedNewer.xr.parameters.license =
    some ("crossplane-system", "uxp-license-shared") := by decide
  have holder : secret? swappedOlder.xr.parameters.license =
    some ("crossplane-system", "uxp-license-other") := by decide
  intro m hm s hs
  simp only [List.mem_cons, List.not_mem_nil, or_false] at hm
  rcases hm with rfl | rfl
  · rw [hnewer, secret?_swappedNewer] at hs
    rcases hs with hs | hs <;> cases hs <;> decide
  · rw [holder, secret?_swappedOlder] at hs
    rcases hs with hs | hs <;> cases hs <;> decide

/-- After the next reconcile the older ControlPlane still holds the Secret it has given up
in its spec. -/
theorem circular_wait_persists_swapped :
    ∃ m ∈ [swappedNewer, swappedOlder.apply (reconcile "2026-03-03T00:00:00Z" swappedRequest)],
      identity m.xr = identity swappedOlder.xr ∧
        m.heldKey = some "crossplane-system/uxp-license-shared" := by
  have hnewer : swappedNewer.heldKey = some "crossplane-system/uxp-license-other" := by
    rw [Member.heldKey, secret?_swappedNewer]
    decide
  have holder : swappedOlder.heldKey = some "crossplane-system/uxp-license-shared" := by
    rw [Member.heldKey, secret?_swappedOlder]
    decide
  have hcircle : ∀ m ∈ [swappedNewer, swappedOlder],
      m ∈ [swappedNewer, swappedOlder] ∧ terminating m.xr = false := by
    intro m hm
    refine ⟨hm, ?_⟩
    simp only [List.mem_cons, List.not_mem_nil, or_false] at hm
    rcases hm with rfl | rfl <;> rfl
  have hwait : ∀ m ∈ [swappedNewer, swappedOlder], ∃ k, m.requestedKey = some k ∧
      ∃ o ∈ [swappedNewer, swappedOlder], o.heldKey = some k := by
    intro m hm
    simp only [List.mem_cons, List.not_mem_nil, or_false] at hm
    rcases hm with rfl | rfl
    · exact ⟨_, by decide, swappedOlder, by simp, holder⟩
    · exact ⟨_, by decide, swappedNewer, by simp, hnewer⟩
  obtain ⟨m, hm, hid, hheld⟩ := circular_wait_persists swapped_reachable.exclusive.recorded
    slashFree_swapped hcircle hwait (Turns.cons swapped_reconciled (Turns.nil _))
    (List.mem_cons_of_mem swappedNewer List.mem_cons_self)
  exact ⟨m, hm, hid, hheld.trans holder⟩

end AzureCtp
