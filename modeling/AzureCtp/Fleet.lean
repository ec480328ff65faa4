import AzureCtp.Invariance.Peers
import AzureCtp.License.Handover
import AzureCtp.Stabilization

/-!
# The fleet converges

The ControlPlanes of a cluster see each other: one's claim answers another one's guard, and
one's zone adds to another one's geo tags. Between two edits the claims settle. From then on
what a ControlPlane sees of its peers does not change any more, whoever of them is reconciled
and however often, so its own run is a steady one and settles in turn.

## Main results

* `Alike.licenseConflict_eq`: where everybody holds the same Secrets the guard answers alike
* `FleetRun.steady`: in a settled cluster each ControlPlane has a steady run
* `fleet_converges`: the claims settle and then every response does
-/

set_option autoImplicit false

namespace AzureCtp

open Claims

variable {c d e e' : List Member} {turns : List (String × String)} {m m' o : Member} {k : String}

/-! ### Clusters alike but for what nobody reads -/

theorem metadata_eq_of_unrecorded {a b : ControlPlane} (h : a.unrecorded = b.unrecorded) :
    a.metadata = b.metadata := by
  have hmetadata := congrArg ControlPlane.metadata h
  exact hmetadata

theorem parameters_eq_of_unrecorded {a b : ControlPlane} (h : a.unrecorded = b.unrecorded) :
    a.parameters = b.parameters := by
  have hparameters := congrArg ControlPlane.parameters h
  exact hparameters

theorem identity_eq_of_unrecorded {a b : ControlPlane} (h : a.unrecorded = b.unrecorded) :
    identity a = identity b := by
  rw [identity, identity, metadata_eq_of_unrecorded h]

theorem terminating_eq_of_unrecorded {a b : ControlPlane} (h : a.unrecorded = b.unrecorded) :
    terminating a = terminating b := by
  rw [terminating, terminating, metadata_eq_of_unrecorded h]

theorem claimOrder_eq_of_unrecorded (hspec : m'.xr.unrecorded = m.xr.unrecorded)
    (hheld : m'.heldKey = m.heldKey) : claimOrder k m'.xr = claimOrder k m.xr := by
  have hholds : holds k m'.xr = holds k m.xr := by
    rw [Bool.eq_iff_iff, ← heldKey_eq_some_iff, ← heldKey_eq_some_iff, hheld]
  rw [claimOrder_eq, claimOrder_eq, hholds, age, age, identity_eq_of_unrecorded hspec,
    metadata_eq_of_unrecorded hspec]

/-- Clusters of the same ControlPlanes, in which everybody holds the same Secret. -/
structure Alike (e e' : List Member) : Prop where
  distinct : (e.map fun m => identity m.xr).Nodup
  distinct' : (e'.map fun m => identity m.xr).Nodup
  specs : (e.map fun m => m.xr.unrecorded) = e'.map fun m => m.xr.unrecorded
  held : heldKeys e = heldKeys e'

namespace Alike

theorem symm (h : Alike e e') : Alike e' e :=
  ⟨h.distinct', h.distinct, h.specs.symm, h.held.symm⟩

variable (h : Alike e e')

include h

/-- Live members of one identity are the same but for how their claim is written. -/
theorem heldKey_eq (hm : m ∈ e) (hm' : m' ∈ e') (hid : identity m'.xr = identity m.xr)
    (hlive : terminating m.xr = false) (hlive' : terminating m'.xr = false) :
    m'.heldKey = m.heldKey := by
  rw [← heldKeys_identity h.distinct' hm' hlive', ← heldKeys_identity h.distinct hm hlive, h.held,
    hid]

theorem exists_unrecorded_eq (hm : m ∈ e) : ∃ m' ∈ e', m'.xr.unrecorded = m.xr.unrecorded := by
  have hmem : m.xr.unrecorded ∈ e'.map fun m => m.xr.unrecorded := by
    rw [← h.specs]
    exact List.mem_map_of_mem hm
  exact List.mem_map.mp hmem

theorem unrecorded_eq (hm : m ∈ e) (hm' : m' ∈ e') (hid : identity m'.xr = identity m.xr) :
    m'.xr.unrecorded = m.xr.unrecorded := by
  obtain ⟨o, ho, hspec⟩ := h.exists_unrecorded_eq hm
  have heq : o = m' := List.inj_on_of_nodup_map h.distinct' ho hm'
    ((identity_eq_of_unrecorded hspec).trans hid.symm)
  rw [← heq, hspec]

end Alike

/-! ### What a ControlPlane sees of its peers -/

section Reads

variable {a b : Request}

theorem UpToDate.isEmpty_eq (ha : UpToDate e m a) : a.allControlPlanes.isEmpty = false := by
  have hmem := ha.peers.mem_iff.mpr (List.mem_map_of_mem ha.mem)
  exact List.isEmpty_eq_false_iff.mpr (List.ne_nil_of_mem hmem)

/-- The guard's answer depends on the seniority of those ahead only. -/
theorem checkLicenseConflict_eq_of_keys {xr xr' : ControlPlane} {lic : Option License}
    {cps cps' : List ControlPlane} (hempty : cps.isEmpty = cps'.isEmpty)
    (hkeys : ∀ k order, order ∈ (aheadOf k xr cps).map (claimOrder k) ↔
      order ∈ (aheadOf k xr' cps').map (claimOrder k)) :
    checkLicenseConflict xr lic cps = checkLicenseConflict xr' lic cps' := by
  unfold checkLicenseConflict
  rw [hempty]
  split_ifs with hskip
  · rfl
  · have hleast := Election.argmin_map_key_eq_of_keys (hkeys (secretKey (lic.getD {})))
    generalize secretKey (lic.getD {}) = key at hleast ⊢
    dsimp only
    cases howner : (aheadOf key xr cps).argmin (claimOrder key) with
    | none =>
      rw [howner, Option.map_none, eq_comm, Option.map_eq_none_iff] at hleast
      rw [hleast]
    | some owner =>
      rw [howner, Option.map_some, eq_comm, Option.map_eq_some_iff] at hleast
      obtain ⟨owner', howner', horder⟩ := hleast
      rw [howner']
      dsimp only
      rw [joinIdentity, joinIdentity, identity_eq_of_claimOrder_eq horder]

/-- The geo tags do not depend on what the peers hold. -/
theorem deriveK8gbExtGeoTags_unrecorded (idVal dnsZone myTag : String) (cps : List ControlPlane) :
    deriveK8gbExtGeoTags idVal dnsZone myTag (cps.map ControlPlane.unrecorded) =
      deriveK8gbExtGeoTags idVal dnsZone myTag cps := by
  rw [deriveK8gbExtGeoTags, deriveK8gbExtGeoTags, List.filterMap_map]
  rfl

namespace Alike

variable (h : Alike e e') (ha : UpToDate e m a) (hb : UpToDate e' m' b)
  (hid : identity m'.xr = identity m.xr)

include h ha hb hid

theorem mem_ahead_of_mem {order : ClaimKey}
    (hmem : order ∈ (aheadOf k m.xr a.allControlPlanes).map (claimOrder k)) :
    order ∈ (aheadOf k m'.xr b.allControlPlanes).map (claimOrder k) := by
  obtain ⟨ctp, hahead, rfl⟩ := List.mem_map.mp hmem
  obtain ⟨o, ho, rfl, hother, holive, hclaims, hlt⟩ := (mem_aheadOf_iff ha.peers).mp hahead
  obtain ⟨o', ho', hspec⟩ := h.exists_unrecorded_eq ho
  have hoid := identity_eq_of_unrecorded hspec
  have holive' := (terminating_eq_of_unrecorded hspec).trans holive
  have hheld := h.heldKey_eq ho ho' hoid holive holive'
  have horder : claimOrder k o'.xr = claimOrder k o.xr := claimOrder_eq_of_unrecorded hspec hheld
  have hself : claimOrder k m'.xr = claimOrder k m.xr :=
    claimOrder_eq_of_unrecorded (h.unrecorded_eq ha.mem hb.mem hid)
      (h.heldKey_eq ha.mem hb.mem hid ha.live hb.live)
  have hrequested : o'.requestedKey = o.requestedKey := by
    rw [Member.requestedKey, Member.requestedKey, parameters_eq_of_unrecorded hspec]
  refine List.mem_map.mpr ⟨o'.xr, (mem_aheadOf_iff hb.peers).mpr ?_, horder⟩
  exact ⟨o', ho', rfl, by rwa [hoid, hid], holive', by rwa [hrequested, hheld],
    by rwa [horder, hself]⟩

theorem licenseConflict_eq : a.licenseConflict = b.licenseConflict := by
  have hparameters := parameters_eq_of_unrecorded (h.unrecorded_eq ha.mem hb.mem hid)
  rw [Request.licenseConflict, Request.licenseConflict, Request.licenseParam,
    Request.licenseParam, Request.params, Request.params, ha.composite, hb.composite, hparameters]
  refine checkLicenseConflict_eq_of_keys (ha.isEmpty_eq.trans hb.isEmpty_eq.symm) ?_
  intro k order
  exact ⟨h.mem_ahead_of_mem ha hb hid, h.symm.mem_ahead_of_mem hb ha hid.symm⟩

theorem k8gbExtGeoTags_eq : a.k8gbExtGeoTags = b.k8gbExtGeoTags := by
  have hparameters := parameters_eq_of_unrecorded (h.unrecorded_eq ha.mem hb.mem hid)
  refine k8gbExtGeoTags_congr ?_ fun idVal dnsZone myTag => ?_
  · rw [Request.params, Request.params, ha.composite, hb.composite, hparameters]
  · rw [deriveK8gbExtGeoTags_congr (fun _ => ha.peers.mem_iff),
      deriveK8gbExtGeoTags_congr (fun _ => hb.peers.mem_iff), ← deriveK8gbExtGeoTags_unrecorded,
      ← deriveK8gbExtGeoTags_unrecorded idVal dnsZone myTag (e'.map Member.xr), List.map_map,
      List.map_map]
    exact congrArg _ h.specs

end Alike

end Reads

/-! ### Convergence -/

variable {view : List Member} {who : String × String}

theorem Turns.append {more : List (String × String)} (hrun : Turns turns c d)
    (hmore : Turns more d e) : Turns (turns ++ more) c e := by
  induction hrun with
  | nil => exact hmore
  | cons hstep _ ih => exact Turns.cons hstep (ih hmore)

theorem Reconciled.unrecorded_eq (hstep : Reconciled view who c d) :
    (d.map fun m => m.xr.unrecorded) = c.map fun m => m.xr.unrecorded := by
  cases hstep with
  | turn before after m now req =>
    rw [List.map_append, List.map_append, List.map_cons, List.map_cons]
    rfl

theorem Turns.unrecorded_eq (hrun : Turns turns c d) :
    (d.map fun m => m.xr.unrecorded) = c.map fun m => m.xr.unrecorded := by
  induction hrun with
  | nil => rfl
  | cons hstep _ ih => rw [ih, hstep.unrecorded_eq]

/-- Reconciles lead from a settled cluster to clusters like it only. -/
theorem Turns.alike (hd : Recorded d) (hnames : SlashFree d)
    (hquiet : (setting d).Quiescent (heldKeys d)) (hrun : Turns turns d e) : Alike d e where
  distinct := hd.distinct
  distinct' := (hrun.refines hd hnames).recorded.distinct
  specs := hrun.unrecorded_eq.symm
  held := ((hrun.refines hd hnames).heldKeys_eq_of_quiescent hquiet).symm

/-- The reconciles of one ControlPlane of a cluster in which only reconciles happen. Between
two of them the others are reconciled in any order. What one composes, and nothing else, is
observed by the next, with the status its name has. -/
structure FleetRun (d : List Member) (who : String × String) (status : String → ResourceStatus)
    (now : ℕ → String) (req : ℕ → Request) : Prop where
  served : ∀ k, ∃ turns e m, Turns turns d e ∧ UpToDate e m (req k) ∧ identity m.xr = who
  next : ∀ k n, (req (k + 1)).observed.lookup n =
    ((reconcile (now k) (req k)).resources.lookup n).map fun r => r.observedWith (status n)

section Run

variable {status : String → ResourceStatus} {now : ℕ → String} {req : ℕ → Request}

/-- In a settled cluster each ControlPlane has a steady run. -/
theorem FleetRun.steady (hd : Recorded d) (hnames : SlashFree d)
    (hquiet : (setting d).Quiescent (heldKeys d)) (hfleet : FleetRun d who status now req) :
    Steady (req 0).composite (req 0).licenseConflict (req 0).k8gbExtGeoTags status now req := by
  obtain ⟨_, e, m, hrun, hserved, hid⟩ := hfleet.served 0
  have halike := hrun.alike hd hnames hquiet
  -- every later cluster is like the first, through the settled one
  have hlater : ∀ j, ∃ e' m', Alike e e' ∧ UpToDate e' m' (req j) ∧ identity m'.xr = who := by
    intro j
    obtain ⟨_, e', m', hrun', hserved', hid'⟩ := hfleet.served j
    have halike' := hrun'.alike hd hnames hquiet
    exact ⟨e', m', ⟨halike.distinct', halike'.distinct', halike.specs.symm.trans halike'.specs,
      halike.held.symm.trans halike'.held⟩, hserved', hid'⟩
  refine ⟨fun j => ?_, fun j => ?_, fun j => ?_, hfleet.next⟩
  · obtain ⟨e', m', hsame, hserved', hid'⟩ := hlater j
    rw [hserved.composite, hserved'.composite]
    exact hsame.unrecorded_eq hserved.mem hserved'.mem (hid'.trans hid.symm)
  · obtain ⟨e', m', hsame, hserved', hid'⟩ := hlater j
    exact (hsame.licenseConflict_eq hserved hserved' (hid'.trans hid.symm)).symm
  · obtain ⟨e', m', hsame, hserved', hid'⟩ := hlater j
    exact (hsame.k8gbExtGeoTags_eq hserved hserved' (hid'.trans hid.symm)).symm

/-- **The fleet converges.** Once each live ControlPlane has had as many turns as there are
live ones, from whatever they hold at first, the reconciles of any ControlPlane, interleaved with
those of the others in any way, give one response from the fifth on, up to stamps. -/
theorem fleet_converges (hc : Recorded c) (hnames : SlashFree c)
    {rounds : List (List (String × String))} (hrounds : FairRounds c rounds)
    (hrun : Turns rounds.flatten c d) (hfleet : FleetRun d who status now req) {j k : ℕ}
    (hj : 4 ≤ j) (hk : 4 ≤ k) :
    SameUpToStamps (reconcile (now j) (req j)) (reconcile (now k) (req k)) := by
  have hd := hrun.refines hc hnames
  have hsteady := hfleet.steady hd.recorded hd.slashFree (hrounds.quiescent hd)
  exact (hsteady.sameUpToStamps_fifth hj).trans (hsteady.sameUpToStamps_fifth hk).symm

end Run

/-! ### Two sharers -/

namespace Sharers

/-- The sharers after a number of further rounds, in each of which the older one is reconciled
after the newer one. -/
def later : ℕ → Sharers
  | 0 => settled
  | k + 1 => (later k).newerTurn.olderTurn

/-- The reconciles of the newer sharer, which waits for the Secret. -/
def newerRequest (k : ℕ) : Request := (later k).newer.request (later k).cluster

/-- Reconciles leave the identity alone. -/
theorem later_newer (k : ℕ) : identity (later k).newer.member.xr = identity newerSharer.xr := by
  induction k with
  | zero => rfl
  | succ k ih => exact ih

theorem later_run (k : ℕ) : ∃ turns, Turns turns settled.cluster (later k).cluster := by
  induction k with
  | zero => exact ⟨[], Turns.nil _⟩
  | succ k ih =>
    obtain ⟨turns, hrun⟩ := ih
    exact ⟨_, hrun.append (Turns.cons (later k).newerTurn_reconciled
      (Turns.cons (later k).newerTurn.olderTurn_reconciled (Turns.nil _)))⟩

theorem newer_fleetRun : FleetRun settled.cluster (identity newerSharer.xr)
    (fun _ => idealStatus) (fun _ => "2026-03-01T00:00:00Z") newerRequest where
  served k := by
    obtain ⟨turns, hrun⟩ := later_run k
    exact ⟨turns, (later k).cluster, (later k).newer.member, hrun,
      Observer.upToDate_request List.mem_cons_self, later_newer k⟩
  next _ n := lookup_observeIdeal _ n

end Sharers

/-- The fifth and the eighth response of the newer sharer are the same, with a reconcile of the
older one after each of its own. -/
theorem fleet_converges_sharers :
    SameUpToStamps (reconcile "2026-03-01T00:00:00Z" (Sharers.newerRequest 4))
      (reconcile "2026-03-01T00:00:00Z" (Sharers.newerRequest 7)) :=
  fleet_converges exclusive_sharers.recorded slashFree_sharers Sharers.rounds_fair
    Sharers.rounds_run Sharers.newer_fleetRun (by decide) (by decide)

end AzureCtp
