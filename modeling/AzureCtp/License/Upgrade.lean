import AzureCtp.License.Shared

/-!
# Upgrading a cluster that shares licenses

Releases without the guard installed whatever a ControlPlane requested and recorded no
claim, so the first reconciles after an upgrade see Secrets with several sharers and no
holder. Whatever they are served, and in whatever order they come, each ControlPlane keeps
the license it has installed and records it. Once all have, the claims are compared by age
alone, and of the sharers of a Secret the oldest reports no conflict and all others report
the oldest.

## Main results

* `Upgrading.step`: a reconcile with any view keeps what is installed, and records it
* `upgrade_keeps_licenses`: what a whole upgrade keeps, and what it reports
-/

set_option autoImplicit false

namespace AzureCtp

variable {c d : List Member} {view : List Member} {who : String × String} {m : Member}
  {k : String} {req : Request} {done : Set (String × String)} {turns : List (String × String)}

/-- A cluster from a release without the guard: every live ControlPlane has installed what it
requests. What its status says does not matter. -/
structure Unguarded (c : List Member) : Prop where
  distinct : (c.map fun m => identity m.xr).Nodup
  installed : ∀ m ∈ c, terminating m.xr = false →
    secret? m.installed = secret? m.xr.parameters.license

/-- A run of reconciles, each served any list of ControlPlanes. -/
inductive BlindTurns : List (String × String) → List Member → List Member → Prop
  | nil (c : List Member) : BlindTurns [] c c
  | cons {who : String × String} {turns : List (String × String)} {view c d e : List Member}
      (hstep : Reconciled view who c d) (hrest : BlindTurns turns d e) :
      BlindTurns (who :: turns) c e

/-- A cluster on its way: the ControlPlanes that are done record what they have installed. -/
structure Upgrading (done : Set (String × String)) (c : List Member) : Prop
    extends Unguarded c where
  recorded : ∀ m ∈ c, terminating m.xr = false → identity m.xr ∈ done →
    secret? m.xr.statusLicense = secret? m.xr.parameters.license

/-! ### What a reconcile keeps -/

/-- Who has installed what it requests claims that, with a conflict or without. -/
theorem secret?_licenseClaim_of_installed
    (hinstalled : secret? m.installed = secret? m.xr.parameters.license)
    (hcomposite : req.composite = m.xr)
    (hobserved : observedLicenseObject req.observed = m.licenseObject) :
    secret? req.licenseClaim = secret? m.xr.parameters.license := by
  have hparam : req.licenseParam = m.xr.parameters.license := by
    rw [Request.licenseParam, Request.params, hcomposite]
  by_cases htruthy : License.truthy req.licenseParam = true
  · by_cases hconflict : req.licenseConflict = ""
    · rw [licenseClaim_of_free htruthy hconflict, hparam]
    · -- a conflict falls back to what is installed, and that is what it requests
      rw [licenseClaim_eq_installed htruthy hconflict, getInstalledLicense_of_observed hobserved,
        hinstalled]
  · rw [licenseClaim_of_not_truthy htruthy]
    cases hrequest : secret? m.xr.parameters.license with
    | none => rfl
    | some s =>
      rw [hparam] at htruthy
      exact absurd (truthy_of_secret? hrequest) htruthy

/-- A reconcile with any view keeps what is installed, and records it. -/
theorem Upgrading.step (h : Upgrading done c) (hstep : Reconciled view who c d) :
    Upgrading (insert who done) d where
  distinct := hstep.distinct h.distinct
  installed := by
    intro o ho hlive
    rcases hstep.mem_cases h.distinct ho with
      ⟨ho, -⟩ | ⟨m, hm, now, req, -, hmlive, hcomposite, hobserved, rfl⟩
    · exact h.installed o ho hlive
    · -- the claim is what gets installed
      rw [← m.apply_synced now req, Member.apply_statusLicense, secret?_status,
        Member.apply_parameters]
      exact secret?_licenseClaim_of_installed (h.installed m hm hmlive) hcomposite hobserved
  recorded := by
    intro o ho hlive hdone
    rcases hstep.mem_cases h.distinct ho with
      ⟨ho, hne⟩ | ⟨m, hm, now, req, -, hmlive, hcomposite, hobserved, rfl⟩
    · exact h.recorded o ho hlive (hdone.resolve_left hne)
    · rw [Member.apply_statusLicense, secret?_status, Member.apply_parameters]
      exact secret?_licenseClaim_of_installed (h.installed m hm hmlive) hcomposite hobserved

theorem Upgrading.run (h : Upgrading done c) (hrun : BlindTurns turns c d) :
    Upgrading (done ∪ {who | who ∈ turns}) d := by
  induction hrun generalizing done with
  | nil c =>
    refine ⟨h.toUnguarded, fun m hm hlive hdone => h.recorded m hm hlive ?_⟩
    exact hdone.resolve_right (List.not_mem_nil)
  | @cons who turns view c d e hstep _ ih =>
    have hrest := ih (h.step hstep)
    refine ⟨hrest.toUnguarded, fun m hm hlive hdone => hrest.recorded m hm hlive ?_⟩
    rcases hdone with hdone | hturn
    · exact Or.inl (Or.inr hdone)
    rcases List.mem_cons.mp hturn with hwho | hturn
    · exact Or.inl (Or.inl hwho)
    · exact Or.inr hturn

/-! ### What is reported afterwards -/

/-- The oldest of the live ControlPlanes that request the Secret. -/
structure Oldest (c : List Member) (k : String) (m : Member) : Prop where
  mem : m ∈ c
  live : terminating m.xr = false
  requests : m.requestedKey = some k
  first : ∀ o ∈ c, terminating o.xr = false → o.requestedKey = some k → age m.xr ≤ age o.xr

/-- Where all hold what they request, the claims are compared by age. -/
theorem leads_iff_oldest
    (hall : ∀ o ∈ c, terminating o.xr = false → o.heldKey = o.requestedKey) :
    Leads c k m ↔ Oldest c k m := by
  -- every claimant holds the Secret, so holders first says nothing here
  have hrequests : ∀ o, Claimant c k o → o.requestedKey = some k ∧ holds k o.xr = true := by
    intro o ho
    have hheld := hall o ho.mem ho.live
    have hrequest : o.requestedKey = some k := ho.claims.elim id fun h => hheld ▸ h
    exact ⟨hrequest, heldKey_eq_some_iff.mp (hheld.trans hrequest)⟩
  have hle : ∀ {a b}, Claimant c k a → Claimant c k b →
      (claimOrder k a.xr ≤ claimOrder k b.xr ↔ age a.xr ≤ age b.xr) := by
    intro a b ha hb
    rw [← not_lt, ← not_lt, claimOrder_lt_iff_of_holds_eq
      ((hrequests b hb).2.trans (hrequests a ha).2.symm)]
  constructor
  · intro hm
    refine ⟨hm.mem, hm.live, (hrequests m hm.toClaimant).1, fun o ho hlive hrequest => ?_⟩
    have hclaimant : Claimant c k o := ⟨ho, hlive, Or.inl hrequest⟩
    exact (hle hm.toClaimant hclaimant).mp (hm.first o hclaimant)
  · intro hm
    have hclaimant : Claimant c k m := ⟨hm.mem, hm.live, Or.inl hm.requests⟩
    refine ⟨hclaimant, fun o ho => (hle hclaimant ho).mpr ?_⟩
    exact hm.first o ho.mem ho.live (hrequests o ho).1

/-- **An upgrade keeps the licenses.** From a cluster without the guard, whatever its first
reconciles are served, every live ControlPlane keeps what it has installed; and once each
has been reconciled, of those that share a Secret the oldest reports no conflict, and every
other one reports the oldest. -/
theorem upgrade_keeps_licenses (hc : Unguarded c) (hrun : BlindTurns turns c d) :
    (∀ m ∈ d, terminating m.xr = false →
      secret? m.installed = secret? m.xr.parameters.license) ∧
    ((∀ m ∈ d, terminating m.xr = false → identity m.xr ∈ turns) →
      Recorded d ∧ ∀ m req k, UpToDate d m req → m.requestedKey = some k →
        (req.licenseConflict = "" ↔ Oldest d k m) ∧
        (¬ Oldest d k m → ∃ o, Oldest d k o ∧ req.licenseConflict = joinIdentity o.xr)) := by
  have hstart : Upgrading ∅ c := ⟨hc, fun _ _ _ hdone => hdone.elim⟩
  have hd := hstart.run hrun
  refine ⟨hd.installed, fun hturns => ?_⟩
  have hrecorded : ∀ m ∈ d, terminating m.xr = false →
      secret? m.xr.statusLicense = secret? m.xr.parameters.license :=
    fun m hm hlive => hd.recorded m hm hlive (Or.inr (hturns m hm hlive))
  have hall : ∀ o ∈ d, terminating o.xr = false → o.heldKey = o.requestedKey := by
    intro o ho hlive
    rw [Member.heldKey, hrecorded o ho hlive, Member.requestedKey]
  refine ⟨⟨hd.distinct, fun m hm hlive => ?_⟩, fun m req k hserved hrequest => ?_⟩
  · rw [hrecorded m hm hlive, hd.installed m hm hlive]
  · have hfree := hserved.licenseConflict_eq_empty_iff hd.distinct hrequest
    rw [leads_iff_oldest hall] at hfree
    refine ⟨hfree, fun hnot => ?_⟩
    obtain ⟨o, ho, -, hreport⟩ := hserved.exists_leader hd.distinct hrequest (mt hfree.mp hnot)
    exact ⟨o, (leads_iff_oldest hall).mp ho, hreport⟩

/-- The newer sharer, its license installed by a release that records no claim. -/
def unguardedNewer : Member := { racedNewer with xr := newerSharer.xr }

/-- The older sharer in the same state. -/
def unguardedOlder : Member := { loneSharer with xr := olderSharer.xr }

/-- The first reconcile of the newer sharer after the upgrade. -/
def upgradeNewer : Request where
  composite := unguardedNewer.xr
  observed := Round.observedAfter ⟨"2026-03-01T00:00:00Z", racedRequest⟩
  allControlPlanes := [unguardedNewer.xr, unguardedOlder.xr]

/-- The newer sharer after it. -/
def upgradedNewer : Member := unguardedNewer.apply (reconcile "2026-03-02T00:00:00Z" upgradeNewer)

/-- The first reconcile of the older sharer, to which the newer one is a holder by now. -/
def upgradeOlder : Request where
  composite := unguardedOlder.xr
  observed := Round.observedAfter ⟨"2026-03-01T00:00:00Z", loneRequest⟩
  allControlPlanes := [upgradedNewer.xr, unguardedOlder.xr]

/-- The older sharer after it. -/
def upgradedOlder : Member := unguardedOlder.apply (reconcile "2026-03-02T00:00:00Z" upgradeOlder)

theorem upgrade_run : BlindTurns [identity newerSharer.xr, identity olderSharer.xr]
    [unguardedNewer, unguardedOlder] [upgradedNewer, upgradedOlder] := by
  have hnewer : Reconciled [unguardedNewer, unguardedOlder] (identity newerSharer.xr)
      [unguardedNewer, unguardedOlder] [upgradedNewer, unguardedOlder] :=
    Reconciled.turn [] [unguardedOlder] unguardedNewer _ upgradeNewer rfl rfl (List.Perm.refl _)
      (Round.observedLicenseObject_observedAfter ⟨"2026-03-01T00:00:00Z", racedRequest⟩)
  have holder : Reconciled [upgradedNewer, unguardedOlder] (identity olderSharer.xr)
      [upgradedNewer, unguardedOlder] [upgradedNewer, upgradedOlder] :=
    Reconciled.turn [upgradedNewer] [] unguardedOlder _ upgradeOlder rfl rfl (List.Perm.refl _)
      (Round.observedLicenseObject_observedAfter ⟨"2026-03-01T00:00:00Z", loneRequest⟩)
  exact BlindTurns.cons hnewer (BlindTurns.cons holder (BlindTurns.nil _))

theorem unguarded_sharers : Unguarded [unguardedNewer, unguardedOlder] where
  distinct := by decide
  installed := by
    have hnewer : secret? racedNewer.installed = secret? racedNewer.xr.statusLicense :=
      (newerSharer.apply_synced _ racedRequest).symm
    have holder : secret? loneSharer.installed = secret? loneSharer.xr.statusLicense :=
      (olderSharer.apply_synced _ loneRequest).symm
    rw [secret?_racedNewer] at hnewer
    rw [secret?_loneSharer] at holder
    intro m hm _
    simp only [List.mem_cons, List.not_mem_nil, or_false] at hm
    rcases hm with rfl | rfl
    · exact hnewer.trans (by decide)
    · exact holder.trans (by decide)

/-- After the upgrade the newer sharer reports a conflict and the older one does not, though
it saw a holder at first. -/
theorem upgrade_keeps_licenses_sharers :
    (upgradedNewer.request [upgradedNewer, upgradedOlder]).licenseConflict ≠ "" ∧
      (upgradedOlder.request [upgradedNewer, upgradedOlder]).licenseConflict = "" := by
  have hrequest : ∀ m ∈ [upgradedNewer, upgradedOlder], terminating m.xr = false ∧
      m.requestedKey = some sharedSecret.key ∧ age upgradedOlder.xr ≤ age m.xr := by
    intro m hm
    simp only [List.mem_cons, List.not_mem_nil, or_false] at hm
    rcases hm with rfl | rfl
    · exact ⟨rfl, by decide, by decide⟩
    · exact ⟨rfl, by decide, le_rfl⟩
  have hturns : ∀ m ∈ [upgradedNewer, upgradedOlder], terminating m.xr = false →
      identity m.xr ∈ [identity newerSharer.xr, identity olderSharer.xr] := by
    intro m hm _
    simp only [List.mem_cons, List.not_mem_nil, or_false] at hm
    rcases hm with rfl | rfl
    · exact List.mem_cons_self
    · exact List.mem_cons_of_mem _ List.mem_cons_self
  have hnewer : upgradedNewer ∈ [upgradedNewer, upgradedOlder] := List.mem_cons_self
  have holder : upgradedOlder ∈ [upgradedNewer, upgradedOlder] :=
    List.mem_cons_of_mem _ List.mem_cons_self
  obtain ⟨-, hreports⟩ := (upgrade_keeps_licenses unguarded_sharers upgrade_run).2 hturns
  obtain ⟨hlivenewer, hrequestnewer, -⟩ := hrequest _ hnewer
  obtain ⟨hliveolder, hrequestolder, -⟩ := hrequest _ holder
  constructor
  · intro hfree
    have holdest := (hreports _ _ _ (upToDate_request hnewer hlivenewer) hrequestnewer).1.mp hfree
    exact absurd (holdest.first _ holder hliveolder hrequestolder) (by decide)
  · refine (hreports _ _ _ (upToDate_request holder hliveolder) hrequestolder).1.mpr
      ⟨holder, hliveolder, hrequestolder, fun m hm _ _ => (hrequest m hm).2.2⟩

end AzureCtp
