import AzureCtp.License.Handover

/-!
# Secrets with several holders

A race between two edits, or an upgrade from a release without the guard, can leave a Secret
with several holders. From any such cluster on, the guard makes nobody share a Secret that
did not share it before, and takes nothing away. Who leads the claims to a Secret, a holder
before a requester and the older before the younger, reports no conflict, everybody else
reports the leader. Once each ControlPlane requests a Secret of its own, all conflicts clear.

## Main results

* `UpToDate.licenseConflict_eq_empty_iff`: who reports no conflict
* `sharing_not_created`: who shares a Secret has shared it from the start
* `own_secrets_clear`: Secrets of their own clear the conflicts
-/

set_option autoImplicit false

namespace AzureCtp

open Claims

variable {c d : List Member} {m o : Member} {k : String} {req : Request}
  {turns : List (String × String)}

/-! ### Who leads the claims -/

/-- A live member that requests or holds the Secret. -/
structure Claimant (c : List Member) (k : String) (m : Member) : Prop where
  mem : m ∈ c
  live : terminating m.xr = false
  claims : m.requestedKey = some k ∨ m.heldKey = some k

/-- The first of those who request or hold the Secret. -/
structure Leads (c : List Member) (k : String) (m : Member) : Prop extends Claimant c k m where
  first : ∀ o, Claimant c k o → claimOrder k m.xr ≤ claimOrder k o.xr

/-- The leader is known by its identity. -/
theorem Leads.unique (hm : Leads c k m) (ho : Leads c k o) : identity m.xr = identity o.xr :=
  identity_eq_of_claimOrder_eq (le_antisymm (hm.first o ho.toClaimant) (ho.first m hm.toClaimant))

/-- A holder is led by holders only. -/
theorem Leads.holds (hm : Leads c k m) (ho : Claimant c k o) (hheld : o.heldKey = some k) :
    m.heldKey = some k := by
  rw [heldKey_eq_some_iff] at hheld ⊢
  by_contra hnot
  rw [Bool.not_eq_true] at hnot
  exact absurd (hm.first o ho) (not_le.mpr (claimOrder_lt_of_holds hheld hnot))

namespace UpToDate

variable (hserved : UpToDate c m req)

include hserved

/-- Who is ahead of a member in the list it is served. -/
theorem mem_aheadOf_iff {ctp : ControlPlane} : ctp ∈ aheadOf k m.xr req.allControlPlanes ↔
    ∃ o, o.xr = ctp ∧ identity o.xr ≠ identity m.xr ∧ Claimant c k o ∧
      claimOrder k o.xr < claimOrder k m.xr := by
  rw [AzureCtp.mem_aheadOf_iff hserved.peers]
  constructor
  · rintro ⟨o, ho, hctp, hother, hlive, hclaims, hlt⟩
    exact ⟨o, hctp, hother, ⟨ho, hlive, hclaims⟩, hlt⟩
  · rintro ⟨o, hctp, hother, ⟨ho, hlive, hclaims⟩, hlt⟩
    exact ⟨o, ho, hctp, hother, hlive, hclaims, hlt⟩

theorem licenseConflict_eq : req.licenseConflict =
    checkLicenseConflict m.xr m.xr.parameters.license req.allControlPlanes := by
  rw [Request.licenseConflict, Request.licenseParam, Request.params, hserved.composite]

/-- Who requests nothing reports no conflict. -/
theorem licenseConflict_of_requestedKey_eq_none (hnames : SlashFree c)
    (hrequest : m.requestedKey = none) : req.licenseConflict = "" := by
  by_cases htruthy : License.truthy m.xr.parameters.license = true
  · exact licenseConflict_eq_empty_of_nameless hserved.composite hserved.peers hnames htruthy
      hrequest
  · rw [hserved.licenseConflict_eq, checkLicenseConflict, if_pos (by simp [htruthy])]

variable (hdistinct : (c.map fun m => identity m.xr).Nodup) (hrequest : m.requestedKey = some k)

include hdistinct

/-- Who goes before a member is another one. -/
theorem identity_ne (ho : Claimant c k o) (hlt : claimOrder k o.xr < claimOrder k m.xr) :
    identity o.xr ≠ identity m.xr := by
  intro hid
  have heq := List.inj_on_of_nodup_map hdistinct ho.mem hserved.mem hid
  rw [heq] at hlt
  exact lt_irrefl _ hlt

include hrequest

/-- The leader reports no conflict, and nobody else. -/
theorem licenseConflict_eq_empty_iff : req.licenseConflict = "" ↔ Leads c k m := by
  rw [hserved.licenseConflict_eq,
    checkLicenseConflict_eq_empty_iff (truthy_of_requestedKey hrequest),
    secretKey_of_requestedKey hrequest, List.eq_nil_iff_forall_not_mem]
  constructor
  · intro hnobody
    refine ⟨⟨hserved.mem, hserved.live, Or.inl hrequest⟩, fun o ho => ?_⟩
    by_contra hlt
    rw [not_le] at hlt
    exact hnobody o.xr (hserved.mem_aheadOf_iff.mpr
      ⟨o, rfl, hserved.identity_ne hdistinct ho hlt, ho, hlt⟩)
  · intro hleads ctp hahead
    obtain ⟨o, -, -, ho, hlt⟩ := hserved.mem_aheadOf_iff.mp hahead
    exact absurd (hleads.first o ho) (not_le.mpr hlt)

/-- A conflict names the leader. -/
theorem exists_leader (hconflict : req.licenseConflict ≠ "") :
    ∃ o, Leads c k o ∧ identity o.xr ≠ identity m.xr ∧
      req.licenseConflict = joinIdentity o.xr := by
  rw [hserved.licenseConflict_eq, checkLicenseConflict] at hconflict ⊢
  split_ifs at hconflict ⊢ with hskip
  · exact absurd rfl hconflict
  · rw [secretKey_of_requestedKey hrequest] at hconflict ⊢
    dsimp only at hconflict ⊢
    cases hmin : (aheadOf k m.xr req.allControlPlanes).argmin (claimOrder k) with
    | none =>
      rw [hmin] at hconflict
      exact absurd rfl hconflict
    | some owner =>
      obtain ⟨o, rfl, hother, ho, hlt⟩ := hserved.mem_aheadOf_iff.mp (List.argmin_mem hmin)
      refine ⟨o, ⟨ho, fun p hp => ?_⟩, hother, rfl⟩
      by_contra hbefore
      rw [not_le] at hbefore
      -- who goes before the owner goes before the member too
      have hplt := hbefore.trans hlt
      have hahead : p.xr ∈ aheadOf k m.xr req.allControlPlanes :=
        hserved.mem_aheadOf_iff.mpr ⟨p, rfl, hserved.identity_ne hdistinct hp hplt, hp, hplt⟩
      exact absurd (List.le_of_mem_argmin hahead hmin) (not_le.mpr hbefore)

end UpToDate

/-! ### Nobody comes to share -/

/-- A live ControlPlane of this identity holds the Secret. -/
def Holder (c : List Member) (k : String) (who : String × String) : Prop :=
  ∃ m ∈ c, identity m.xr = who ∧ terminating m.xr = false ∧ m.heldKey = some k

/-- Two live ControlPlanes hold the Secret. -/
structure Share (c : List Member) (k : String) (who who' : String × String) : Prop where
  ne : who ≠ who'
  left : Holder c k who
  right : Holder c k who'

variable {who who' : String × String}

theorem Holder.mono (hholder : Holder d k who) (hsub : ∀ m ∈ d, m ∈ c) : Holder c k who := by
  obtain ⟨m, hm, hid, hlive, hheld⟩ := hholder
  exact ⟨m, hsub m hm, hid, hlive, hheld⟩

/-- A step of the cluster keeps status and installed license of the live members together. -/
theorem Recorded.step (hc : Recorded c) (hstep : ClusterStep c d) : Recorded d := by
  cases hstep with
  | create _ xr hfresh hstatus =>
    refine ⟨List.nodup_cons.mpr ⟨hfresh, hc.distinct⟩, fun m hm hlive => ?_⟩
    rcases List.mem_cons.mp hm with rfl | hm
    · rw [hstatus]
      rfl
    · exact hc.synced m hm hlive
  | @change before after m m' hmember =>
    constructor
    · have hdistinct := hc.distinct
      rw [List.map_append, List.map_cons] at hdistinct ⊢
      rwa [hmember.identity_eq]
    · intro o ho hlive
      rcases List.mem_append.mp ho with ho | ho
      · exact hc.synced o (List.mem_append_left _ ho) hlive
      rcases List.mem_cons.mp ho with rfl | ho
      · exact hmember.synced (hc.synced m (by simp) (hmember.live_before hlive))
      · exact hc.synced o (List.mem_append_right _ (List.mem_cons_of_mem m ho)) hlive
  | remove before after m =>
    have hsub := List.Sublist.append_left (List.sublist_cons_self m after) before
    exact ⟨hc.distinct.sublist (hsub.map _), fun o ho => hc.synced o (hsub.mem ho)⟩

/-- At a step one ControlPlane at most comes to hold the Secret, and only when no other live
one holds it. -/
theorem ClusterStep.exists_mover (hc : Recorded c) (hstep : ClusterStep c d) (k : String) :
    ∃ mover, (∀ who, who ≠ mover → Holder d k who → Holder c k who) ∧
      (Holder d k mover → Holder c k mover ∨ ∀ who, who ≠ mover → ¬ Holder c k who) := by
  cases hstep with
  | create _ xr hfresh hstatus =>
    have hnone : (⟨xr, none⟩ : Member).heldKey = none := by
      rw [Member.heldKey, hstatus]
      rfl
    have hold : ∀ who, Holder (⟨xr, none⟩ :: c) k who → Holder c k who := by
      rintro who ⟨m, hm, hid, hlive, hheld⟩
      rcases List.mem_cons.mp hm with rfl | hm
      · rw [hnone] at hheld
        cases hheld
      · exact ⟨m, hm, hid, hlive, hheld⟩
    exact ⟨identity xr, fun who _ => hold who, fun hholder => Or.inl (hold _ hholder)⟩
  | @change before after m m' hmember =>
    have hrest : ∀ o, o ∈ before ++ m' :: after → o = m' ∨ o ∈ before ++ m :: after := by
      intro o ho
      rcases List.mem_append.mp ho with ho | ho
      · exact Or.inr (List.mem_append_left _ ho)
      rcases List.mem_cons.mp ho with rfl | ho
      · exact Or.inl rfl
      · exact Or.inr (List.mem_append_right _ (List.mem_cons_of_mem m ho))
    refine ⟨identity m.xr, ?_, ?_⟩
    · rintro who hne ⟨o, ho, hid, hlive, hheld⟩
      rcases hrest o ho with rfl | ho
      · exact absurd (hid.symm.trans hmember.identity_eq) hne
      · exact ⟨o, ho, hid, hlive, hheld⟩
    · rintro ⟨o, ho, hid, hlive, hheld⟩
      rcases hrest o ho with rfl | ho
      · -- the mover held the Secret before, or the guard let it take a free one
        obtain ⟨s, hs, rfl⟩ := Option.map_eq_some_iff.mp hheld
        have hlive' := hmember.live_before hlive
        have hm : m ∈ before ++ m :: after := by simp
        rcases hmember.claim (hc.synced m hm hlive') hs with ⟨t, ht, hkey⟩ | hfree
        · refine Or.inl ⟨m, hm, rfl, hlive', ?_⟩
          rw [Member.heldKey, ht, Option.map_some, hkey]
        · refine Or.inr ?_
          rintro who hne ⟨p, hp, rfl, hplive, hpheld⟩
          have hnot := hfree p.xr (List.mem_map_of_mem hp) hne hplive
          rw [heldKey_eq_some_iff, hnot] at hpheld
          cases hpheld
      · exact Or.inl ⟨o, ho, hid, hlive, hheld⟩
  | remove before after m =>
    have hsub := List.Sublist.append_left (List.sublist_cons_self m after) before
    exact ⟨identity m.xr, fun who _ hholder => hholder.mono fun o ho => hsub.mem ho,
      fun hholder => Or.inl (hholder.mono fun o ho => hsub.mem ho)⟩

/-- Who shares a Secret after a step has shared it before. -/
theorem Share.of_step (hc : Recorded c) (hstep : ClusterStep c d) (hshare : Share d k who who') :
    Share c k who who' := by
  obtain ⟨mover, hothers, hmover⟩ := hstep.exists_mover hc k
  by_cases hwho : who = mover
  · -- the mover cannot come to hold what the other one held before
    subst hwho
    have hright := hothers who' hshare.ne.symm hshare.right
    refine ⟨hshare.ne, (hmover hshare.left).resolve_right fun hnobody => ?_, hright⟩
    exact hnobody who' hshare.ne.symm hright
  · have hleft := hothers who hwho hshare.left
    refine ⟨hshare.ne, hleft, ?_⟩
    by_cases hwho' : who' = mover
    · subst hwho'
      exact (hmover hshare.right).resolve_right fun hnobody => hnobody who hwho hleft
    · exact hothers who' hwho' hshare.right

/-- **Sharing is not created.** In whatever way the cluster goes on, two live ControlPlanes
that hold one Secret have held it from the start. -/
theorem sharing_not_created (hc : Recorded c) (hrun : Relation.ReflTransGen ClusterStep c d)
    (hshare : Share d k who who') : Share c k who who' := by
  have hrecorded : ∀ {e}, Relation.ReflTransGen ClusterStep c e → Recorded e := by
    intro e hrun
    induction hrun with
    | refl => exact hc
    | tail _ hstep ih => exact ih.step hstep
  induction hrun with
  | refl => exact hshare
  | tail hrun hstep ih => exact ih (hshare.of_step (hrecorded hrun) hstep)

/-- The newer sharer's reconcile while it sees itself only. -/
def racedRequest : Request where
  composite := newerSharer.xr
  allControlPlanes := [newerSharer.xr]

/-- The newer sharer with the license, like the older one. -/
def racedNewer : Member := newerSharer.apply (reconcile "2026-03-01T00:00:00Z" racedRequest)

/-- The newer sharer once its spec requests a Secret of its own. -/
def movedNewer : Member :=
  { racedNewer with xr := { racedNewer.xr with parameters := { license := some otherLicense } } }

theorem recorded_raced : Recorded [racedNewer, loneSharer] where
  distinct := by decide
  synced := by
    intro m hm _
    simp only [List.mem_cons, List.not_mem_nil, or_false] at hm
    rcases hm with rfl | rfl
    · exact newerSharer.apply_synced _ racedRequest
    · exact olderSharer.apply_synced _ loneRequest

theorem secret?_racedNewer : secret? racedNewer.xr.statusLicense =
    some ("crossplane-system", "uxp-license-shared") := by
  rw [racedNewer, Member.apply_statusLicense, secret?_status]
  decide

theorem secret?_loneSharer : secret? loneSharer.xr.statusLicense =
    some ("crossplane-system", "uxp-license-shared") := by
  rw [loneSharer, Member.apply_statusLicense, secret?_status]
  decide

theorem moved_step : ClusterStep [racedNewer, loneSharer] [movedNewer, loneSharer] :=
  ClusterStep.change [] [loneSharer] (MemberStep.edit racedNewer { license := some otherLicense })

theorem heldKey_moved : ∀ m ∈ [movedNewer, loneSharer], m.heldKey = some sharedSecret.key := by
  have hkept : movedNewer.heldKey = racedNewer.heldKey := rfl
  intro m hm
  simp only [List.mem_cons, List.not_mem_nil, or_false] at hm
  rcases hm with rfl | rfl
  · rw [hkept, Member.heldKey, secret?_racedNewer]
    rfl
  · rw [Member.heldKey, secret?_loneSharer]
    rfl

/-- Two sharers that still hold one Secret held it before the newer one's spec moved on. -/
theorem sharing_not_created_raced : Share [racedNewer, loneSharer] sharedSecret.key
    (identity newerSharer.xr) (identity olderSharer.xr) := by
  have hnewer : movedNewer ∈ [movedNewer, loneSharer] := List.mem_cons_self
  have holder : loneSharer ∈ [movedNewer, loneSharer] := List.mem_cons_of_mem _ List.mem_cons_self
  exact sharing_not_created recorded_raced (Relation.ReflTransGen.single moved_step)
    ⟨by decide, ⟨movedNewer, hnewer, rfl, rfl, heldKey_moved _ hnewer⟩,
      ⟨loneSharer, holder, rfl, rfl, heldKey_moved _ holder⟩⟩

/-! ### Secrets of their own -/

/-- Every live ControlPlane requests a Secret that no other live one requests, and that it
holds already or nobody holds. -/
def OwnSecrets (c : List Member) : Prop :=
  ∀ m ∈ c, terminating m.xr = false → ∀ k, m.requestedKey = some k →
    (∀ o ∈ c, terminating o.xr = false → o.requestedKey = some k →
      identity o.xr = identity m.xr) ∧
    (m.heldKey = some k ∨ ∀ who, ¬ Holder c k who)

theorem OwnSecrets.own (hown : OwnSecrets c) (hdistinct : (c.map fun m => identity m.xr).Nodup)
    (hm : m ∈ c) (hlive : terminating m.xr = false) :
    (setting c).Own (heldKeys c) (identity m.xr) := by
  intro k hwants
  rw [wants_identity hdistinct hm hlive] at hwants
  obtain ⟨honly, hheld⟩ := hown m hm hlive k hwants
  constructor
  · intro who hwho hwants'
    obtain ⟨o, ho, rfl, holive⟩ := mem_members_iff.mp hwho
    rw [wants_identity hdistinct ho holive] at hwants'
    exact honly o ho holive hwants'
  · refine hheld.imp (fun hheld => ?_) fun hnobody who hwho hheld => ?_
    · rw [heldKeys_identity hdistinct hm hlive, hheld]
    · obtain ⟨o, ho, rfl, holive⟩ := mem_members_iff.mp hwho
      rw [heldKeys_identity hdistinct ho holive] at hheld
      exact hnobody _ ⟨o, ho, rfl, holive, hheld⟩

/-- Where every live ControlPlane holds what it requests, and no two request one Secret,
nobody reports a conflict. -/
theorem UpToDate.licenseConflict_eq_empty (hserved : UpToDate d m req)
    (hdistinct : (d.map fun m => identity m.xr).Nodup) (hnames : SlashFree d)
    (hsettled : ∀ o ∈ d, terminating o.xr = false → o.heldKey = o.requestedKey)
    (honly : ∀ k, m.requestedKey = some k → ∀ o ∈ d, terminating o.xr = false →
      o.requestedKey = some k → identity o.xr = identity m.xr) : req.licenseConflict = "" := by
  cases hrequest : m.requestedKey with
  | none => exact hserved.licenseConflict_of_requestedKey_eq_none hnames hrequest
  | some k =>
    refine (hserved.licenseConflict_eq_empty_iff hdistinct hrequest).mpr
      ⟨⟨hserved.mem, hserved.live, Or.inl hrequest⟩, fun o ho => ?_⟩
    have hrequesto : o.requestedKey = some k := by
      rcases ho.claims with hrequesto | hheld
      · exact hrequesto
      · rwa [hsettled o ho.mem ho.live] at hheld
    have heq : o = m := List.inj_on_of_nodup_map hdistinct ho.mem hserved.mem
      (honly k hrequest o ho.mem ho.live hrequesto)
    rw [heq]

/-- **Secrets of their own clear the conflicts.** Once every live ControlPlane requests a
Secret of its own and has been reconciled, in whatever order, each holds what it requests,
nobody shares a Secret and nobody reports a conflict. -/
theorem own_secrets_clear (hc : Recorded c) (hnames : SlashFree c) (hown : OwnSecrets c)
    (hrun : Turns turns c d)
    (hall : ∀ m ∈ c, terminating m.xr = false → identity m.xr ∈ turns) :
    (∀ m ∈ d, terminating m.xr = false → m.heldKey = m.requestedKey) ∧
    (∀ k who who', ¬ Share d k who who') ∧
    ∀ m req, UpToDate d m req → req.licenseConflict = "" := by
  have hd := hrun.refines hc hnames
  have hdistinct := hd.recorded.distinct
  -- the run changes no identity and no request, so the hypotheses are read back at its start
  have hmember : ∀ m ∈ d, terminating m.xr = false →
      ∃ o ∈ c, identity o.xr = identity m.xr ∧ terminating o.xr = false := by
    intro m hm hlive
    have hmem : identity m.xr ∈ (setting d).members := mem_members_iff.mpr ⟨m, hm, rfl, hlive⟩
    rw [hd.setting_eq] at hmem
    exact mem_members_iff.mp hmem
  have hsettled : ∀ m ∈ d, terminating m.xr = false → m.heldKey = m.requestedKey := by
    intro m hm hlive
    obtain ⟨o, ho, hid, holive⟩ := hmember m hm hlive
    rw [← heldKeys_identity hdistinct hm hlive, ← wants_identity hdistinct hm hlive,
      hd.heldKeys_eq, hd.setting_eq, ← hid]
    exact Setting.run_of_own (mem_members_iff.mpr ⟨o, ho, rfl, holive⟩)
      (hown.own hc.distinct ho holive) (hall o ho holive)
  have honly : ∀ m ∈ d, terminating m.xr = false → ∀ k, m.requestedKey = some k →
      ∀ p ∈ d, terminating p.xr = false → p.requestedKey = some k →
        identity p.xr = identity m.xr := by
    intro m hm hlive k hrequest p hp hplive hrequestp
    obtain ⟨o, ho, hid, holive⟩ := hmember m hm hlive
    have hownm := hown.own hc.distinct ho holive
    rw [hid] at hownm
    refine (hownm k ?_).1 (identity p.xr) ?_ ?_
    · rw [← hd.setting_eq, wants_identity hdistinct hm hlive, hrequest]
    · rw [← hd.setting_eq]
      exact mem_members_iff.mpr ⟨p, hp, rfl, hplive⟩
    · rw [← hd.setting_eq, wants_identity hdistinct hp hplive, hrequestp]
  refine ⟨hsettled, ?_, fun m req hserved => ?_⟩
  · rintro k who who' ⟨hne, ⟨a, ha, rfl, halive, haheld⟩, ⟨b, hb, rfl, hblive, hbheld⟩⟩
    rw [hsettled a ha halive] at haheld
    rw [hsettled b hb hblive] at hbheld
    exact hne (honly b hb hblive k hbheld a ha halive haheld)
  · exact hserved.licenseConflict_eq_empty hdistinct hd.slashFree hsettled
      (honly m hserved.mem hserved.live)

/-- The next reconcile of the newer sharer. -/
def movedRequest : Request where
  composite := movedNewer.xr
  observed := Round.observedAfter ⟨"2026-03-01T00:00:00Z", racedRequest⟩
  allControlPlanes := [movedNewer.xr, loneSharer.xr]

/-- The newer sharer after it. -/
def clearedNewer : Member := movedNewer.apply (reconcile "2026-03-02T00:00:00Z" movedRequest)

/-- The next reconcile of the older sharer. -/
def keptRequest : Request where
  composite := loneSharer.xr
  observed := Round.observedAfter ⟨"2026-03-01T00:00:00Z", loneRequest⟩
  allControlPlanes := [clearedNewer.xr, loneSharer.xr]

/-- The older sharer after it. -/
def clearedOlder : Member := loneSharer.apply (reconcile "2026-03-02T00:00:00Z" keptRequest)

theorem moved_run : Turns [identity newerSharer.xr, identity olderSharer.xr]
    [movedNewer, loneSharer] [clearedNewer, clearedOlder] := by
  refine Turns.cons (Reconciled.turn [] [loneSharer] movedNewer _ movedRequest rfl rfl
    (List.Perm.refl _) ?_) (Turns.cons (Reconciled.turn [clearedNewer] [] loneSharer _ keptRequest
      rfl rfl (List.Perm.refl _) ?_) (Turns.nil _))
  · exact Round.observedLicenseObject_observedAfter ⟨"2026-03-01T00:00:00Z", racedRequest⟩
  · exact Round.observedLicenseObject_observedAfter ⟨"2026-03-01T00:00:00Z", loneRequest⟩

theorem requestedKey_moved : movedNewer.requestedKey = some "crossplane-system/uxp-license-other" ∧
    loneSharer.requestedKey = some sharedSecret.key := by
  decide

theorem ownSecrets_moved : OwnSecrets [movedNewer, loneSharer] := by
  obtain ⟨hnewer, holder⟩ := requestedKey_moved
  have hne : sharedSecret.key ≠ "crossplane-system/uxp-license-other" := by decide
  intro m hm _ k hrequest
  simp only [List.mem_cons, List.not_mem_nil, or_false] at hm
  rcases hm with rfl | rfl
  · -- nobody holds the Secret the newer one has moved to
    obtain rfl := Option.some.inj (hnewer.symm.trans hrequest)
    refine ⟨fun o ho _ hrequesto => ?_, Or.inr ?_⟩
    · simp only [List.mem_cons, List.not_mem_nil, or_false] at ho
      rcases ho with rfl | rfl
      · rfl
      · exact absurd (Option.some.inj (holder.symm.trans hrequesto)) hne
    · rintro who ⟨o, ho, -, -, hheldo⟩
      exact hne (Option.some.inj ((heldKey_moved o ho).symm.trans hheldo))
  · obtain rfl := Option.some.inj (holder.symm.trans hrequest)
    refine ⟨fun o ho _ hrequesto => ?_, Or.inl (heldKey_moved _ (by simp))⟩
    simp only [List.mem_cons, List.not_mem_nil, or_false] at ho
    rcases ho with rfl | rfl
    · exact absurd (Option.some.inj (hnewer.symm.trans hrequesto)) hne.symm
    · rfl

theorem slashFree_moved : SlashFree [movedNewer, loneSharer] := by
  have hnewer : secret? movedNewer.xr.parameters.license =
    some ("crossplane-system", "uxp-license-other") := by decide
  have holder : secret? loneSharer.xr.parameters.license =
    some ("crossplane-system", "uxp-license-shared") := by decide
  have hmoved : secret? movedNewer.xr.statusLicense =
    some ("crossplane-system", "uxp-license-shared") := secret?_racedNewer
  intro m hm s hs
  simp only [List.mem_cons, List.not_mem_nil, or_false] at hm
  rcases hm with rfl | rfl
  · rw [hnewer, hmoved] at hs
    rcases hs with hs | hs <;> cases hs <;> decide
  · rw [holder, secret?_loneSharer] at hs
    rcases hs with hs | hs <;> cases hs <;> decide

/-- Once both sharers have been reconciled, they share the Secret no more. -/
theorem own_secrets_clear_raced : ¬ Share [clearedNewer, clearedOlder] sharedSecret.key
    (identity newerSharer.xr) (identity olderSharer.xr) := by
  refine (own_secrets_clear ?_ slashFree_moved ownSecrets_moved moved_run ?_).2.1 _ _ _
  · exact recorded_raced.step moved_step
  · intro m hm _
    simp only [List.mem_cons, List.not_mem_nil, or_false] at hm
    rcases hm with rfl | rfl
    · exact List.mem_cons_self
    · exact List.mem_cons_of_mem _ List.mem_cons_self

end AzureCtp
