import AzureCtp.Library.Claims
import AzureCtp.License.Cluster

/-!
# A reconcile of the cluster is a turn of the claims protocol

Between two edits the cluster only reconciles its live members, one at a time and in any
order. `Reconciled` is one such reconcile, `Turns` a run of them. A reconcile is served a
view of the cluster, which is the cluster itself or, from a cache, older entries of it.
What the members request and their seniority do not change in a run; what they hold does.
Read as keys, a reconcile is one turn of `Claims`: a member that requests nothing drops its
claim, the senior requester of a Secret that it sees nobody else hold takes it, everybody
else keeps what it holds.

## Main results

* `licenseConflict_eq_empty_iff`: when the guard lets a member take a Secret
* `reconcile_refines_turn`: a reconcile is a turn
* `Turns.refines`: a run of reconciles is a run of turns
-/

set_option autoImplicit false

namespace AzureCtp

open Claims

/-- Seniority: timestamp missing, timestamp, namespace, name. -/
abbrev Age := Bool ×ₗ String ×ₗ String ×ₗ String

/-- The age of a ControlPlane, the part of the claim order that no claim changes. -/
def age (obj : ControlPlane) : Age :=
  let ts := obj.metadata.creationTimestamp.getD ""
  toLex (ts == "", toLex (ts, toLex (identity obj)))

theorem claimOrder_eq (myKey : String) (obj : ControlPlane) :
    claimOrder myKey obj = toLex (!holds myKey obj, age obj) := rfl

theorem claimOrder_lt_iff_of_holds_eq {myKey : String} {a b : ControlPlane}
    (heq : holds myKey a = holds myKey b) :
    claimOrder myKey a < claimOrder myKey b ↔ age a < age b := by
  rw [claimOrder_eq, claimOrder_eq, heq, Prod.Lex.toLex_lt_toLex]
  simp

/-- The guard is free of conflict exactly when no peer is ahead. -/
theorem checkLicenseConflict_eq_empty_iff {xr : ControlPlane} {lic : Option License}
    {allCtps : List ControlPlane} (htruthy : License.truthy lic = true) :
    checkLicenseConflict xr lic allCtps = "" ↔
      aheadOf (secretKey (lic.getD {})) xr allCtps = [] := by
  unfold checkLicenseConflict
  cases allCtps with
  | nil => simp [aheadOf]
  | cons first rest =>
    rw [if_neg (by simp [htruthy]), ← List.argmin_eq_none (f := claimOrder _)]
    cases hmin : (aheadOf (secretKey (lic.getD {})) xr (first :: rest)).argmin
        (claimOrder (secretKey (lic.getD {}))) with
    | none => simp [hmin]
    | some owner => simp [hmin, joinIdentity_ne_empty owner]

namespace Member

/-- The key of the Secret the member requests. -/
def requestedKey (m : Member) : Option String := (secret? m.xr.parameters.license).map keyOf

/-- The key of the Secret the member holds. -/
def heldKey (m : Member) : Option String := (secret? m.xr.statusLicense).map keyOf

/-- The member is reconciled. -/
def live (m : Member) : Bool := !terminating m.xr

end Member

theorem heldKey_eq_some_iff {m : Member} {k : String} :
    m.heldKey = some k ↔ holds k m.xr = true := by
  rw [Member.heldKey, Option.map_eq_some_iff, holds, onSecret_iff]

theorem requestedKey_eq_some_iff {m : Member} {k : String} :
    m.requestedKey = some k ↔ onSecret k (m.xr.parameters.license.getD {}) = true := by
  rw [Member.requestedKey, Option.map_eq_some_iff, onSecret_iff]

/-- A cluster in which the status of each live member names the Secret it has installed, as
every reconcile leaves it. A Secret may have several holders. -/
structure Recorded (c : List Member) : Prop where
  distinct : (c.map fun m => identity m.xr).Nodup
  synced : ∀ m ∈ c, terminating m.xr = false → secret? m.xr.statusLicense = secret? m.installed

theorem Exclusive.recorded {c : List Member} (hc : Exclusive c) : Recorded c :=
  ⟨hc.distinct, fun m hm _ => hc.synced m hm⟩

/-- A request of a live member that is served the cluster as it is, in any order. -/
structure UpToDate (e : List Member) (m : Member) (req : Request) : Prop where
  mem : m ∈ e
  live : terminating m.xr = false
  composite : req.composite = m.xr
  peers : req.allControlPlanes.Perm (e.map Member.xr)

/-- The request of a member that is served the list as it is. -/
def Member.request (m : Member) (c : List Member) : Request where
  composite := m.xr
  allControlPlanes := c.map Member.xr

theorem upToDate_request {c : List Member} {m : Member} (hm : m ∈ c)
    (hlive : terminating m.xr = false) : UpToDate c m (m.request c) :=
  ⟨hm, hlive, rfl, List.Perm.refl _⟩

/-- One reconcile of a live member, served the ControlPlanes of the view in any order. -/
inductive Reconciled (view : List Member) :
    String × String → List Member → List Member → Prop
  | turn (before after : List Member) (m : Member) (now : String) (req : Request)
      (hlive : terminating m.xr = false) (hcomposite : req.composite = m.xr)
      (hpeers : req.allControlPlanes.Perm (view.map Member.xr))
      (hobserved : observedLicenseObject req.observed = m.licenseObject) :
      Reconciled view (identity m.xr) (before ++ m :: after)
        (before ++ m.apply (reconcile now req) :: after)

/-- A run of reconciles, each served the current list, with whose turn each of them was. -/
inductive Turns : List (String × String) → List Member → List Member → Prop
  | nil (c : List Member) : Turns [] c c
  | cons {who : String × String} {turns : List (String × String)} {c d e : List Member}
      (hstep : Reconciled c who c d) (hrest : Turns turns d e) : Turns (who :: turns) c e

/-- A reconcile that is served the current list is a step of the cluster. -/
theorem Reconciled.clusterStep {who : String × String} {c d : List Member}
    (hstep : Reconciled c who c d) : ClusterStep c d := by
  cases hstep with
  | turn before after m now req hlive hcomposite hpeers hobserved =>
    exact ClusterStep.change before after
      (MemberStep.reconcile m now req hlive hcomposite hpeers hobserved)

/-! ### The cluster as a setting of the protocol -/

/-- The live member of that identity. -/
def liveMember? (c : List Member) (who : String × String) : Option Member :=
  c.find? fun m => identity m.xr == who && m.live

/-- Who takes part in the cluster, what they request, and their seniority. -/
def setting (c : List Member) : Setting (String × String) String Age where
  members := ((c.filter Member.live).map fun m => identity m.xr).toFinset
  wants who := (liveMember? c who).bind Member.requestedKey
  rank who :=
    let ts := ((liveMember? c who).bind fun m => m.xr.metadata.creationTimestamp).getD ""
    toLex (ts == "", toLex (ts, toLex who))
  rank_injective := by
    intro who who' heq
    obtain ⟨-, heq⟩ := Prod.mk.inj (toLex.injective heq)
    obtain ⟨-, heq⟩ := Prod.mk.inj (toLex.injective heq)
    exact toLex.injective heq

/-- What the members of the cluster hold. -/
def heldKeys (c : List Member) (who : String × String) : Option String :=
  (liveMember? c who).bind Member.heldKey

/-- No Secret that a member requests or records has a slash in its name, as Kubernetes
requires of object names. -/
def SlashFree (c : List Member) : Prop :=
  ∀ m ∈ c, ∀ s, secret? m.xr.parameters.license = some s ∨ secret? m.xr.statusLicense = some s →
    '/' ∉ s.2.toList

section Distinct

variable {c : List Member} {m : Member} {who : String × String}

theorem liveMember?_eq_some_iff (hdistinct : (c.map fun m => identity m.xr).Nodup) :
    liveMember? c who = some m ↔ m ∈ c ∧ identity m.xr = who ∧ terminating m.xr = false := by
  constructor
  · intro hfind
    have hsat := List.find?_some hfind
    simp only [Member.live, Bool.and_eq_true, beq_iff_eq, Bool.not_eq_true'] at hsat
    exact ⟨List.mem_of_find?_eq_some hfind, hsat⟩
  · rintro ⟨hm, hwho, hlive⟩
    cases hfind : liveMember? c who with
    | none =>
      have hnot := List.find?_eq_none.mp hfind m hm
      simp [hwho, Member.live, hlive] at hnot
    | some o =>
      have hsat := List.find?_some hfind
      simp only [Bool.and_eq_true, beq_iff_eq] at hsat
      exact congrArg some (List.inj_on_of_nodup_map hdistinct (List.mem_of_find?_eq_some hfind) hm
        (hsat.1.trans hwho.symm))

theorem mem_members_iff :
    who ∈ (setting c).members ↔ ∃ m ∈ c, identity m.xr = who ∧ terminating m.xr = false := by
  simp only [setting, List.mem_toFinset, List.mem_map, List.mem_filter, Member.live,
    Bool.not_eq_true']
  constructor
  · rintro ⟨m, ⟨hm, hlive⟩, hwho⟩
    exact ⟨m, hm, hwho, hlive⟩
  · rintro ⟨m, hm, hwho, hlive⟩
    exact ⟨m, ⟨hm, hlive⟩, hwho⟩

variable (hdistinct : (c.map fun m => identity m.xr).Nodup) (hm : m ∈ c)
  (hlive : terminating m.xr = false)

include hdistinct hm hlive

theorem liveMember?_identity : liveMember? c (identity m.xr) = some m :=
  (liveMember?_eq_some_iff hdistinct).mpr ⟨hm, rfl, hlive⟩

theorem wants_identity : (setting c).wants (identity m.xr) = m.requestedKey := by
  change (liveMember? c (identity m.xr)).bind Member.requestedKey = m.requestedKey
  rw [liveMember?_identity hdistinct hm hlive, Option.bind_some]

theorem heldKeys_identity : heldKeys c (identity m.xr) = m.heldKey := by
  rw [heldKeys, liveMember?_identity hdistinct hm hlive, Option.bind_some]

theorem rank_identity : (setting c).rank (identity m.xr) = age m.xr := by
  simp only [setting, liveMember?_identity hdistinct hm hlive, Option.bind_some]
  rfl

omit hm hlive

/-- No other live member holds the key. -/
theorem freeFor_iff {k : String} : (setting c).FreeFor (heldKeys c) who k ↔
    ∀ o ∈ c, terminating o.xr = false → identity o.xr ≠ who → holds k o.xr = false := by
  constructor
  · intro hfree o ho holive hother
    have hnot := hfree _ (mem_members_iff.mpr ⟨o, ho, rfl, holive⟩) hother
    rwa [heldKeys_identity hdistinct ho holive, Ne, heldKey_eq_some_iff,
      Bool.not_eq_true] at hnot
  · intro hnot i hi hother
    obtain ⟨o, ho, rfl, holive⟩ := mem_members_iff.mp hi
    rw [heldKeys_identity hdistinct ho holive, Ne, heldKey_eq_some_iff,
      hnot o ho holive hother]
    simp

/-- Nobody live holds the key. -/
theorem free_iff {k : String} : (setting c).Free (heldKeys c) k ↔
    ∀ o ∈ c, terminating o.xr = false → holds k o.xr = false := by
  constructor
  · intro hfree o ho holive
    have hnot := hfree _ (mem_members_iff.mpr ⟨o, ho, rfl, holive⟩)
    rwa [heldKeys_identity hdistinct ho holive, Ne, heldKey_eq_some_iff,
      Bool.not_eq_true] at hnot
  · intro hnot who hwho
    obtain ⟨o, ho, rfl, holive⟩ := mem_members_iff.mp hwho
    rw [heldKeys_identity hdistinct ho holive, Ne, heldKey_eq_some_iff, hnot o ho holive]
    simp

end Distinct

/-! ### What a reconcile claims -/

section Claim

variable {view c : List Member} {m : Member} {req : Request} {k : String}
  (hcomposite : req.composite = m.xr)
  (hpeers : req.allControlPlanes.Perm (view.map Member.xr))

theorem truthy_of_requestedKey (hrequest : m.requestedKey = some k) :
    License.truthy m.xr.parameters.license = true := by
  obtain ⟨s, hs, -⟩ := Option.map_eq_some_iff.mp hrequest
  exact truthy_of_secret? hs

theorem secretKey_of_requestedKey (hrequest : m.requestedKey = some k) :
    secretKey (m.xr.parameters.license.getD {}) = k := by
  obtain ⟨s, hs, hkey⟩ := Option.map_eq_some_iff.mp hrequest
  rw [secretKey_eq, (secret?_eq_some_iff.mp hs).1, hkey]

include hpeers in
/-- Who is ahead of a member, among the members it sees. -/
theorem mem_aheadOf_iff {ctp : ControlPlane} :
    ctp ∈ aheadOf k m.xr req.allControlPlanes ↔
      ∃ o ∈ view, o.xr = ctp ∧ identity o.xr ≠ identity m.xr ∧ terminating o.xr = false ∧
        (o.requestedKey = some k ∨ o.heldKey = some k) ∧
          claimOrder k o.xr < claimOrder k m.xr := by
  simp only [aheadOf, List.mem_filter, hpeers.mem_iff, List.mem_map, Bool.and_eq_true,
    bne_iff_ne, Bool.not_eq_true', Bool.or_eq_true, decide_eq_true_eq,
    requestedKey_eq_some_iff, heldKey_eq_some_iff]
  constructor
  · rintro ⟨⟨o, ho, rfl⟩, ⟨⟨hother, holive⟩, hclaims⟩, hlt⟩
    exact ⟨o, ho, rfl, hother, holive, hclaims, hlt⟩
  · rintro ⟨o, ho, rfl, hother, holive, hclaims, hlt⟩
    exact ⟨⟨o, ho, rfl⟩, ⟨⟨hother, holive⟩, hclaims⟩, hlt⟩

section Guard

variable (hview : (view.map fun m => identity m.xr).Nodup)
  (hdistinct : (c.map fun m => identity m.xr).Nodup) (hsame : setting view = setting c)
  (hm : m ∈ c) (hlive : terminating m.xr = false)

include hcomposite hpeers hview hdistinct hsame hm hlive in
/-- The guard lets a requester that does not hold the key pass exactly when it sees no other
holder and is the first of those who request it. -/
theorem licenseConflict_eq_empty_iff (hrequest : m.requestedKey = some k)
    (hnot : holds k m.xr = false) :
    req.licenseConflict = "" ↔ (setting c).FreeFor (heldKeys view) (identity m.xr) k ∧
      (setting c).First k (identity m.xr) := by
  rw [Request.licenseConflict, Request.licenseParam, Request.params, hcomposite,
    checkLicenseConflict_eq_empty_iff (truthy_of_requestedKey hrequest),
    secretKey_of_requestedKey hrequest, List.eq_nil_iff_forall_not_mem, ← hsame,
    freeFor_iff hview]
  have hrank : (setting view).rank (identity m.xr) = age m.xr := by
    rw [hsame, rank_identity hdistinct hm hlive]
  have hmember : identity m.xr ∈ (setting view).members ∧
      (setting view).wants (identity m.xr) = some k := by
    rw [hsame, wants_identity hdistinct hm hlive]
    exact ⟨mem_members_iff.mpr ⟨m, hm, rfl, hlive⟩, hrequest⟩
  constructor
  · intro hnobody
    have hfree : ∀ o ∈ view, terminating o.xr = false → identity o.xr ≠ identity m.xr →
        holds k o.xr = false := by
      intro o ho holive hother
      by_contra hholds
      rw [Bool.not_eq_false] at hholds
      -- a holder would be ahead
      exact hnobody o.xr ((mem_aheadOf_iff hpeers).mpr ⟨o, ho, rfl, hother, holive,
        Or.inr (heldKey_eq_some_iff.mpr hholds), claimOrder_lt_of_holds hholds hnot⟩)
    refine ⟨hfree, hmember.1, hmember.2, fun who hwho hwants => ?_⟩
    obtain ⟨o, ho, rfl, holive⟩ := mem_members_iff.mp hwho
    rw [wants_identity hview ho holive] at hwants
    rw [rank_identity hview ho holive, hrank]
    by_contra hlt
    rw [not_le] at hlt
    -- and so would an older requester
    have hother : identity o.xr ≠ identity m.xr := by
      intro hid
      have hsameage : age o.xr = age m.xr := by
        rw [← hrank, ← hid, rank_identity hview ho holive]
      exact absurd hlt (hsameage ▸ lt_irrefl _)
    have hholds : holds k o.xr = holds k m.xr := by rw [hfree o ho holive hother, hnot]
    exact hnobody o.xr ((mem_aheadOf_iff hpeers).mpr ⟨o, ho, rfl, hother, holive,
      Or.inl hwants, (claimOrder_lt_iff_of_holds_eq hholds).mpr hlt⟩)
  · rintro ⟨hfree, -, -, hfirst⟩ ctp hahead
    obtain ⟨o, ho, rfl, hother, holive, hclaims, hlt⟩ := (mem_aheadOf_iff hpeers).mp hahead
    have hwants : o.requestedKey = some k := by
      refine hclaims.resolve_right ?_
      rw [heldKey_eq_some_iff, hfree o ho holive hother]
      exact Bool.false_ne_true
    have hle := hfirst (identity o.xr) (mem_members_iff.mpr ⟨o, ho, rfl, holive⟩)
      (by rw [wants_identity hview ho holive, hwants])
    rw [rank_identity hview ho holive, hrank] at hle
    rw [claimOrder_lt_iff_of_holds_eq ((hfree o ho holive hother).trans hnot.symm)] at hlt
    exact absurd hle (not_le.mpr hlt)

end Guard

include hcomposite hpeers in
/-- Where names have no slash, the guard lets a license without a name pass. -/
theorem licenseConflict_eq_empty_of_nameless (hnames : SlashFree view)
    (htruthy : License.truthy m.xr.parameters.license = true)
    (hrequest : m.requestedKey = none) : req.licenseConflict = "" := by
  rw [Request.licenseConflict, Request.licenseParam, Request.params, hcomposite,
    checkLicenseConflict_eq_empty_iff htruthy, List.eq_nil_iff_forall_not_mem]
  intro ctp hahead
  obtain ⟨o, ho, rfl, -, -, hclaims, -⟩ := (mem_aheadOf_iff hpeers).mp hahead
  -- the requested key ends in a slash, and no name does
  have hname : (secretOf (m.xr.parameters.license.getD {})).2 = "" := by
    rw [Member.requestedKey, Option.map_eq_none_iff, secret?] at hrequest
    by_contra hne
    rw [if_neg hne] at hrequest
    cases hrequest
  obtain ⟨s, hs, hkey⟩ : ∃ s, (secret? o.xr.parameters.license = some s ∨
      secret? o.xr.statusLicense = some s) ∧
        keyOf s = secretKey (m.xr.parameters.license.getD {}) := by
    rcases hclaims with hrequested | hheld
    · obtain ⟨s, hs, hkey⟩ := Option.map_eq_some_iff.mp hrequested
      exact ⟨s, Or.inl hs, hkey⟩
    · obtain ⟨s, hs, hkey⟩ := Option.map_eq_some_iff.mp hheld
      exact ⟨s, Or.inr hs, hkey⟩
  have hne : s.2 ≠ "" := by
    rcases hs with hs | hs
    · exact (secret?_eq_some_iff.mp hs).2
    · exact (secret?_eq_some_iff.mp hs).2
  rw [secretKey_eq, keyOf, keyOf, hname] at hkey
  have hslash : "/".toList = ['/'] := rfl
  have hlast := congrArg (fun key => key.toList.getLast?) hkey
  simp only [String.toList_append, hslash, String.toList_empty, List.append_nil,
    List.getLast?_append, List.getLast?_singleton, Option.some_or] at hlast
  cases hlist : s.2.toList.getLast? with
  | none => exact hne (String.toList_eq_nil_iff.mp (List.getLast?_eq_none_iff.mp hlist))
  | some last =>
    rw [hlist, Option.some_or, Option.some_inj] at hlast
    subst hlast
    exact hnames o ho s hs (List.mem_of_getLast? hlist)

/-- A reconcile reads back what the member has installed. -/
theorem getInstalledLicense_of_observed
    (hobserved : observedLicenseObject req.observed = m.licenseObject) :
    getInstalledLicense req.observed = m.installed := by
  rw [getInstalledLicense_eq, hobserved, Member.installed]

/-- On a conflict the claim is what the member holds. -/
theorem secret?_licenseClaim_of_conflict
    (hsynced : secret? m.xr.statusLicense = secret? m.installed)
    (hobserved : observedLicenseObject req.observed = m.licenseObject)
    (htruthy : License.truthy req.licenseParam = true) (hconflict : req.licenseConflict ≠ "") :
    secret? req.licenseClaim = secret? m.xr.statusLicense := by
  rw [licenseClaim_eq_installed htruthy hconflict, getInstalledLicense_of_observed hobserved,
    hsynced]

include hcomposite hpeers in
/-- What a reconcile claims is what the member holds after its turn. -/
theorem claimedKey_eq_next (hview : (view.map fun m => identity m.xr).Nodup)
    (hc : Recorded c) (hsame : setting view = setting c) (hnames : SlashFree view) (hm : m ∈ c)
    (hlive : terminating m.xr = false)
    (hobserved : observedLicenseObject req.observed = m.licenseObject) :
    (secret? req.licenseClaim).map keyOf =
      (setting c).next (heldKeys view) (heldKeys c) (identity m.xr) := by
  have hparam : req.licenseParam = m.xr.parameters.license := by
    rw [Request.licenseParam, Request.params, hcomposite]
  rw [Setting.next, wants_identity hc.distinct hm hlive]
  cases hrequest : m.requestedKey with
  | none =>
    rw [Option.map_eq_none_iff]
    by_cases htruthy : License.truthy m.xr.parameters.license = true
    · rw [licenseClaim_of_free (by rw [hparam, htruthy])
        (licenseConflict_eq_empty_of_nameless hcomposite hpeers hnames htruthy hrequest), hparam]
      exact Option.map_eq_none_iff.mp hrequest
    · rw [licenseClaim_of_not_truthy (by rwa [hparam])]
      rfl
  | some k =>
    have htruthy : License.truthy req.licenseParam = true := by
      rw [hparam, truthy_of_requestedKey hrequest]
    have hkept : req.licenseConflict ≠ "" → (secret? req.licenseClaim).map keyOf = m.heldKey :=
      fun hconflict => by
        rw [secret?_licenseClaim_of_conflict (hc.synced m hm hlive) hobserved htruthy hconflict]
        rfl
    have hclaimed : req.licenseConflict = "" → (secret? req.licenseClaim).map keyOf = some k :=
      fun hfree => by
        rw [licenseClaim_of_free htruthy hfree, hparam]
        exact hrequest
    dsimp only
    rw [heldKeys_identity hc.distinct hm hlive]
    by_cases hheld : m.heldKey = some k
    · -- whoever holds the key claims it again, with or without a conflict
      rw [if_pos (Or.inl hheld)]
      by_cases hfree : req.licenseConflict = ""
      · exact hclaimed hfree
      · rw [hkept hfree, hheld]
    · have hnot : holds k m.xr = false := by rwa [heldKey_eq_some_iff, Bool.not_eq_true] at hheld
      have hguard := licenseConflict_eq_empty_iff hcomposite hpeers hview hc.distinct hsame hm hlive
        hrequest hnot
      split_ifs with hpass
      · exact hclaimed (hguard.mpr (hpass.resolve_left hheld))
      · exact hkept fun hfree => hpass (Or.inr (hguard.mp hfree))

end Claim

/-! ### The refinement -/

section Refinement

variable {who : String × String} {view c d : List Member}

/-- Only the member whose turn it is changes. -/
theorem liveMember?_apply {before after : List Member} {m : Member} (rsp : Response)
    (hdistinct : ((before ++ m :: after).map fun m => identity m.xr).Nodup)
    (hlive : terminating m.xr = false) (who : String × String) :
    liveMember? (before ++ m.apply rsp :: after) who =
      if identity m.xr = who then some (m.apply rsp)
      else liveMember? (before ++ m :: after) who := by
  have hid : identity (m.apply rsp).xr = identity m.xr := rfl
  have hlive' : (m.apply rsp).live = true := by
    change (!terminating m.xr) = true
    rw [hlive, Bool.not_false]
  have hbefore : ∀ o ∈ before, identity o.xr ≠ identity m.xr := by
    rw [List.map_append, List.map_cons, List.nodup_append] at hdistinct
    intro o ho
    exact hdistinct.2.2 _ (List.mem_map_of_mem ho) _ List.mem_cons_self
  unfold liveMember?
  rw [List.find?_append, List.find?_append]
  split_ifs with hwho
  · have hnone : before.find? (fun o => identity o.xr == who && o.live) = none := by
      rw [List.find?_eq_none]
      intro o ho
      simp [← hwho, hbefore o ho]
    rw [hnone, Option.none_or, List.find?_cons_of_pos (by simp [hid, hwho, hlive'])]
  · rw [List.find?_cons_of_neg (by simp [hid, hwho]), List.find?_cons_of_neg (by simp [hwho])]

/-- A reconcile changes neither who takes part nor what the members request nor their
seniority. -/
theorem Reconciled.setting_eq (hdistinct : (c.map fun m => identity m.xr).Nodup)
    (hstep : Reconciled view who c d) : setting d = setting c := by
  cases hstep with
  | turn before after m now req hlive hcomposite hpeers hobserved =>
    have hmlive : m.live = true := by rw [Member.live, hlive, Bool.not_false]
    have hmember := liveMember?_identity hdistinct (by simp) hlive
    have hreplace := liveMember?_apply (reconcile now req) hdistinct hlive
    apply Setting.ext
    · have hmlive' : (m.apply (reconcile now req)).live = true := hmlive
      simp only [setting, List.filter_append, List.map_append,
        List.filter_cons_of_pos hmlive, List.filter_cons_of_pos hmlive', List.map_cons]
      rfl
    · funext who
      simp only [setting, hreplace]
      split_ifs with hwho
      · subst hwho
        rw [hmember]
        rfl
      · rfl
    · funext who
      simp only [setting, hreplace]
      split_ifs with hwho
      · subst hwho
        rw [hmember]
        rfl
      · rfl

/-- What the members hold changes as by the turn of the member that is reconciled. -/
theorem heldKeys_reconciled (hc : Recorded c)
    (hview : (view.map fun m => identity m.xr).Nodup) (hsame : setting view = setting c)
    (hnames : SlashFree view) (hstep : Reconciled view who c d) :
    heldKeys d = (setting c).step (heldKeys view) (heldKeys c) who := by
  cases hstep with
  | turn before after m now req hlive hcomposite hpeers hobserved =>
    funext who
    rw [heldKeys, liveMember?_apply _ hc.distinct hlive]
    split_ifs with hwho
    · subst hwho
      rw [Setting.step_self, Option.bind_some, Member.heldKey, Member.apply_statusLicense,
        secret?_status]
      exact claimedKey_eq_next hcomposite hpeers hview hc hsame hnames (by simp) hlive hobserved
    · rw [Setting.step_of_ne (Ne.symm hwho)]
      rfl

/-- **A reconcile refines a turn.** In a cluster in which each status names what is installed,
with a view that lists the live members of the cluster as they are but for what they hold, a
reconcile of a live member leaves the setting alone and changes what the members hold as that
member's turn does. -/
theorem reconcile_refines_turn (hc : Recorded c)
    (hview : (view.map fun m => identity m.xr).Nodup) (hsame : setting view = setting c)
    (hnames : SlashFree view) (hstep : Reconciled view who c d) :
    setting d = setting c ∧ heldKeys d = (setting c).step (heldKeys view) (heldKeys c) who :=
  ⟨hstep.setting_eq hc.distinct, heldKeys_reconciled hc hview hsame hnames hstep⟩

theorem slashFree_sharers : SlashFree [newerSharer, olderSharer] := by
  intro m hm s hs
  simp only [List.mem_cons, List.not_mem_nil, or_false] at hm
  have hsecrets : secret? m.xr.parameters.license =
      some ("crossplane-system", "uxp-license-shared") ∧ secret? m.xr.statusLicense = none := by
    rcases hm with rfl | rfl <;> exact ⟨by decide, rfl⟩
  rw [hsecrets.1, hsecrets.2] at hs
  rcases hs with hs | hs <;> cases hs
  decide

theorem olderSharer_reconciled : Reconciled [newerSharer, olderSharer]
    (identity olderSharer.xr) [newerSharer, olderSharer] [newerSharer, olderSharerApplied] :=
  Reconciled.turn [newerSharer] [] olderSharer "2026-03-01T00:00:00Z" olderSharerRequest rfl rfl
    (List.Perm.swap newerSharer.xr olderSharer.xr []) rfl

theorem sharers_created : ReachableCluster [newerSharer, olderSharer] :=
  (Relation.ReflTransGen.refl.tail (ClusterStep.create [] olderSharer.xr (by simp) rfl)).tail
    (ClusterStep.create [olderSharer] newerSharer.xr (by decide) rfl)

theorem exclusive_sharers : Exclusive [newerSharer, olderSharer] := sharers_created.exclusive

/-- The first reconcile of the older of two sharers is its turn, and it takes the Secret. -/
theorem reconcile_refines_turn_sharers :
    heldKeys [newerSharer, olderSharerApplied] (identity olderSharer.xr) =
      some sharedSecret.key := by
  rw [(reconcile_refines_turn exclusive_sharers.recorded exclusive_sharers.distinct rfl
    slashFree_sharers olderSharer_reconciled).2]
  decide

/-- A reconcile claims nothing, what is requested or what is held. -/
theorem secret?_licenseClaim_cases {m : Member} {req : Request}
    (hsynced : secret? m.xr.statusLicense = secret? m.installed)
    (hobserved : observedLicenseObject req.observed = m.licenseObject)
    (hcomposite : req.composite = m.xr) :
    secret? req.licenseClaim = none ∨
      secret? req.licenseClaim = secret? m.xr.parameters.license ∨
        secret? req.licenseClaim = secret? m.xr.statusLicense := by
  have hparam : req.licenseParam = m.xr.parameters.license := by
    rw [Request.licenseParam, Request.params, hcomposite]
  by_cases htruthy : License.truthy req.licenseParam = true
  · by_cases hconflict : req.licenseConflict = ""
    · rw [licenseClaim_of_free htruthy hconflict, hparam]
      exact Or.inr (Or.inl rfl)
    · rw [secret?_licenseClaim_of_conflict hsynced hobserved htruthy hconflict]
      exact Or.inr (Or.inr rfl)
  · rw [licenseClaim_of_not_truthy htruthy]
    exact Or.inl rfl

/-- A reconcile with any view leaves the identities alone. -/
theorem Reconciled.distinct (hstep : Reconciled view who c d)
    (hdistinct : (c.map fun m => identity m.xr).Nodup) :
    (d.map fun m => identity m.xr).Nodup := by
  cases hstep with
  | turn before after m now req =>
    have hmap : (before ++ m.apply (reconcile now req) :: after).map (fun m => identity m.xr) =
        (before ++ m :: after).map fun m => identity m.xr := by
      rw [List.map_append, List.map_append, List.map_cons, List.map_cons]
      rfl
    rwa [hmap]

/-- Only the member whose turn it is becomes another one. -/
theorem Reconciled.mem_cases (hstep : Reconciled view who c d)
    (hdistinct : (c.map fun m => identity m.xr).Nodup) {o : Member} (ho : o ∈ d) :
    (o ∈ c ∧ identity o.xr ≠ who) ∨
      ∃ m ∈ c, ∃ now req, identity m.xr = who ∧ terminating m.xr = false ∧
        req.composite = m.xr ∧ observedLicenseObject req.observed = m.licenseObject ∧
          o = m.apply (reconcile now req) := by
  cases hstep with
  | turn before after m now req hlive hcomposite _ hobserved =>
    rw [List.map_append, List.map_cons, List.nodup_middle, List.nodup_cons, List.mem_append,
      not_or] at hdistinct
    rcases List.mem_append.mp ho with ho | ho
    · refine Or.inl ⟨List.mem_append_left _ ho, fun heq => hdistinct.1.1 ?_⟩
      exact heq ▸ List.mem_map_of_mem ho
    rcases List.mem_cons.mp ho with rfl | ho
    · exact Or.inr ⟨m, by simp, now, req, rfl, hlive, hcomposite, hobserved, rfl⟩
    · refine Or.inl ⟨List.mem_append_right _ (List.mem_cons_of_mem m ho), fun heq => ?_⟩
      exact hdistinct.1.2 (heq ▸ List.mem_map_of_mem ho)

@[simp] theorem Member.apply_parameters (m : Member) (rsp : Response) :
    (m.apply rsp).xr.parameters = m.xr.parameters := rfl

/-- A reconcile writes to the status what it installs. -/
theorem Member.apply_synced (m : Member) (now : String) (req : Request) :
    secret? (m.apply (reconcile now req)).xr.statusLicense =
      secret? (m.apply (reconcile now req)).installed := by
  rw [Member.apply_statusLicense, Member.apply_installed, secret?_status, secret?_licenseObject]

theorem Reconciled.recorded (hstep : Reconciled view who c d) (hc : Recorded c) : Recorded d where
  distinct := hstep.distinct hc.distinct
  synced := by
    intro o ho holive
    rcases hstep.mem_cases hc.distinct ho with ⟨ho, -⟩ | ⟨m, -, now, req, -, -, -, -, rfl⟩
    · exact hc.synced o ho holive
    · exact m.apply_synced now req

theorem SlashFree.reconciled (hnames : SlashFree c) (hc : Recorded c)
    (hstep : Reconciled view who c d) : SlashFree d := by
  intro o ho s hs
  rcases hstep.mem_cases hc.distinct ho with
    ⟨ho, -⟩ | ⟨m, hm, now, req, -, hlive, hcomposite, hobserved, rfl⟩
  · exact hnames o ho s hs
  rw [Member.apply_statusLicense, secret?_status] at hs
  rcases hs with hs | hs
  · exact hnames m hm s (Or.inl hs)
  rcases secret?_licenseClaim_cases (hc.synced m hm hlive) hobserved hcomposite with
    hnone | hrequested | hheld
  · rw [hnone] at hs
    cases hs
  · exact hnames m hm s (Or.inl (hrequested.symm.trans hs))
  · exact hnames m hm s (Or.inr (hheld.symm.trans hs))

theorem Reconciled.mem_members (hstep : Reconciled view who c d) : who ∈ (setting c).members := by
  cases hstep with
  | turn before after m now req hlive => exact mem_members_iff.mpr ⟨m, by simp, rfl, hlive⟩

end Refinement

/-! ### Runs of reconciles -/

section Runs

variable {turns : List (String × String)} {c d : List Member}

/-- A run of reconciles keeps the invariant and refines a run of turns. -/
structure Refines (turns : List (String × String)) (c d : List Member) : Prop where
  recorded : Recorded d
  slashFree : SlashFree d
  setting_eq : setting d = setting c
  heldKeys_eq : heldKeys d = (setting c).run (heldKeys c) turns
  mem_members : ∀ who ∈ turns, who ∈ (setting c).members

theorem Turns.refines (hc : Recorded c) (hnames : SlashFree c) (hrun : Turns turns c d) :
    Refines turns c d := by
  induction hrun with
  | nil c =>
    exact ⟨hc, hnames, rfl, rfl, by simp⟩
  | cons hstep _ ih =>
    have hheld := heldKeys_reconciled hc hc.distinct rfl hnames hstep
    have hsetting := hstep.setting_eq hc.distinct
    have hrest := ih (hstep.recorded hc) (hnames.reconciled hc hstep)
    refine ⟨hrest.recorded, hrest.slashFree, hrest.setting_eq.trans hsetting, ?_, ?_⟩
    · rw [hrest.heldKeys_eq, hsetting, hheld, Setting.run_cons]
    · intro who hwho
      rcases List.mem_cons.mp hwho with rfl | hwho
      · exact hstep.mem_members
      · exact hsetting ▸ hrest.mem_members who hwho

end Runs

end AzureCtp
