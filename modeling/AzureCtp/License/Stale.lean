import AzureCtp.License.Turns

/-!
# Claims under views from a cache

The list of peers a reconcile is served comes from a cache, and each entry of it may be as
old as any moment of the run. Between two edits that does not let a Secret get a second
holder. A claim given up is given up for another one, which its requester is the first to
want; so whoever holds a Secret held it at every earlier moment or is its first claimant,
and a view of any age shows one or the other.

## Main results

* `QuietRun.step`: a reconcile with a view of any age keeps the invariant
* `stale_views_exclusive`: in such runs no two live members hold the same Secret
-/

set_option autoImplicit false

namespace AzureCtp

open Claims

variable {past : List (List Member)} {c d e view : List Member} {who : String × String}

/-- A list of members from a cache: each member at most once and as it was at some moment
of the past, and all that are live now among them. -/
structure Cached (past : List (List Member)) (d view : List Member) : Prop where
  distinct : (view.map fun m => identity m.xr).Nodup
  seen : ∀ m ∈ view, ∃ p ∈ past, m ∈ p
  complete : ∀ m ∈ d, terminating m.xr = false → ∃ o ∈ view, identity o.xr = identity m.xr

/-- A run of reconciles from the cluster, each served a list from the cache, with the
clusters it passes through. -/
inductive CachedTurns (c : List Member) : List (List Member) → List Member → Prop
  | start : CachedTurns c [c] c
  | turn {past : List (List Member)} {d view e : List Member} {who : String × String}
      (hrun : CachedTurns c past d) (hview : Cached past d view) (hstep : Reconciled view who d e) :
      CachedTurns c (e :: past) e

/-- No two live members hold Secrets with one key, on what the members hold. -/
theorem Exclusive.heldKeys (hc : Exclusive c) : (setting c).Exclusive (heldKeys c) := by
  intro i hi j hj k hheldi hheldj
  obtain ⟨a, ha, rfl, hlivea⟩ := mem_members_iff.mp hi
  obtain ⟨b, hb, rfl, hliveb⟩ := mem_members_iff.mp hj
  rw [heldKeys_identity hc.distinct ha hlivea, Member.heldKey, Option.map_eq_some_iff] at hheldi
  rw [heldKeys_identity hc.distinct hb hliveb, Member.heldKey, Option.map_eq_some_iff] at hheldj
  obtain ⟨s, hs, hkeys⟩ := hheldi
  obtain ⟨t, ht, hkeyt⟩ := hheldj
  by_contra hne
  exact hc.apart a ha b hb hne hlivea hliveb s t hs ht (hkeys.trans hkeyt.symm)

theorem exclusive_of_heldKeys (hdistinct : (c.map fun m => identity m.xr).Nodup)
    (hsynced : ∀ m ∈ c, secret? m.xr.statusLicense = secret? m.installed)
    (hheld : (setting c).Exclusive (heldKeys c)) : Exclusive c where
  distinct := hdistinct
  synced := hsynced
  apart := by
    intro a ha b hb hne hlivea hliveb s t hs ht hkey
    refine hne (hheld _ (mem_members_iff.mpr ⟨a, ha, rfl, hlivea⟩) _
      (mem_members_iff.mpr ⟨b, hb, rfl, hliveb⟩) (keyOf s) ?_ ?_)
    · rw [heldKeys_identity hdistinct ha hlivea, Member.heldKey, hs, Option.map_some]
    · rw [heldKeys_identity hdistinct hb hliveb, Member.heldKey, ht, Option.map_some, hkey]

/-- What holds of a run in which only reconciles happen. -/
structure QuietRun (c : List Member) (past : List (List Member)) (d : List Member) : Prop where
  current : d ∈ past
  exclusive : ∀ p ∈ past, Exclusive p
  slashFree : ∀ p ∈ past, SlashFree p
  setting_eq : ∀ p ∈ past, setting p = setting c
  stale : Setting.Stale (setting c) (past.map heldKeys) (heldKeys d)

namespace QuietRun

/-- A list from the cache shows each member as it was at some moment. -/
theorem exists_liveMember?_eq (hquiet : QuietRun c past d) (hview : Cached past d view)
    (who : String × String) : ∃ p ∈ past, liveMember? view who = liveMember? p who := by
  cases hfind : liveMember? view who with
  | some o =>
    obtain ⟨ho, hid, holive⟩ := (liveMember?_eq_some_iff hview.distinct).mp hfind
    obtain ⟨p, hp, hop⟩ := hview.seen o ho
    exact ⟨p, hp, ((liveMember?_eq_some_iff (hquiet.exclusive p hp).distinct).mpr
      ⟨hop, hid, holive⟩).symm⟩
  | none =>
    refine ⟨d, hquiet.current, ?_⟩
    cases hnow : liveMember? d who with
    | none => rfl
    | some m =>
      -- the cache lists every live member, and it was live at every moment
      have hd := (hquiet.exclusive d hquiet.current).distinct
      obtain ⟨hm, hid, hlive⟩ := (liveMember?_eq_some_iff hd).mp hnow
      obtain ⟨o, ho, hoid⟩ := hview.complete m hm hlive
      obtain ⟨p, hp, hop⟩ := hview.seen o ho
      have hwho : who ∈ (setting p).members := by
        rw [hquiet.setting_eq p hp, ← hquiet.setting_eq d hquiet.current]
        exact mem_members_iff.mpr ⟨m, hm, hid, hlive⟩
      obtain ⟨o', ho', hid', holive'⟩ := mem_members_iff.mp hwho
      have heq : o' = o := List.inj_on_of_nodup_map (hquiet.exclusive p hp).distinct ho' hop
        (hid'.trans (hid.symm.trans hoid.symm))
      have hsome := (liveMember?_eq_some_iff hview.distinct).mpr
        ⟨ho, hoid.trans hid, heq ▸ holive'⟩
      rw [hfind] at hsome
      cases hsome

theorem slashFree_view (hquiet : QuietRun c past d) (hview : Cached past d view) :
    SlashFree view := by
  intro m hm
  obtain ⟨p, hp, hmp⟩ := hview.seen m hm
  exact hquiet.slashFree p hp m hmp

theorem mem_members_view_iff (hquiet : QuietRun c past d) (hview : Cached past d view) :
    who ∈ (setting view).members ↔ who ∈ (setting c).members := by
  obtain ⟨p, hp, heq⟩ := hquiet.exists_liveMember?_eq hview who
  rw [← hquiet.setting_eq p hp, mem_members_iff, mem_members_iff]
  have hfound : ∀ q : List Member, (q.map fun m => identity m.xr).Nodup →
      ((∃ m ∈ q, identity m.xr = who ∧ terminating m.xr = false) ↔
        ∃ m, liveMember? q who = some m) := by
    intro q hq
    simp only [liveMember?_eq_some_iff hq]
  rw [hfound view hview.distinct, hfound p (hquiet.exclusive p hp).distinct, heq]

/-- A list from the cache shows the setting as it is. -/
theorem setting_view (hquiet : QuietRun c past d) (hview : Cached past d view) :
    setting view = setting c := by
  apply Setting.ext
  · ext who
    exact hquiet.mem_members_view_iff hview
  · funext who
    obtain ⟨p, hp, heq⟩ := hquiet.exists_liveMember?_eq hview who
    rw [← hquiet.setting_eq p hp]
    simp only [setting, heq]
  · funext who
    obtain ⟨p, hp, heq⟩ := hquiet.exists_liveMember?_eq hview who
    rw [← hquiet.setting_eq p hp]
    simp only [setting, heq]

/-- A reconcile served a list from the cache keeps the invariant. -/
theorem step (hquiet : QuietRun c past d) (hview : Cached past d view)
    (hstep : Reconciled view who d e) : QuietRun c (e :: past) e := by
  have hd := hquiet.exclusive d hquiet.current
  have hsame := hquiet.setting_eq d hquiet.current
  have hsettingView := (hquiet.setting_view hview).trans hsame.symm
  have hnames := hquiet.slashFree_view hview
  have hsetting : setting e = setting c := (hstep.setting_eq hd.distinct).trans hsame
  have hheld : heldKeys e = (setting c).step (heldKeys view) (heldKeys d) who := by
    rw [heldKeys_reconciled hd.recorded hview.distinct hsettingView hnames hstep, hsame]
  have hseen : ∀ j, ∃ h ∈ past.map heldKeys, heldKeys view j = h j := by
    intro j
    obtain ⟨p, hp, heq⟩ := hquiet.exists_liveMember?_eq hview j
    refine ⟨heldKeys p, List.mem_map_of_mem hp, ?_⟩
    rw [heldKeys, heldKeys, heq]
  have hexclusive : Exclusive e := by
    refine exclusive_of_heldKeys (hstep.distinct hd.distinct) (fun o ho => ?_) ?_
    · rcases hstep.mem_cases hd.distinct ho with ⟨ho, -⟩ | ⟨m, -, now, req, -, -, -, -, rfl⟩
      · exact hd.synced o ho
      · exact m.apply_synced now req
    · rw [hsetting, hheld]
      refine Setting.Exclusive.step hquiet.stale ?_ hseen (hsame ▸ hstep.mem_members)
      rw [← hsame]
      exact hd.heldKeys
  refine ⟨List.mem_cons_self, ?_, ?_, ?_, ?_⟩
  · exact List.forall_mem_cons.mpr ⟨hexclusive, hquiet.exclusive⟩
  · exact List.forall_mem_cons.mpr
      ⟨(hquiet.slashFree d hquiet.current).reconciled hd.recorded hstep, hquiet.slashFree⟩
  · exact List.forall_mem_cons.mpr ⟨hsetting, hquiet.setting_eq⟩
  · rw [List.map_cons, hheld]
    exact Setting.Stale.turn hquiet.stale hseen

end QuietRun

/-- A run of reconciles served from the cache keeps the invariant. -/
theorem CachedTurns.quietRun (hc : Exclusive c) (hnames : SlashFree c)
    (hrun : CachedTurns c past d) : QuietRun c past d := by
  induction hrun with
  | start =>
    refine ⟨List.mem_cons_self, ?_, ?_, ?_, Setting.Stale.start _⟩
    · exact List.forall_mem_singleton.mpr hc
    · exact List.forall_mem_singleton.mpr hnames
    · exact List.forall_mem_singleton.mpr rfl
  | turn _ hview hstep ih => exact ih.step hview hstep

/-- **Exclusivity with stale views.** Between two edits of a reachable cluster, where each
reconcile may see every peer as it was at any earlier moment of the run, no two distinct
live ControlPlanes hold the same Secret, in status or installed. -/
theorem stale_views_exclusive (hreach : ReachableCluster c) (hnames : SlashFree c)
    (hrun : CachedTurns c past d) {a b : Member} (ha : a ∈ d) (hb : b ∈ d)
    (hne : identity a.xr ≠ identity b.xr) (hlivea : terminating a.xr = false)
    (hliveb : terminating b.xr = false) (s : String × String) : ¬ (a.Holds s ∧ b.Holds s) := by
  rintro ⟨hholdsa, hholdsb⟩
  have hquiet := hrun.quietRun hreach.exclusive hnames
  have hd := hquiet.exclusive d hquiet.current
  exact hd.apart a ha b hb hne hlivea hliveb s s (hd.status_of_holds ha hholdsa)
    (hd.status_of_holds hb hholdsb) rfl

/-- The newer sharer's reconcile, served the list from before the older one took the
Secret. -/
def newerSharerRequest : Request where
  composite := newerSharer.xr
  allControlPlanes := [olderSharer.xr, newerSharer.xr]

/-- The newer sharer after its reconcile. -/
def newerSharerApplied : Member :=
  newerSharer.apply (reconcile "2026-03-01T00:00:05Z" newerSharerRequest)

theorem cached_sharers {past : List (List Member)} (hpast : [newerSharer, olderSharer] ∈ past)
    {d : List Member} (hd : d.map (fun m => identity m.xr) =
      [newerSharer, olderSharer].map fun m => identity m.xr) :
    Cached past d [newerSharer, olderSharer] where
  distinct := exclusive_sharers.distinct
  seen := fun _ hm => ⟨_, hpast, hm⟩
  complete := by
    intro m hm _
    exact List.mem_map.mp (hd ▸ List.mem_map_of_mem hm)

theorem sharers_cachedTurns : CachedTurns [newerSharer, olderSharer]
    [[newerSharerApplied, olderSharerApplied], [newerSharer, olderSharerApplied],
      [newerSharer, olderSharer]] [newerSharerApplied, olderSharerApplied] := by
  have hfirst := CachedTurns.start.turn (cached_sharers List.mem_cons_self rfl)
    olderSharer_reconciled
  have hsecond : Reconciled [newerSharer, olderSharer] (identity newerSharer.xr)
      [newerSharer, olderSharerApplied] [newerSharerApplied, olderSharerApplied] :=
    Reconciled.turn [] [olderSharerApplied] newerSharer "2026-03-01T00:00:05Z"
      newerSharerRequest rfl rfl (List.Perm.swap newerSharer.xr olderSharer.xr []) rfl
  exact hfirst.turn (cached_sharers (by simp) rfl) hsecond

/-- The newer sharer does not take the Secret the older one holds, though the list it is
served does not show that yet. -/
theorem stale_views_exclusive_sharers :
    olderSharerApplied.Holds ("crossplane-system", "uxp-license-shared") ∧
      ¬ newerSharerApplied.Holds ("crossplane-system", "uxp-license-shared") := by
  have hholds : olderSharerApplied.Holds ("crossplane-system", "uxp-license-shared") := by
    refine Or.inl ?_
    rw [olderSharerApplied, Member.apply_statusLicense, secret?_status]
    decide
  refine ⟨hholds, fun hnewer => ?_⟩
  exact stale_views_exclusive sharers_created slashFree_sharers sharers_cachedTurns
    (List.mem_cons_of_mem newerSharerApplied List.mem_cons_self) List.mem_cons_self (by decide)
    rfl rfl _ ⟨hholds, hnewer⟩

end AzureCtp
