import AzureCtp.Backup.Rollout

/-!
# installFrom over a run

A Restore is composed from the `installFrom` of the reconcile at hand: neither the
observed Object nor anything else carries the first one on. So the manifest is applied
once as long as the source it names is not edited, and an edit re-targets it.

## Main results

* `restoreManifest_eq_iff`: two rounds compose one manifest when they name one source
* `appliedOnce_iff`: a run applies `installFrom` once exactly when no round edits it
-/

set_option autoImplicit false

namespace AzureCtp

open Component Document

namespace Round

/-- The Restore manifest the round composes. -/
def restoreManifest (r : Round) : Option Value :=
  (reconcile r.now r.req).at? "backup-restore" ["manifest"]

/-- Backup is enabled and workload identity is set up. -/
structure GatesOpen (r : Round) : Prop where
  backup : r.req.backupEnabled = true
  issuer : r.req.oidcIssuerUrl ≠ ""
  uxp : r.req.uxpDeployed = true

/-- What links a round to the next one of the control plane: the Object composed last is
observed, and an edit of `installFrom` leads to one that can be restored from. -/
structure Reinstalls (prev next : Round) : Prop where
  id : prev.req.idVal = next.req.idVal
  observes : (next.req.observed.lookup "backup-restore").map ObservedResource.toResource =
    (reconcile prev.now prev.req).resources.lookup "backup-restore"
  edits : next.req.installFrom = prev.req.installFrom ∨ restorable next.req.installFrom = true

/-- A source that is restored from stays as it is. -/
def KeepsSource (prev next : Round) : Prop :=
  restorable prev.req.installFrom = true →
    restoreSource next.req.installFrom = restoreSource prev.req.installFrom

end Round

/-- A run of reconciles of one control plane with open gates. -/
structure InstallFromRun (run : List Round) : Prop where
  gates : ∀ r ∈ run, r.GatesOpen
  reinstalls : run.IsChain Round.Reinstalls

/-- Once a round has composed the Restore, every later one composes the same manifest. -/
def AppliedOnce (run : List Round) : Prop :=
  run.Pairwise fun earlier later =>
    "backup-restore" ∈ (reconcile earlier.now earlier.req).resources →
      later.restoreManifest = earlier.restoreManifest

/-! ### One round -/

/-- The Restore manifest of a source. -/
def restoreManifestOf (idVal : String) (source : String × String × String) : Value :=
  .dict [
    ("apiVersion", "admin.uxp.upbound.io/v1beta1"),
    ("kind", "Restore"),
    ("metadata", .dict [("name", idVal ++ "-restore")]),
    ("spec", .dict [
      ("backupRef", .dict [("name", source.2.2)]),
      ("backupLocation", backupLocation source.1 source.2.1)])]

/-- A manifest names its source. -/
theorem restoreManifestOf_injective (idVal : String) :
    Function.Injective (restoreManifestOf idVal) := by
  rintro ⟨account, container, name⟩ ⟨account', container', name'⟩ heq
  have hname := congrArg (·.at? ["spec", "backupRef", "name"]) heq
  have hbucket := congrArg (·.at? ["spec", "backupLocation", "bucket"]) heq
  have hendpoint := congrArg (·.at? ["spec", "backupLocation", "config", "endpoint"]) heq
  have hreads : ∀ source : String × String × String,
      (restoreManifestOf idVal source).at? ["spec", "backupRef", "name"] =
        some (.str source.2.2) ∧
      (restoreManifestOf idVal source).at? ["spec", "backupLocation", "bucket"] =
        some (.str source.2.1) ∧
      (restoreManifestOf idVal source).at? ["spec", "backupLocation", "config", "endpoint"] =
        some (.str (source.1 ++ ".blob.core.windows.net")) := fun _ => ⟨rfl, rfl, rfl⟩
  simp only [hreads, Option.some.injEq, Value.str.injEq, String.append_left_inj]
    at hname hbucket hendpoint
  rw [hname, hbucket, hendpoint]

namespace Round

variable {a b r : Round}

theorem composes_iff (hgates : r.GatesOpen) :
    "backup-restore" ∈ (reconcile r.now r.req).resources ↔
      restorable r.req.installFrom = true := by
  refine (mem_reconcile_component .backupRestore).trans ?_
  have hissuer := bne_iff_ne.mpr hgates.issuer
  simp [gate, Request.gates, hgates.backup, hissuer, hgates.uxp]

theorem restoreManifest_eq (hgates : r.GatesOpen) :
    r.restoreManifest = if restorable r.req.installFrom then
      some (restoreManifestOf r.req.idVal (restoreSource r.req.installFrom)) else none := by
  have hgate := (mem_reconcile_component .backupRestore).symm.trans (composes_iff hgates)
  refine (at?_reconcile .backupRestore _).trans ?_
  split_ifs with hopen hrestorable hrestorable
  · rfl
  · exact absurd (hgate.mp hopen) hrestorable
  · exact absurd (hgate.mpr hrestorable) hopen
  · rfl

/-- Two rounds compose one manifest when they name one source. -/
theorem restoreManifest_eq_iff (ha : a.GatesOpen) (hb : b.GatesOpen)
    (hid : a.req.idVal = b.req.idVal) (hrestorable : restorable a.req.installFrom = true) :
    b.restoreManifest = a.restoreManifest ↔
      restoreSource b.req.installFrom = restoreSource a.req.installFrom := by
  rw [restoreManifest_eq ha, restoreManifest_eq hb, if_pos hrestorable, hid]
  constructor
  · intro heq
    split_ifs at heq with hb'
    exact restoreManifestOf_injective b.req.idVal (Option.some.inj heq)
  · intro hsource
    have hb' : restorable b.req.installFrom = true := by
      rw [restorable, hsource]
      exact hrestorable
    rw [if_pos hb', hsource]

theorem KeepsSource.trans {c : Round} (hab : a.KeepsSource b) (hbc : b.KeepsSource c) :
    a.KeepsSource c := by
  intro hrestorable
  have hb : restorable b.req.installFrom = true := by
    rw [restorable, hab hrestorable]
    exact hrestorable
  exact (hbc hb).trans (hab hrestorable)

instance : Trans KeepsSource KeepsSource KeepsSource := ⟨KeepsSource.trans⟩

end Round

/-! ### Runs -/

/-- The rounds of a run are of one control plane. -/
theorem InstallFromRun.idVal_eq {run : List Round} (hrun : InstallFromRun run) {a b : Round}
    (ha : a ∈ run) (hb : b ∈ run) : a.req.idVal = b.req.idVal := by
  let SameId : Round → Round → Prop := fun a b => a.req.idVal = b.req.idVal
  have : Trans SameId SameId SameId := ⟨Eq.trans⟩
  have : Std.Symm SameId := ⟨fun _ _ => Eq.symm⟩
  have hpairs : run.Pairwise SameId :=
    List.isChain_iff_pairwise.mp (hrun.reinstalls.imp fun _ _ h => h.id)
  by_cases hab : a = b
  · rw [hab]
  · exact hpairs.forall ha hb hab

/-- **installFrom is applied once** in a run exactly when no round edits the source that
the round before restored from. -/
theorem appliedOnce_iff {run : List Round} (hrun : InstallFromRun run) :
    AppliedOnce run ↔ run.IsChain Round.KeepsSource := by
  rw [List.isChain_iff_pairwise]
  refine List.Pairwise.iff_of_mem fun {a b} ha hb => ?_
  rw [Round.composes_iff (hrun.gates a ha)]
  exact imp_congr_right fun hrestorable =>
    Round.restoreManifest_eq_iff (hrun.gates a ha) (hrun.gates b hb) (hrun.idVal_eq ha hb)
      hrestorable

/-- A control plane that restores the given backup. -/
def restoring (name : String) (observed : Observed) : Request where
  composite :=
    { parameters :=
        { Parameters.required "cp" "eastus" { count := some 3 } with
          backup := some
            { enabled := some "yes"
              location := some "acct2/backups"
              installFrom := some { location := some "acct/backups", name := some name } } } }
  observed := observed

/-- Its first reconcile restores the backup `nightly`. -/
def firstRestore : Round := ⟨"2026-03-01T00:00:00Z", restoring "nightly" identityPending.observed⟩

/-- The next reconcile observes the Restore. -/
def nextRestore (name : String) : Round :=
  ⟨"2026-03-02T00:00:00Z", restoring name (identityPending.observed.insert "backup-restore"
    ((Component.backupRestore.composed firstRestore.now firstRestore.req).observedWith {}))⟩

theorem firstRestore_composes :
    "backup-restore" ∈ (reconcile firstRestore.now firstRestore.req).resources :=
  (mem_reconcile_component .backupRestore).mpr (by decide)

theorem nextRestore_run {name : String}
    (hname : restorable (nextRestore name).req.installFrom = true) :
    InstallFromRun [firstRestore, nextRestore name] := by
  have hissuer : "https://eastus.oic.example/cp" ≠ "" := by decide
  refine ⟨fun r hr => ?_, List.isChain_cons_cons.mpr
    ⟨⟨rfl, ?_, Or.inr hname⟩, List.IsChain.singleton _⟩⟩
  · rcases List.mem_pair.mp hr with rfl | rfl
    · exact ⟨rfl, hissuer, rfl⟩
    · exact ⟨rfl, hissuer, rfl⟩
  · have hcomposed : (reconcile firstRestore.now firstRestore.req).resources.lookup
        "backup-restore" = some (Component.backupRestore.composed firstRestore.now
          firstRestore.req) :=
      (lookup_reconcile_component .backupRestore).mpr
        ⟨(mem_reconcile_component .backupRestore).mp firstRestore_composes, rfl⟩
    exact hcomposed.symm

/-- The same source again is applied once. -/
theorem appliedOnce_iff_nightly : AppliedOnce [firstRestore, nextRestore "nightly"] :=
  (appliedOnce_iff (nextRestore_run (by decide))).mpr
    (List.isChain_cons_cons.mpr ⟨fun _ => rfl, List.IsChain.singleton _⟩)

/-- An edit to the backup `weekly` re-targets the Restore. -/
theorem not_appliedOnce_weekly :
    InstallFromRun [firstRestore, nextRestore "weekly"] ∧
      ¬ AppliedOnce [firstRestore, nextRestore "weekly"] := by
  have hrun : InstallFromRun [firstRestore, nextRestore "weekly"] :=
    nextRestore_run (by decide)
  refine ⟨hrun, fun honce => ?_⟩
  have hkept := (List.pairwise_cons.mp honce).1 _ List.mem_cons_self firstRestore_composes
  rw [Round.restoreManifest_eq_iff (hrun.gates _ List.mem_cons_self)
    (hrun.gates _ (List.mem_cons_of_mem _ List.mem_cons_self)) rfl (by decide)] at hkept
  revert hkept
  decide

end AzureCtp
