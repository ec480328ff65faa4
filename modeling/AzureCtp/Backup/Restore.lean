import AzureCtp.Backup.Rollout

/-!
# What a Restore opens

The BackupConfig of one control plane and the Restore of another describe the same
object store, each from its own parse of the location. Provider, bucket and
credentials come out equal; the `config` maps do not: the backup names the account
under `storage_account`, the key the object store reads, and the restore gives an
`endpoint`. A Restore therefore never names the account its backup was written to.

## Main results

* `objectStorage_ne_backupLocation`: the two descriptions differ, whatever the location
* `restore_never_matches`: so they do for every backup and restore of one location
-/

set_option autoImplicit false

namespace AzureCtp

open Component Document

/-- `spec.objectStorage` of the composed BackupConfig manifest. -/
def composedStorage (rsp : Response) : Option Value :=
  rsp.at? "backup-config" ["manifest", "spec", "objectStorage"]

/-- `spec.backupLocation` of the composed Restore manifest. -/
def composedLocation (rsp : Response) : Option Value :=
  rsp.at? "backup-restore" ["manifest", "spec", "backupLocation"]

/-- The account the object store finds in a description, through the key its
configuration reads. -/
def storeAccount (store : Value) : Option Value := store.at? ["config", "storage_account"]

theorem storeAccount_objectStorage (account container : String) :
    storeAccount (objectStorage account container) = some (.str account) := rfl

theorem storeAccount_backupLocation (account container : String) :
    storeAccount (backupLocation account container) = none := rfl

/-- The two descriptions differ in every location. -/
theorem objectStorage_ne_backupLocation (account container account' container' : String) :
    objectStorage account container ≠ backupLocation account' container' := by
  intro heq
  have haccount := congrArg storeAccount heq
  rw [storeAccount_objectStorage, storeAccount_backupLocation] at haccount
  cases haccount

/-- Outside the `config` map they agree. -/
theorem get?_objectStorage_eq_backupLocation {key : String} (hkey : key ≠ "config")
    (account container : String) :
    (objectStorage account container).get? key = (backupLocation account container).get? key := by
  have hconfig : (key == "config") = false := by simpa using hkey
  simp [objectStorage, backupLocation, List.lookup_cons, hconfig]

variable {now : String} {req : Request}

theorem composedStorage_reconcile
    (hmem : "backup-config" ∈ (reconcile now req).resources) :
    composedStorage (reconcile now req) =
      some (objectStorage req.storageAccount req.containerName) := by
  have hgate := (mem_reconcile_component .backupConfig).mp hmem
  refine (at?_reconcile .backupConfig _).trans ?_
  rw [if_pos hgate]
  rfl

theorem composedLocation_reconcile
    (hmem : "backup-restore" ∈ (reconcile now req).resources) :
    composedLocation (reconcile now req) =
      some (backupLocation (restoreSource req.installFrom).1
        (restoreSource req.installFrom).2.1) := by
  have hgate := (mem_reconcile_component .backupRestore).mp hmem
  refine (at?_reconcile .backupRestore _).trans ?_
  rw [if_pos hgate]
  rfl

/-- **A Restore never matches its backup.** Whatever location `L` a composed
BackupConfig writes to and a composed Restore reads from, the two manifests describe
different stores: they agree outside the `config` map, the object store finds the
account of `L` in the backup's, and none in the restore's. -/
theorem restore_never_matches {L : String} {now' : String} {req' : Request}
    (hbackup : req.backup.location = some L)
    (hconfig : "backup-config" ∈ (reconcile now req).resources)
    (hrestore : (req'.installFrom.bind (·.location)) = some L)
    (hmem : "backup-restore" ∈ (reconcile now' req').resources) :
    composedStorage (reconcile now req) ≠ composedLocation (reconcile now' req') ∧
      (∀ key, key ≠ "config" →
        (composedStorage (reconcile now req)).bind (·.get? key) =
          (composedLocation (reconcile now' req')).bind (·.get? key)) ∧
      (composedStorage (reconcile now req)).bind storeAccount =
        some (.str (parseBlobLocation L).1) ∧
      (composedLocation (reconcile now' req')).bind storeAccount = none := by
  have hsource : restoreSource req'.installFrom =
      ((parseBlobLocation L).1, (parseBlobLocation L).2,
        (req'.installFrom.getD {}).name.getD "") := by
    obtain ⟨source, hsource, hlocation⟩ := Option.bind_eq_some_iff.mp hrestore
    simp [restoreSource, hsource, hlocation]
  have hstorage : composedStorage (reconcile now req) =
      some (objectStorage (parseBlobLocation L).1 (parseBlobLocation L).2) := by
    rw [composedStorage_reconcile hconfig, Request.storageAccount, Request.containerName, hbackup]
    rfl
  have hlocation : composedLocation (reconcile now' req') =
      some (backupLocation (parseBlobLocation L).1 (parseBlobLocation L).2) := by
    rw [composedLocation_reconcile hmem, hsource]
  rw [hstorage, hlocation]
  -- the two are written alike but for the field `config`
  refine ⟨fun heq => ?_, fun key hkey => ?_, rfl, rfl⟩
  · exact objectStorage_ne_backupLocation _ _ _ _ (Option.some.inj heq)
  · exact get?_objectStorage_eq_backupLocation hkey _ _

/-- A control plane that writes its backups to `acct/backups`. -/
def writer : Request where
  composite :=
    { parameters :=
        { Parameters.required "cp-a" "eastus" { count := some 3 } with
          backup := some { enabled := some "yes", location := some "acct/backups" } } }

/-- A new control plane that restores from `acct/backups`. -/
def reader : Request where
  composite :=
    { parameters :=
        { Parameters.required "cp" "eastus" { count := some 3 } with
          backup := some
            { enabled := some "yes"
              location := some "acct2/backups"
              installFrom := some { location := some "acct/backups", name := some "nightly" } } } }
  observed := identityPending.observed

theorem writer_composes :
    "backup-config" ∈ (reconcile "2026-03-01T00:00:00Z" writer).resources :=
  (mem_reconcile_component .backupConfig).mpr (by decide)

theorem reader_composes :
    "backup-restore" ∈ (reconcile "2026-03-02T00:00:00Z" reader).resources :=
  (mem_reconcile_component .backupRestore).mpr (by decide)

/-- The object store finds no account where the reader restores from. -/
theorem restore_never_matches_reader :
    (composedLocation (reconcile "2026-03-02T00:00:00Z" reader)).bind storeAccount = none :=
  (restore_never_matches rfl writer_composes rfl reader_composes).2.2.2

/-- Writer and reader share an accepted location and describe different stores. -/
theorem reader_mismatches_writer :
    parseBlobLocation "acct/backups" = ("acct", "backups") ∧
      writer.backup.location = some "acct/backups" ∧
      reader.installFrom.bind (·.location) = some "acct/backups" ∧
      "backup-config" ∈ (reconcile "2026-03-01T00:00:00Z" writer).resources ∧
      "backup-restore" ∈ (reconcile "2026-03-02T00:00:00Z" reader).resources ∧
      composedStorage (reconcile "2026-03-01T00:00:00Z" writer) ≠
        composedLocation (reconcile "2026-03-02T00:00:00Z" reader) := by
  refine ⟨by decide, rfl, rfl, writer_composes, reader_composes, fun heq => ?_⟩
  rw [composedStorage_reconcile writer_composes, composedLocation_reconcile reader_composes,
    Option.some_inj] at heq
  exact objectStorage_ne_backupLocation _ _ _ _ heq

end AzureCtp
