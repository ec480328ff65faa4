import AzureCtp.License.Claim
import Mathlib.Data.List.Chain

/-!
# A live license is never stripped or swapped by the guard

Runs of reconciles of one ControlPlane. What the rounds see of their peers is
arbitrary; what links them is the `uxp-license-secret` Object: once composed, it is
what the next round observes. On a conflict the guard keeps the Secret read back from
that Object, so a wrong snapshot can delay a license but never take one away.

## Main results

* `Round.Follows.kept`: one round keeps the composed license
* `license_retained`: so does every later round of a run
-/

set_option autoImplicit false

namespace AzureCtp

namespace Round

/-- The Object the round composes, if any. -/
def object (r : Round) : Option Resource :=
  (reconcile r.now r.req).resources.lookup "uxp-license-secret"

/-- The Secret the round composes. -/
def installs (r : Round) : Option (String × String) := secret? (licenseOfObject r.object)

/-- The Secret the spec names at the round. -/
def requests (r : Round) : Option (String × String) := secret? r.req.licenseParam

/-- The round composes the license: the Object and the `License` resource. -/
def Composes (r : Round) : Prop :=
  "uxp-license-secret" ∈ (reconcile r.now r.req).resources ∧
    "uxp-license" ∈ (reconcile r.now r.req).resources

/-- What links a round to the next one: an Object that was composed is observed, and
a license that was requested is not removed. -/
structure Follows (a b : Round) : Prop where
  observes : ∀ o, a.object = some o → observedLicenseObject b.req.observed = some o
  requested : License.truthy a.req.licenseParam = true →
    License.truthy b.req.licenseParam = true

/-- What the guard allows from a round to the next one: the Secret stays or becomes
the requested one, and it changes without a conflict only. -/
structure Keeps (a b : Round) : Prop where
  kept : b.installs = a.installs ∨ b.installs = b.requests
  free : b.installs ≠ a.installs → b.installs = b.requests ∧
    checkLicenseConflict b.req.composite b.req.licenseParam b.req.allControlPlanes = ""

theorem installs_eq (r : Round) : r.installs = secret? r.req.licenseClaim :=
  secret?_licenseObject

end Round

/-- A run: each round follows the one before, and every requested license has a
non-empty name. -/
structure LicenseRun (run : List Round) : Prop where
  follows : run.IsChain Round.Follows
  named : ∀ r ∈ run, License.truthy r.req.licenseParam = true → r.requests.isSome = true

theorem Round.installs_isSome (r : Round) :
    r.installs.isSome = (licenseOfObject r.object).isSome :=
  secret?_installed_isSome r.object

namespace Round

theorem composes_of_installs {r : Round} (hinstalls : r.installs.isSome = true) : r.Composes := by
  have hclaim : r.req.gates.licenseClaimed = true := by
    rw [licenseClaimed_eq]
    rw [installs_eq] at hinstalls
    cases hclaim : r.req.licenseClaim with
    | none => simp [hclaim, secret?, secretOf] at hinstalls
    | some claim => rfl
  exact ⟨(mem_reconcile_component .uxpLicenseSecret).mpr hclaim,
    (mem_reconcile_component .uxpLicense).mpr hclaim⟩

/-- A round that composes the license composes a Secret with a name. -/
theorem installs_of_composes {r : Round}
    (hnamed : License.truthy r.req.licenseParam = true → r.requests.isSome = true)
    (hcomposes : r.Composes) :
    r.installs.isSome = true ∧ License.truthy r.req.licenseParam = true := by
  have hclaim : r.req.licenseClaim.isSome = true :=
    (mem_reconcile_component .uxpLicenseSecret).mp hcomposes.1
  have htruthy := truthy_of_licenseClaim hclaim
  refine ⟨?_, htruthy⟩
  rw [installs_eq]
  -- what is claimed is the requested license, or on a conflict the installed one
  by_cases hconflict : r.req.licenseConflict = ""
  · rw [licenseClaim_of_free htruthy hconflict]
    exact hnamed htruthy
  · rcases licenseClaim_of_conflict hconflict with hnone | hinstalled
    · rw [hnone] at hclaim
      cases hclaim
    · rw [hinstalled, getInstalledLicense_eq] at hclaim ⊢
      rwa [secret?_installed_isSome]

/-- One round keeps the composed license. -/
theorem Follows.kept {a b : Round} (hfollows : a.Follows b)
    (hnamed : License.truthy b.req.licenseParam = true → b.requests.isSome = true)
    (hinstalls : a.installs.isSome = true)
    (htruthy : License.truthy a.req.licenseParam = true) :
    b.installs.isSome = true ∧ a.Keeps b := by
  have htruthyb := hfollows.requested htruthy
  obtain ⟨o, ho⟩ : ∃ o, a.object = some o := by
    cases ho : a.object with
    | none => simp [installs, ho, licenseOfObject, secret?, secretOf] at hinstalls
    | some o => exact ⟨o, rfl⟩
  -- the guard reads back what the round before composed
  have hback : getInstalledLicense b.req.observed = licenseOfObject a.object := by
    rw [getInstalledLicense_eq, hfollows.observes o ho, ho]
  by_cases hconflict : b.req.licenseConflict = ""
  · have hclaim : b.installs = b.requests := by
      rw [installs_eq, licenseClaim_of_free htruthyb hconflict, requests]
    exact ⟨by rw [hclaim]; exact hnamed htruthyb, Or.inr hclaim, fun _ => ⟨hclaim, hconflict⟩⟩
  · have hinstalled : (getInstalledLicense b.req.observed).isSome = true := by
      rw [hback, ← installs_isSome]
      exact hinstalls
    have hclaim : b.installs = a.installs := by
      rw [installs_eq, licenseClaim_of_installed hconflict htruthyb hinstalled, hback]
      rfl
    exact ⟨hclaim.symm ▸ hinstalls, Or.inl hclaim, fun hne => absurd hclaim hne⟩

/-- Every later round keeps the composed license. -/
theorem kept_along {after : List Round} : ∀ {a : Round},
    (a :: after).IsChain Follows →
    (∀ r ∈ after, License.truthy r.req.licenseParam = true → r.requests.isSome = true) →
    a.installs.isSome = true → License.truthy a.req.licenseParam = true →
      (∀ r ∈ after, r.installs.isSome = true) ∧ (a :: after).IsChain Keeps := by
  induction after with
  | nil => exact fun _ _ _ _ => ⟨by simp, List.isChain_singleton _⟩
  | cons b rest ih =>
    intro a hchain hnamed hinstalls htruthy
    obtain ⟨hfollows, hrest⟩ := List.isChain_cons_cons.mp hchain
    obtain ⟨hinstallsb, hkeeps⟩ :=
      hfollows.kept (hnamed b List.mem_cons_self) hinstalls htruthy
    obtain ⟨hall, hkept⟩ := ih hrest (fun r hr => hnamed r (List.mem_cons_of_mem b hr))
      hinstallsb (hfollows.requested htruthy)
    exact ⟨List.forall_mem_cons.mpr ⟨hinstallsb, hall⟩,
      List.isChain_cons_cons.mpr ⟨hkeeps, hkept⟩⟩

end Round

/-- **License retention.** Once a round of a run has composed the license, every
later round composes it, with the Secret composed before or the one the spec now
names, and the Secret changes only at a round without a conflict. -/
theorem license_retained {before after : List Round} {a : Round}
    (hrun : LicenseRun (before ++ a :: after)) (hcomposed : a.Composes) :
    (∀ r ∈ after, r.Composes) ∧ (a :: after).IsChain Round.Keeps := by
  obtain ⟨-, hchain, -⟩ := List.isChain_append.mp hrun.follows
  have hnamed : ∀ r ∈ a :: after, License.truthy r.req.licenseParam = true →
      r.requests.isSome = true := fun r hr => hrun.named r (List.mem_append_right before hr)
  obtain ⟨hnameda, hnamedafter⟩ := List.forall_mem_cons.mp hnamed
  obtain ⟨hinstalls, htruthy⟩ := Round.installs_of_composes hnameda hcomposed
  obtain ⟨hall, hkeeps⟩ := Round.kept_along hchain hnamedafter hinstalls htruthy
  exact ⟨fun r hr => Round.composes_of_installs (hall r hr), hkeeps⟩

/-- What is observed when the Object a round composed is all there is. -/
def Round.observedAfter (r : Round) : Observed :=
  match r.object with
  | some o => (∅ : Observed).insert "uxp-license-secret" { o with }
  | none => ∅

theorem Round.observedLicenseObject_observedAfter (r : Round) :
    observedLicenseObject r.observedAfter = r.object := by
  unfold observedAfter observedLicenseObject
  cases r.object with
  | none => rfl
  | some o =>
    simp only [AList.lookup_insert]
    rfl

/-- The first reconcile of a sharer, with an empty list of peers. -/
def firstRound : Round where
  now := "2026-03-01T00:00:00Z"
  req := { composite := sharer "cp-a" "2026-01-01T00:00:00Z" }

/-- A license that refers to another Secret. -/
def otherLicense : License where
  secretRef := some { name := some "uxp-license-other", ns := some "crossplane-system" }

/-- The next reconcile, with the license moved to a Secret that a peer holds. -/
def movedRound : Round where
  now := "2026-03-02T00:00:00Z"
  req :=
    { composite :=
        { sharer "cp-a" "2026-01-01T00:00:00Z" with parameters := { license := some otherLicense } }
      observed := firstRound.observedAfter
      allControlPlanes :=
        [{ sharer "cp-b" "2026-02-01T00:00:00Z" with statusLicense := some otherLicense }] }

theorem movedRound_run : LicenseRun [firstRound, movedRound] where
  follows := by
    refine List.isChain_cons_cons.mpr ⟨⟨fun o ho => ?_, fun _ => by decide⟩,
      List.isChain_singleton movedRound⟩
    exact (Round.observedLicenseObject_observedAfter firstRound).trans ho
  named := by decide

/-- The move is refused: the Secret composed before is kept. -/
theorem license_retained_moved :
    movedRound.Composes ∧ movedRound.installs = firstRound.installs := by
  have hinstalls : firstRound.installs.isSome = true := by
    rw [Round.installs_eq]
    decide
  obtain ⟨hcomposes, hkeeps⟩ :=
    @license_retained [] [movedRound] firstRound movedRound_run
      (Round.composes_of_installs hinstalls)
  have hmoved := (List.isChain_cons_cons.mp hkeeps).1
  refine ⟨hcomposes movedRound List.mem_cons_self, ?_⟩
  by_contra hne
  exact absurd (hmoved.free hne).2 (by decide)

end AzureCtp
