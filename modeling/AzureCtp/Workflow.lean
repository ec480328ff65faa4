import AzureCtp.Model.Workflow
import AzureCtp.Provision

/-!
# What a green provisioning job means

The job runs the passes that some file names, and succeeds when they do. A pass needs every
file to be readable, the credentials, a file that is no template with a mode of the pass, a
test run that succeeds on exactly those files, and, to decommission, two polls in a row at
which no managed resource is left. So a green job leaves no control plane out that asks for
a pass, and a red one has a cause among these.

## Main results

* `two_le_pollLoop_iff`: when the poll loop ends drained
* `job_green_iff`: when the job is green
* `green_job_covers`: a green job has acted on every control plane that asked for it
-/

set_option autoImplicit false

namespace AzureCtp.Provision

open Scripts Scripts.Node

/-! ### Polling -/

/-- A poll that succeeds and lists nothing. -/
def listsNothing (poll : Option String) : Bool :=
  poll.any fun printed => countLines (commandSubstitution printed) == 0

theorem pollLoop_eq (polls : List (Option String)) (zeros : ℕ) :
    pollLoop polls zeros = countInARow listsNothing 2 polls zeros := by
  induction polls generalizing zeros with
  | nil => rfl
  | cons poll polls ih =>
    cases poll with
    | none => exact ih 0
    | some printed =>
      simp only [pollLoop, countInARow, listsNothing, Option.any_some, beq_iff_eq, ih]

/-- The loop ends drained exactly when two polls in a row succeed and list nothing. -/
theorem two_le_pollLoop_iff {polls : List (Option String)} :
    pollLoop polls 0 ≥ 2 ↔ ∃ i x y, polls[i]? = some x ∧ polls[i + 1]? = some y ∧
      listsNothing x = true ∧ listsNothing y = true := by
  rw [pollLoop_eq]
  exact two_le_countInARow_iff

variable {r : Runner} {env : Environment} {folder : Folder} {decommission : Bool} {f : File}

theorem getElem?_polled {i : ℕ} {poll : Option String} :
    r.polled[i]? = some poll ↔ i < 30 ∧ r.polls (i + 1) = poll := by
  by_cases hi : i < 30
  · rw [Runner.polled, List.getElem?_map, List.getElem?_range' hi, Option.map_some,
      Option.some_inj, and_iff_right hi]
    rw [show 1 + 1 * i = i + 1 by omega]
  · refine iff_of_false ?_ fun h => hi h.1
    have hlength : r.polled.length ≤ i := by
      rw [Runner.polled, List.length_map, List.length_range']
      omega
    rw [List.getElem?_eq_none hlength]
    exact Option.some_ne_none poll |>.symm

/-! ### Passes -/

/-- The credentials, the folder and the model let the generator emit the test of the pass,
and only then does it end well. -/
theorem generator_eq_ok_iff {tests : List E2ETest} :
    generator r.e2etest decommission env (some folder) = .ok tests ↔
      (env.creds ≠ "" ∧ Readable folder ∧ folder.manifests decommission ≠ [] ∧
        r.e2etest (folder.manifests decommission) = .ok ()) ∧
        tests = [e2eTest decommission env.creds (folder.manifests decommission)] := by
  by_cases hcreds : env.creds = ""
  · refine iff_of_false ?_ fun h => h.1.1 hcreds
    simp only [generator, if_pos hcreds]
    rintro ⟨⟩
  · simp only [generator, if_neg hcreds, bind_eq_ok_iff, items_eq_ok_iff]
    constructor
    · rintro ⟨tests', ⟨hreadable, ⟨-, rfl⟩ | ⟨hmanifests, haccepted, rfl⟩⟩, htests⟩
      · cases htests
      · exact ⟨⟨hcreds, hreadable, hmanifests, haccepted⟩, (Except.ok.inj htests).symm⟩
    · rintro ⟨⟨-, hreadable, hmanifests, haccepted⟩, rfl⟩
      exact ⟨_, ⟨hreadable, Or.inr ⟨hmanifests, haccepted, rfl⟩⟩, rfl⟩

/-- What a pass needs for its step to succeed. -/
structure PassDone (r : Runner) (env : Environment) (folder : Folder) (decommission : Bool) :
    Prop where
  creds : env.creds ≠ ""
  readable : Readable folder
  /-- Some file that is no template has a mode of the pass. -/
  explicit : ∃ f ∈ folder.yaml, f.isTemplate = false ∧ f.Explicit decommission
  accepted : r.e2etest (folder.manifests decommission) = .ok ()
  /-- The test run succeeds on the files that the pass takes, and no others. -/
  tested : r.up decommission
    (.ok [e2eTest decommission env.creds (folder.manifests decommission)]) = true
  /-- A node is found, and two polls in a row list nothing. -/
  drained : decommission = true → r.node ≠ "" ∧
    ∃ i, 1 ≤ i ∧ i < 30 ∧ listsNothing (r.polls i) = true ∧ listsNothing (r.polls (i + 1)) = true

/-- The decommission step waits for two polls in a row. -/
theorem pollLoop_polled_iff : pollLoop r.polled 0 ≥ 2 ↔
    ∃ i, 1 ≤ i ∧ i < 30 ∧ listsNothing (r.polls i) = true ∧
      listsNothing (r.polls (i + 1)) = true := by
  simp only [two_le_pollLoop_iff, getElem?_polled]
  constructor
  · rintro ⟨i, _, _, ⟨-, rfl⟩, ⟨hi, rfl⟩, hfirst, hsecond⟩
    exact ⟨i + 1, by omega, hi, hfirst, hsecond⟩
  · rintro ⟨i, hpos, hi, hfirst, hsecond⟩
    obtain ⟨j, rfl⟩ : ∃ j, i = j + 1 := ⟨i - 1, by omega⟩
    exact ⟨j, _, _, ⟨by omega, rfl⟩, ⟨hi, rfl⟩, hfirst, hsecond⟩

section Up

variable (hup : ∀ decommission error, r.up decommission (.error error) = false)

include hup

theorem testRun_iff : r.testRun env folder decommission = true ↔
    (env.creds ≠ "" ∧ Readable folder ∧ folder.manifests decommission ≠ [] ∧
      r.e2etest (folder.manifests decommission) = .ok ()) ∧
      r.up decommission
        (.ok [e2eTest decommission env.creds (folder.manifests decommission)]) = true := by
  unfold Runner.testRun
  cases hgenerator : generator r.e2etest decommission env (some folder) with
  | error error =>
    refine iff_of_false (by rw [hup]; exact Bool.false_ne_true) ?_
    rintro ⟨hready, -⟩
    rw [generator_eq_ok_iff.mpr ⟨hready, rfl⟩] at hgenerator
    cases hgenerator
  | ok tests =>
    obtain ⟨hready, rfl⟩ := generator_eq_ok_iff.mp hgenerator
    exact (and_iff_right hready).symm

/-- The step of a pass succeeds exactly when the pass has all it needs. -/
theorem passStep_iff :
    r.passStep env folder decommission = true ↔ PassDone r env folder decommission := by
  have htest : r.testRun env folder decommission = true ∧ (decommission = true → r.node ≠ "" ∧
      pollLoop r.polled 0 ≥ 2) ↔ PassDone r env folder decommission := by
    rw [testRun_iff hup, manifests_ne_nil_iff, pollLoop_polled_iff]
    constructor
    · rintro ⟨⟨⟨hcreds, hreadable, hexplicit, haccepted⟩, htested⟩, hdrained⟩
      exact ⟨hcreds, hreadable, hexplicit, haccepted, htested, hdrained⟩
    · rintro ⟨hcreds, hreadable, hexplicit, haccepted, htested, hdrained⟩
      exact ⟨⟨⟨hcreds, hreadable, hexplicit, haccepted⟩, htested⟩, hdrained⟩
  rw [← htest]
  cases decommission with
  | false => simp [Runner.passStep]
  | true => simp [Runner.passStep, Runner.decommissionStep, and_assoc]

end Up

/-! ### The job -/

/-- The classify step reads every file, or the job stops there. -/
theorem classify_isSome_iff (hyq : YqReads r.yq) : (classify r.yq folder).isSome = true ↔
    ∀ f ∈ folder.yaml, f.loaded.meetsList managementModePath = false := by
  have hloop : (∃ scope, classify r.yq folder = some scope ∧ True) ↔
      (∀ f ∈ folder.yaml, (r.yq f.doc).map commandSubstitution ≠ none) ∧
        (True ∨ ∃ f ∈ folder.yaml, ∃ mode,
          (r.yq f.doc).map commandSubstitution = some mode ∧ True) :=
    @foldlM_map_iff _ _ _ folder.yaml (fun f => (r.yq f.doc).map commandSubstitution) Scope.mark
      (fun _ => True) (fun _ => True) (fun _ _ => (or_self_iff).symm) {}
  simp only [and_true, true_or, yq_ne_none_iff hyq] at hloop
  rw [Option.isSome_iff_exists, hloop]

/-- The job is green when it gets past the classify step and every pass that then runs
succeeds. -/
theorem job_eq_true_iff : r.job env folder = true ↔ (classify r.yq folder).isSome = true ∧
    ∀ decommission, Sets r.yq folder decommission →
      r.passStep env folder decommission = true := by
  unfold Runner.job Sets
  cases classify r.yq folder with
  | none => simp
  | some scope =>
    simp only [Bool.and_eq_true, Bool.or_eq_true, Bool.not_eq_true', ← Bool.not_eq_true,
      ← imp_iff_not_or, Option.isSome_some, true_and, Option.some.injEq, exists_eq_left',
      Bool.forall_bool]

/-- In a green job a pass that some file names has all it needs. -/
theorem passDone_of_job (hyq : YqReads r.yq)
    (hup : ∀ decommission error, r.up decommission (.error error) = false)
    (hgreen : r.job env folder = true) (hnames : folder.Names decommission) :
    PassDone r env folder decommission := by
  obtain ⟨hread, hpasses⟩ := job_eq_true_iff.mp hgreen
  refine (passStep_iff hup).mp (hpasses decommission ?_)
  exact (sets_iff hyq).mpr ⟨(classify_isSome_iff hyq).mp hread, hnames⟩

/-- **When the job is green.** Exactly when no file has a sequence on the path to its mode,
and every pass that some file names has all it needs. -/
theorem job_green_iff (r : Runner) (env : Environment) (folder : Folder) (hyq : YqReads r.yq)
    (hup : ∀ decommission error, r.up decommission (.error error) = false) :
    r.job env folder = true ↔
      (∀ f ∈ folder.yaml, f.loaded.meetsList managementModePath = false) ∧
        ∀ decommission, folder.Names decommission → PassDone r env folder decommission := by
  constructor
  · intro hgreen
    exact ⟨(classify_isSome_iff hyq).mp (job_eq_true_iff.mp hgreen).1,
      fun decommission => passDone_of_job hyq hup hgreen⟩
  · rintro ⟨hread, hpasses⟩
    refine job_eq_true_iff.mpr ⟨(classify_isSome_iff hyq).mpr hread, fun decommission hsets => ?_⟩
    exact (passStep_iff hup).mpr (hpasses decommission ((sets_iff hyq).mp hsets).2)

/-- **No false green.** In a green job every control plane whose file explicitly asks for a
pass, and is no template, was in a test run of that pass that succeeded, together with
control planes that ask for the same pass only; and if it asks to be decommissioned, two
polls in a row listed no managed resource. -/
theorem green_job_covers (hyq : YqReads r.yq)
    (hup : ∀ decommission error, r.up decommission (.error error) = false)
    (hgreen : r.job env folder = true) (hf : f ∈ folder.yaml) (htemplate : f.isTemplate = false)
    (hexplicit : f.Explicit decommission) :
    (∃ test, generator r.e2etest decommission env (some folder) = .ok [test] ∧
      r.up decommission (.ok [test]) = true ∧ f.loaded ∈ test.spec.manifests ∧
      ∀ manifest ∈ test.spec.manifests, ∃ mode ∈ modes decommission,
        manifest.at? managementModePath = some (.str mode)) ∧
    (decommission = true → ∃ i, 1 ≤ i ∧ i < 30 ∧ listsNothing (r.polls i) = true ∧
      listsNothing (r.polls (i + 1)) = true) := by
  have hdone : PassDone r env folder decommission :=
    passDone_of_job hyq hup hgreen ⟨f, hf, named_of_explicit hexplicit⟩
  refine ⟨⟨e2eTest decommission env.creds (folder.manifests decommission), ?_, hdone.tested, ?_,
    fun manifest hmanifest => mode_of_mem_manifests hmanifest⟩, fun h => (hdone.drained h).2⟩
  · exact generator_eq_ok_iff.mpr
      ⟨⟨hdone.creds, hdone.readable, manifests_ne_nil_iff.mpr hdone.explicit, hdone.accepted⟩,
        rfl⟩
  · have htaken : f.taken decommission = some f.loaded := by
      have hne := taken_ne_none_iff.mpr ⟨htemplate, hexplicit⟩
      unfold File.taken at hne ⊢
      split_ifs at hne ⊢ with hwanted
      · rfl
      · exact absurd rfl hne
    exact List.mem_filterMap.mpr ⟨f, hf, htaken⟩

/-! ### A run -/

/-- A runner on which every test run succeeds, and nothing is listed from the third poll
on. -/
def calmRunner : Runner where
  yq := printMode
  e2etest _ := .ok ()
  up _ result := result.toOption.isSome
  node := "up-control-plane"
  polls i :=
    if i < 2 then none
    else if i = 2 then some "account.storage.azure.m.upbound.io/cp2   True   True\n"
    else some ""

theorem calmRunner_up (decommission : Bool) (error : String) :
    calmRunner.up decommission (.error error) = false := rfl

/-- The job is green on a folder with a control plane for each pass. -/
theorem job_green_pipeline :
    calmRunner.job { upCloudCredentials := some "e30=" } pipelineFolder = true := by
  refine (job_green_iff calmRunner _ _ yqReads_printMode calmRunner_up).mpr
    ⟨by decide, fun decommission _ => ?_⟩
  have hexplicit : ∃ f ∈ pipelineFolder.yaml, f.isTemplate = false ∧ f.Explicit decommission := by
    cases decommission with
    | false => exact ⟨_, List.mem_cons_self, rfl, "Provision", by decide, rfl⟩
    | true =>
      exact ⟨_, List.mem_cons_of_mem _ List.mem_cons_self, rfl, "Deprovision", by decide, rfl⟩
  exact
    { creds := by decide
      readable := by
        unfold Readable
        decide
      explicit := hexplicit
      accepted := rfl
      tested := rfl
      drained := fun _ => ⟨by decide, 3, by decide, by decide, by decide, by decide⟩ }

/-- So its second control plane was decommissioned. -/
theorem green_job_covers_pipeline :
    ∃ i, 1 ≤ i ∧ i < 30 ∧ listsNothing (calmRunner.polls i) = true ∧
      listsNothing (calmRunner.polls (i + 1)) = true := by
  have hgreen : calmRunner.job { upCloudCredentials := some "e30=" } pipelineFolder = true := by
    decide
  have hmem : { name := "cp2.yaml", doc := some (controlPlane "Deprovision") } ∈
      pipelineFolder.yaml := List.mem_cons_of_mem _ List.mem_cons_self
  exact (green_job_covers yqReads_printMode calmRunner_up hgreen hmem rfl
    ⟨"Deprovision", List.mem_singleton_self _, rfl⟩).2 rfl

end AzureCtp.Provision
