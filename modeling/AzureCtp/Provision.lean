import AzureCtp.Model.Provision

/-!
# The provisioning workflow and its generators

The classify step decides which passes run, the generators which files a pass acts on.
`ClassifiedAlike` says that they agree, and that a file without an explicit mode makes no
difference. They disagree about templates, which only the generators skip, about documents
that are not mappings along the path, which only the generators fail on, and about modes
that end with a newline, which only the workflow accepts.

## Main results

* `sets_iff`: when the workflow runs a pass
* `emits_iff`: when the generator of a pass emits a test
* `mode_of_generator`: a pass acts on control planes in its own modes only
* `classifiedAlike_iff`: when they agree
-/

set_option autoImplicit false

namespace AzureCtp.Provision

open Scripts Scripts.Node

/-! ### What is to agree -/

/-- The modes that a pass acts on. -/
def modes (decommission : Bool) : List String :=
  if decommission then ["Deprovision"] else ["Provision", "ObserveOnly"]

namespace File

/-- The mode that the file has. -/
def mode? (f : File) : Option Node := f.loaded.at? managementModePath

/-- The file has a mode that the pass acts on. -/
def Explicit (decommission : Bool) (f : File) : Prop :=
  ∃ mode ∈ modes decommission, f.mode? = some (.str mode)

/-- The file has such a mode as a shell reads it, without null characters and without the
newlines at its end. -/
def named (decommission : Bool) (f : File) : Bool :=
  match f.mode? with
  | some (.str mode) => decide (commandSubstitution mode ∈ modes decommission)
  | _ => false

/-- The file names some pass. -/
def inPipeline (f : File) : Bool := f.named false || f.named true

end File

/-- The classify step ends with the output of the pass set. -/
def Sets (yq : Option Node → Option String) (folder : Folder) (decommission : Bool) : Prop :=
  ∃ scope, classify yq folder = some scope ∧ scope.output decommission = true

/-- The generator ends with a test that has a manifest. -/
def Emits (result : Except String (List E2ETest)) : Prop :=
  ∃ tests, result = .ok tests ∧ ∃ test ∈ tests, test.spec.manifests ≠ []

/-- The workflow and its generators classify the files of the folder alike. -/
structure ClassifiedAlike (yq : Option Node → Option String)
    (e2etest : List Node → Except String Unit) (env : Environment) (folder : Folder) :
    Prop where
  agree : ∀ decommission,
    Sets yq folder decommission ↔ Emits (generator e2etest decommission env (some folder))
  disjoint : ∀ f ∈ folder.yaml, ∀ manifest manifest',
    f.manifest false = .ok (some manifest) → f.manifest true ≠ .ok (some manifest')
  /-- Leaving out files without an explicit mode changes neither outcome. -/
  ignored : ∀ keep : File → Bool,
    (∀ f ∈ folder.files, (∃ decommission, f.Explicit decommission) → keep f = true) →
    ∀ decommission,
      (Sets yq (folder.only keep) decommission ↔ Sets yq folder decommission) ∧
      (Emits (generator e2etest decommission env (some (folder.only keep))) ↔
        Emits (generator e2etest decommission env (some folder)))

/-- How `yq` reads the mode of a file: it prints a string and a newline, fails at a
sequence on the path, and prints anything else as what is not a mode. -/
structure YqReads (yq : Option Node → Option String) : Prop where
  string : ∀ (f : File) (s : String), f.mode? = some (.str s) → yq f.doc = some (s ++ "\n")
  list : ∀ f : File, f.loaded.meetsList managementModePath = true → yq f.doc = none
  other : ∀ f : File, (∀ s, f.mode? ≠ some (.str s)) →
    f.loaded.meetsList managementModePath = false →
    ∃ printed, yq f.doc = some printed ∧
      ∀ decommission, commandSubstitution printed ∉ modes decommission

variable {yq : Option Node → Option String} {e2etest : List Node → Except String Unit}
  {env : Environment} {folder : Folder} {decommission : Bool} {f : File}

/-! ### The files -/

theorem yaml_only {keep : File → Bool} : (folder.only keep).yaml = folder.yaml.filter keep := by
  unfold Folder.yaml Folder.only
  rw [List.filter_filter, List.filter_filter]
  apply List.filter_congr
  intro f _
  exact Bool.and_comm _ _

theorem mem_yaml_only {keep : File → Bool} :
    f ∈ (folder.only keep).yaml ↔ f ∈ folder.yaml ∧ keep f = true := by
  rw [yaml_only, List.mem_filter]

theorem mem_files_of_mem_yaml (hf : f ∈ folder.yaml) : f ∈ folder.files :=
  List.mem_of_mem_filter hf

/-- A mode of a pass is one line, so a shell reads it as it is. -/
theorem commandSubstitution_mode {mode : String} (hmode : mode ∈ modes decommission) :
    commandSubstitution mode = mode := by
  cases decommission with
  | false =>
    rcases List.mem_pair.mp hmode with rfl | rfl
    · decide
    · decide
  | true =>
    rw [List.mem_singleton.mp hmode]
    decide

theorem named_iff : f.named decommission = true ↔
    ∃ s, f.mode? = some (.str s) ∧ commandSubstitution s ∈ modes decommission := by
  unfold File.named
  split
  next mode hmode => simp [hmode]
  next hother =>
    refine iff_of_false (by simp) ?_
    rintro ⟨s, hs, -⟩
    exact hother s hs

theorem named_of_explicit (hexplicit : f.Explicit decommission) :
    f.named decommission = true := by
  obtain ⟨mode, hmode, hf⟩ := hexplicit
  refine named_iff.mpr ⟨mode, hf, ?_⟩
  rwa [commandSubstitution_mode hmode]

theorem inPipeline_iff : f.inPipeline = true ↔ ∃ decommission, f.named decommission = true := by
  rw [File.inPipeline, Bool.or_eq_true, Bool.exists_bool]

/-- A file with a mode has no sequence on the path. -/
theorem meetsList_of_named (hnamed : f.named decommission = true) :
    f.loaded.meetsList managementModePath = false := by
  obtain ⟨s, hs, -⟩ := named_iff.mp hnamed
  exact meetsList_of_mapsAlong (mapsAlong_of_at? hs)

/-- No mode is of both passes. -/
theorem not_mem_modes_both {mode : String} (hreconcile : mode ∈ modes false) :
    mode ∉ modes true := by
  intro hdecommission
  rw [List.mem_singleton.mp hdecommission] at hreconcile
  exact absurd hreconcile (by decide)

/-! ### The workflow -/

/-- One file sets the output of the pass that its mode is of. -/
theorem output_mark (scope : Scope) (mode : String) :
    (scope.mark mode).output decommission = true ↔
      scope.output decommission = true ∨ mode ∈ modes decommission := by
  unfold Scope.mark
  split_ifs with hdeprovision hreconcile
  · subst hdeprovision
    cases decommission with
    | false => simp [Scope.output, modes]
    | true => simp [Scope.output, modes]
  · cases decommission with
    | false => simpa [Scope.output, modes] using Or.inr hreconcile
    | true => simp [Scope.output, modes, hdeprovision]
  · cases decommission with
    | false => simp [Scope.output, modes, not_or.mp hreconcile]
    | true => simp [Scope.output, modes, hdeprovision]

/-- The shell can read a file's mode unless there is a sequence on the path. -/
theorem yq_ne_none_iff (hyq : YqReads yq) :
    (yq f.doc).map commandSubstitution ≠ none ↔
      f.loaded.meetsList managementModePath = false := by
  rw [ne_eq, Option.map_eq_none_iff, ← ne_eq]
  constructor
  · intro hread
    by_contra hlist
    exact hread (hyq.list f (eq_true_of_ne_false hlist))
  · intro hlist
    by_cases hstring : ∃ s, f.mode? = some (.str s)
    · obtain ⟨s, hs⟩ := hstring
      rw [hyq.string f s hs]
      exact Option.some_ne_none _
    · obtain ⟨printed, hprinted, -⟩ := hyq.other f (not_exists.mp hstring) hlist
      rw [hprinted]
      exact Option.some_ne_none _

/-- What the shell reads is a mode of the pass exactly when the file names it. -/
theorem yq_mode_iff (hyq : YqReads yq) :
    (∃ mode, (yq f.doc).map commandSubstitution = some mode ∧ mode ∈ modes decommission) ↔
      f.named decommission = true := by
  rw [named_iff]
  constructor
  · rintro ⟨mode, hread, hmode⟩
    by_cases hstring : ∃ s, f.mode? = some (.str s)
    · obtain ⟨s, hs⟩ := hstring
      rw [hyq.string f s hs, Option.map_some, commandSubstitution_newline] at hread
      exact ⟨s, hs, Option.some.inj hread ▸ hmode⟩
    · cases hlist : f.loaded.meetsList managementModePath with
      | true =>
        rw [hyq.list f hlist] at hread
        cases hread
      | false =>
        obtain ⟨printed, hprinted, hnone⟩ := hyq.other f (not_exists.mp hstring) hlist
        rw [hprinted, Option.map_some] at hread
        exact absurd (Option.some.inj hread ▸ hmode) (hnone decommission)
  · rintro ⟨s, hs, hmode⟩
    rw [hyq.string f s hs, Option.map_some, commandSubstitution_newline]
    exact ⟨_, rfl, hmode⟩

/-- The workflow runs a pass when it can read every file and some file names the pass. -/
theorem sets_iff (hyq : YqReads yq) :
    Sets yq folder decommission ↔
      (∀ f ∈ folder.yaml, f.loaded.meetsList managementModePath = false) ∧
        ∃ f ∈ folder.yaml, f.named decommission = true := by
  have hinit : ({} : Scope).output decommission = false := by
    cases decommission with
    | false => rfl
    | true => rfl
  calc
    Sets yq folder decommission
    _ ↔ (∀ f ∈ folder.yaml, (yq f.doc).map commandSubstitution ≠ none) ∧
          (({} : Scope).output decommission = true ∨ ∃ f ∈ folder.yaml, ∃ mode,
            (yq f.doc).map commandSubstitution = some mode ∧ mode ∈ modes decommission) :=
      foldlM_map_iff (fun scope mode => output_mark scope mode) {}
    _ ↔ _ := by simp only [yq_ne_none_iff hyq, yq_mode_iff hyq, hinit, Bool.false_eq_true, false_or]

/-! ### The generators -/

/-- A mode is read through mappings only; what is not given reads as `None`. -/
theorem managementMode_eq_ok_iff {controlPlane mode : Node} :
    managementMode controlPlane = .ok mode ↔
      controlPlane.mapsAlong managementModePath = true ∧
        mode = (controlPlane.at? managementModePath).getD .null := by
  have hempty (key : String) : (Node.map []).get? key = none := rfl
  have hmap : (Node.map []).isMap = true := rfl
  unfold managementMode managementModePath
  simp only [bind_eq_ok_iff, getOr_eq_ok_iff, mapsAlong, at?]
  cases hspec : controlPlane.get? "spec" with
  | none => simp [hempty, hmap]
  | some spec =>
    cases hparameters : spec.get? "parameters" with
    | none => simp [hempty, hmap, hparameters, and_assoc]
    | some parameters => simp [hparameters, and_assoc]

theorem wanted_iff {mode : Node} :
    wanted decommission mode = true ↔ ∃ s ∈ modes decommission, mode = .str s := by
  unfold wanted modes
  cases decommission with
  | false => simp [isStr_iff]
  | true => simp [isStr_iff]

/-- What a pass takes from a file that it can read. -/
def File.taken (decommission : Bool) (f : File) : Option Node :=
  if f.isTemplate = false ∧ wanted decommission (f.mode?.getD .null) = true then some f.loaded
  else none

/-- The documents that a pass takes from the folder. -/
def Folder.manifests (decommission : Bool) (folder : Folder) : List Node :=
  folder.yaml.filterMap (File.taken decommission)

/-- A generator fails on a file that is no template and has no mappings along the path. -/
theorem manifest_eq_ok_iff (f : File) (item : Option Node) :
    f.manifest decommission = .ok item ↔
      (f.isTemplate = false → f.loaded.mapsAlong managementModePath = true) ∧
        item = f.taken decommission := by
  unfold File.manifest File.taken File.mode?
  cases f.isTemplate with
  | true =>
    simp only [if_true, Bool.true_eq_false, false_and, if_false, false_implies, true_and,
      Except.ok.injEq]
    exact eq_comm
  | false =>
    simp only [Bool.false_eq_true, if_false, bind_eq_ok_iff, managementMode_eq_ok_iff,
      true_and, forall_const]
    constructor
    · rintro ⟨mode, ⟨hmaps, rfl⟩, hitem⟩
      exact ⟨hmaps, (Except.ok.inj hitem).symm⟩
    · rintro ⟨hmaps, rfl⟩
      exact ⟨_, ⟨hmaps, rfl⟩, rfl⟩

/-- A pass takes the files that explicitly have one of its modes, except templates. -/
theorem taken_ne_none_iff :
    f.taken decommission ≠ none ↔ f.isTemplate = false ∧ f.Explicit decommission := by
  have hmode : wanted decommission (f.mode?.getD .null) = true ↔ f.Explicit decommission := by
    rw [wanted_iff, File.Explicit]
    cases f.mode? with
    | none => simp
    | some mode => simp
  unfold File.taken
  rw [← hmode, ne_eq, ite_eq_right_iff]
  simp

/-- No file is taken by both passes. -/
theorem taken_disjoint (hreconcile : f.taken false ≠ none) : f.taken true = none := by
  by_contra hdecommission
  obtain ⟨-, mode, hmode, hf⟩ := taken_ne_none_iff.mp hreconcile
  obtain ⟨-, mode', hmode', hf'⟩ := taken_ne_none_iff.mp hdecommission
  rw [hf, Option.some.injEq, Node.str.injEq] at hf'
  exact not_mem_modes_both hmode (hf' ▸ hmode')

theorem manifests_ne_nil_iff :
    folder.manifests decommission ≠ [] ↔
      ∃ f ∈ folder.yaml, f.isTemplate = false ∧ f.Explicit decommission := by
  unfold Folder.manifests
  rw [ne_eq, List.filterMap_eq_nil_iff]
  simp only [← taken_ne_none_iff, not_forall, exists_prop, ne_eq]

/-- The generator can read every file of the folder that is no template. -/
def Readable (folder : Folder) : Prop :=
  ∀ f ∈ folder.yaml, f.isTemplate = false → f.loaded.mapsAlong managementModePath = true

/-- A pass has one test with all its manifests, or no test if there are none. -/
theorem items_eq_ok_iff {creds : String} {tests : List E2ETest} :
    items e2etest decommission creds folder = .ok tests ↔
      Readable folder ∧
        (folder.manifests decommission = [] ∧ tests = [] ∨
          folder.manifests decommission ≠ [] ∧
            e2etest (folder.manifests decommission) = .ok () ∧
            tests = [e2eTest decommission creds (folder.manifests decommission)]) := by
  have hcollect (manifests : List Node) :
      collect (File.manifest decommission) folder.yaml = .ok manifests ↔
        Readable folder ∧ manifests = folder.manifests decommission :=
    collect_eq_ok_iff manifest_eq_ok_iff
  simp only [items, bind_eq_ok_iff, hcollect, and_assoc, exists_and_left, exists_eq_left]
  refine and_congr_right fun _ => ?_
  by_cases hnil : folder.manifests decommission = []
  · simp only [hnil, List.isEmpty_nil, if_true, Except.ok.injEq, ne_eq, not_true_eq_false,
      false_and, or_false, true_and]
    exact eq_comm
  · have hempty : (folder.manifests decommission).isEmpty = false := by simpa using hnil
    simp only [hnil, hempty, Bool.false_eq_true, if_false, bind_eq_ok_iff, Except.ok.injEq,
      ne_eq, not_false_eq_true, false_and, false_or, true_and]
    exact ⟨fun ⟨_, haccepted, htests⟩ => ⟨haccepted, htests.symm⟩,
      fun ⟨haccepted, htests⟩ => ⟨(), haccepted, htests.symm⟩⟩

/-- A generator emits a test when it can read every file, takes one of them, and the
manifests are accepted. -/
theorem emits_iff (hcreds : env.creds ≠ "") :
    Emits (generator e2etest decommission env (some folder)) ↔
      Readable folder ∧ folder.manifests decommission ≠ [] ∧
        e2etest (folder.manifests decommission) = .ok () := by
  simp only [Emits, generator, if_neg hcreds, bind_eq_ok_iff, items_eq_ok_iff]
  constructor
  · rintro ⟨tests, ⟨tests', ⟨hreadable, ⟨-, rfl⟩ | ⟨hmanifests, haccepted, -⟩⟩, htests⟩, -⟩
    · cases htests
    · exact ⟨hreadable, hmanifests, haccepted⟩
  · rintro ⟨hreadable, hmanifests, haccepted⟩
    exact ⟨_, ⟨_, ⟨hreadable, Or.inr ⟨hmanifests, haccepted, rfl⟩⟩, rfl⟩, _,
      List.mem_singleton_self _, hmanifests⟩

/-- What a pass takes is in one of its modes. -/
theorem mode_of_mem_manifests {manifest : Node}
    (hmanifest : manifest ∈ folder.manifests decommission) :
    ∃ mode ∈ modes decommission, manifest.at? managementModePath = some (.str mode) := by
  obtain ⟨f, -, htaken⟩ := List.mem_filterMap.mp hmanifest
  have hne : f.taken decommission ≠ none := htaken ▸ Option.some_ne_none manifest
  obtain ⟨-, mode, hmode, hf⟩ := taken_ne_none_iff.mp hne
  have hloaded : manifest = f.loaded := by
    unfold File.taken at htaken
    split_ifs at htaken
    exact (Option.some.inj htaken).symm
  exact ⟨mode, hmode, hloaded ▸ hf⟩

/-- Whatever the folder holds, a generator only ever acts on control planes in one of the
modes of its pass. -/
theorem mode_of_generator {tests : List E2ETest} {test : E2ETest} {manifest : Node}
    (hgenerator : generator e2etest decommission env (some folder) = .ok tests)
    (htest : test ∈ tests) (hmanifest : manifest ∈ test.spec.manifests) :
    ∃ mode ∈ modes decommission, manifest.at? managementModePath = some (.str mode) := by
  by_cases hcreds : env.creds = ""
  · rw [generator, if_pos hcreds] at hgenerator
    cases hgenerator
  · simp only [generator, if_neg hcreds, bind_eq_ok_iff, items_eq_ok_iff] at hgenerator
    obtain ⟨tests', ⟨-, htests'⟩, hok⟩ := hgenerator
    rcases htests' with ⟨-, rfl⟩ | ⟨-, -, rfl⟩
    · cases hok
    · obtain rfl := Except.ok.inj hok
      obtain rfl := List.mem_singleton.mp htest
      exact mode_of_mem_manifests hmanifest

/-! ### Where they agree -/

namespace Folder

/-- Some file names the pass. -/
def Names (decommission : Bool) (folder : Folder) : Prop :=
  ∃ f ∈ folder.yaml, f.named decommission = true

/-- Both sides can act on the folder in the pass. -/
structure Serves (e2etest : List Node → Except String Unit) (decommission : Bool)
    (folder : Folder) : Prop where
  /-- A file that is no template has a mode of the pass to the letter. -/
  explicit : ∃ f ∈ folder.yaml, f.isTemplate = false ∧ f.Explicit decommission
  readable : Readable folder
  /-- No template has a sequence on the path. -/
  templates : ∀ f ∈ folder.yaml, f.isTemplate = true →
    f.loaded.meetsList managementModePath = false
  accepted : e2etest (folder.manifests decommission) = .ok ()

/-- The folder serves every pass that is named in it. -/
def Served (e2etest : List Node → Except String Unit) (folder : Folder) : Prop :=
  ∀ decommission, folder.Names decommission → folder.Serves e2etest decommission

end Folder

/-- In such a folder the workflow runs the passes that are named. -/
theorem sets_iff_names (hyq : YqReads yq) (hserved : folder.Served e2etest) :
    Sets yq folder decommission ↔ folder.Names decommission := by
  rw [sets_iff hyq]
  refine ⟨And.right, fun hnames => ⟨fun f hf => ?_, hnames⟩⟩
  have hserves := hserved decommission hnames
  cases htemplate : f.isTemplate with
  | true => exact hserves.templates f hf htemplate
  | false => exact meetsList_of_mapsAlong (hserves.readable f hf htemplate)

/-- In such a folder the generators of the passes that are named emit a test. -/
theorem emits_iff_names (hcreds : env.creds ≠ "") (hserved : folder.Served e2etest) :
    Emits (generator e2etest decommission env (some folder)) ↔ folder.Names decommission := by
  rw [emits_iff hcreds]
  constructor
  · rintro ⟨-, hmanifests, -⟩
    obtain ⟨f, hf, -, hexplicit⟩ := manifests_ne_nil_iff.mp hmanifests
    exact ⟨f, hf, named_of_explicit hexplicit⟩
  · intro hnames
    have hserves := hserved decommission hnames
    exact ⟨hserves.readable, manifests_ne_nil_iff.mpr hserves.explicit, hserves.accepted⟩

section Ignored

variable {keep : File → Bool}
  (hkeep : ∀ f ∈ folder.files, (∃ decommission, f.Explicit decommission) → keep f = true)

include hkeep

/-- Leaving out files without an explicit mode leaves the manifests. -/
theorem manifests_only :
    (folder.only keep).manifests decommission = folder.manifests decommission := by
  unfold Folder.manifests
  rw [yaml_only, List.filterMap_filter]
  apply List.filterMap_congr
  intro f hf
  by_cases htaken : f.taken decommission = none
  · rw [htaken, ite_self]
  · obtain ⟨-, hexplicit⟩ := taken_ne_none_iff.mp htaken
    rw [if_pos (hkeep f (mem_files_of_mem_yaml hf) ⟨decommission, hexplicit⟩)]

/-- What serves a pass still does. -/
theorem serves_only (hserves : folder.Serves e2etest decommission) :
    (folder.only keep).Serves e2etest decommission := by
  obtain ⟨f, hf, htemplate, hexplicit⟩ := hserves.explicit
  have hkept := hkeep f (mem_files_of_mem_yaml hf) ⟨decommission, hexplicit⟩
  exact
    { explicit := ⟨f, mem_yaml_only.mpr ⟨hf, hkept⟩, htemplate, hexplicit⟩
      readable := fun f hf => hserves.readable f (mem_yaml_only.mp hf).1
      templates := fun f hf => hserves.templates f (mem_yaml_only.mp hf).1
      accepted := by
        rw [manifests_only hkeep]
        exact hserves.accepted }

/-- The passes that are named stay the same. -/
theorem names_only (hserved : folder.Served e2etest) :
    (folder.only keep).Names decommission ↔ folder.Names decommission := by
  constructor
  · rintro ⟨f, hf, hnamed⟩
    exact ⟨f, (mem_yaml_only.mp hf).1, hnamed⟩
  · intro hnames
    obtain ⟨f, hf, -, hexplicit⟩ := (serves_only hkeep (hserved decommission hnames)).explicit
    exact ⟨f, hf, named_of_explicit hexplicit⟩

theorem served_only (hserved : folder.Served e2etest) : (folder.only keep).Served e2etest :=
  fun decommission hnames =>
    serves_only hkeep (hserved decommission ((names_only hkeep hserved).mp hnames))

end Ignored

/-- The workflow runs the pass if only the files that name one are left: it can read them
all. -/
theorem sets_only_inPipeline (hyq : YqReads yq) (hnames : folder.Names decommission) :
    Sets yq (folder.only File.inPipeline) decommission := by
  rw [sets_iff hyq]
  constructor
  · intro f hf
    obtain ⟨pass, hnamed⟩ := inPipeline_iff.mp (mem_yaml_only.mp hf).2
    exact meetsList_of_named hnamed
  · obtain ⟨f, hf, hnamed⟩ := hnames
    exact ⟨f, mem_yaml_only.mpr ⟨hf, inPipeline_iff.mpr ⟨decommission, hnamed⟩⟩, hnamed⟩

/-- **The provisioning workflow and its generators classify files alike** exactly in folders
that serve every pass that a file names. -/
theorem classifiedAlike_iff (yq : Option Node → Option String)
    (e2etest : List Node → Except String Unit) (env : Environment) (folder : Folder)
    (hyq : YqReads yq) (hcreds : env.creds ≠ "") :
    ClassifiedAlike yq e2etest env folder ↔
      ∀ decommission, folder.Names decommission → folder.Serves e2etest decommission := by
  constructor
  · intro h decommission hnames
    -- a file that names a pass is read without the others, so by `ignored` with them too
    have hsets : Sets yq folder decommission := by
      refine (h.ignored File.inPipeline ?_ decommission).1.mp (sets_only_inPipeline hyq hnames)
      intro f _ hexplicit
      obtain ⟨pass, hexplicit⟩ := hexplicit
      exact inPipeline_iff.mpr ⟨pass, named_of_explicit hexplicit⟩
    obtain ⟨hlists, -⟩ := (sets_iff hyq).mp hsets
    obtain ⟨hreadable, hmanifests, haccepted⟩ :=
      (emits_iff hcreds).mp ((h.agree decommission).mp hsets)
    exact
      { explicit := manifests_ne_nil_iff.mp hmanifests
        readable := hreadable
        templates := fun f hf _ => hlists f hf
        accepted := haccepted }
  · intro hserved
    exact
      { agree := fun decommission =>
          (sets_iff_names hyq hserved).trans (emits_iff_names hcreds hserved).symm
        disjoint := by
          intro f hf manifest manifest' hreconcile hdecommission
          have htaken := ((manifest_eq_ok_iff f _).mp hreconcile).2
          have htaken' := ((manifest_eq_ok_iff f _).mp hdecommission).2
          have hnone := taken_disjoint (htaken ▸ Option.some_ne_none manifest)
          rw [hnone] at htaken'
          cases htaken'
        ignored := by
          intro keep hkeep decommission
          have hserved' := served_only hkeep hserved
          have hnames : (folder.only keep).Names decommission ↔ folder.Names decommission :=
            names_only hkeep hserved
          rw [sets_iff_names hyq hserved', sets_iff_names hyq hserved,
            emits_iff_names hcreds hserved', emits_iff_names hcreds hserved]
          exact ⟨hnames, hnames⟩ }

/-! ### Two folders -/

/-- A control plane of the given mode. -/
def controlPlane (mode : String) : Node :=
  fieldsNode
    [("apiVersion", .str "azure.platform.upbound.io/v1alpha1"),
      ("kind", .str "ControlPlane"),
      ("metadata", fieldsNode [("name", .str "cp1"), ("namespace", .str "default")]),
      ("spec", fieldsNode
        [("parameters", fieldsNode
          [("id", .str "azctpcp1"),
            ("managementMode", .str mode),
            ("location", .str "eastus")])])]

/-- `yq` on documents whose mode is a string or is missing. -/
def printMode (doc : Option Node) : Option String :=
  if (doc.getD .null).meetsList managementModePath then none
  else
    match (doc.getD .null).at? managementModePath with
    | some (.str mode) => some (mode ++ "\n")
    | _ => some "\n"

/-- It reads modes as the real one does. -/
theorem yqReads_printMode : YqReads printMode where
  string f s hs := by
    have hmaps : f.loaded.meetsList managementModePath = false :=
      meetsList_of_mapsAlong (mapsAlong_of_at? hs)
    unfold File.mode? at hs
    unfold File.loaded at hmaps hs
    simp [printMode, hmaps, hs]
  list f hlist := by
    unfold File.loaded at hlist
    simp [printMode, hlist]
  other f hother hlist := by
    unfold File.loaded at hlist
    refine ⟨"\n", ?_, fun decommission => ?_⟩
    · unfold printMode
      rw [hlist, if_neg Bool.false_ne_true]
      split
      next mode hmode => exact absurd hmode (hother mode)
      next => rfl
    · cases decommission with
      | false => decide
      | true => decide

/-- A folder with a control plane for each pass and one for neither. -/
def pipelineFolder : Folder where
  path := "/project/controlplanes"
  files :=
    [{ name := "cp1.yaml", doc := some (controlPlane "Provision") },
      { name := "cp2.yaml", doc := some (controlPlane "Deprovision") },
      { name := "cp3.yaml", doc := some (controlPlane "Full") }]
  sorted := by decide

/-- Its files are classified alike. -/
theorem classifiedAlike_pipeline :
    ClassifiedAlike printMode (fun _ => .ok ()) { upCloudCredentials := some "e30=" }
      pipelineFolder := by
  refine (classifiedAlike_iff _ _ _ _ yqReads_printMode (by decide)).mpr fun decommission _ => ?_
  have hreadable : ∀ f ∈ pipelineFolder.yaml, f.isTemplate = false →
      f.loaded.mapsAlong managementModePath = true := by decide
  have htemplates : ∀ f ∈ pipelineFolder.yaml, f.isTemplate = true →
      f.loaded.meetsList managementModePath = false := by decide
  cases decommission with
  | false =>
    exact
      { explicit := ⟨_, List.mem_cons_self, rfl, "Provision", by decide, rfl⟩
        readable := hreadable
        templates := htemplates
        accepted := rfl }
  | true =>
    exact
      { explicit := ⟨_, List.mem_cons_of_mem _ List.mem_cons_self, rfl, "Deprovision",
          by decide, rfl⟩
        readable := hreadable
        templates := htemplates
        accepted := rfl }

/-- A folder with a template only. -/
def templateFolder : Folder where
  path := "/project/controlplanes"
  files := [{ name := "cp1.tmpl.yaml", doc := some (controlPlane "Provision") }]
  sorted := List.pairwise_singleton _ _

/-- The workflow runs the reconcile pass on it, and the generator refuses. -/
theorem not_classifiedAlike_template :
    ¬ ClassifiedAlike printMode (fun _ => .ok ()) { upCloudCredentials := some "e30=" }
      templateFolder := by
  intro h
  have hsets : Sets printMode templateFolder false :=
    ⟨{ reconcile := true, decommission := false }, by rfl, rfl⟩
  have hrefuses : generator (fun _ => .ok ()) false { upCloudCredentials := some "e30=" }
      (some templateFolder) =
      .error ("refusing to emit an empty test set - " ++
        "creds=set, controlplanes=/project/controlplanes") := by rfl
  obtain ⟨tests, htests, -⟩ := (h.agree false).mp hsets
  rw [hrefuses] at htests
  cases htests

end AzureCtp.Provision
