import AzureCtp.Library.Scripts
import AzureCtp.Model.Prelude

/-!
# The provisioning pipeline

The classify step of `.github/workflows/provision.yaml` and the generators under
`tests/provision`, which read the same folder of control planes. The two generators
are one script with another value of `DECOMMISSION`. `yq` is what the command of that
name prints, and `e2etest` the check that the generated model makes of the manifests;
neither is part of the repository. The step's warnings are left out.
-/

set_option autoImplicit false

namespace AzureCtp.Provision

open Scripts

/-! ### The folder -/

/-- A file of the folder; an empty file has no document. -/
structure File where
  name : String
  doc : Option Node

/-- What `yaml.safe_load` makes of the file. -/
def File.loaded (f : File) : Node := f.doc.getD .null

/-- The `controlplanes` folder. -/
structure Folder where
  path : String
  files : List File
  /-- Files are listed by name, as `sorted` lists them, and each once. -/
  sorted : files.Pairwise fun f g => f.name < g.name

namespace Folder

/-- The files that `*.yaml` stands for, in a shell as in Python's `glob`. -/
def yaml (folder : Folder) : List File :=
  folder.files.filter fun f =>
    ".yaml".toList.isSuffixOf f.name.toList && f.name.toList.head? != some '.'

/-- The folder with only some of its files. -/
def only (keep : File → Bool) (folder : Folder) : Folder :=
  { folder with
    files := folder.files.filter keep
    sorted := folder.sorted.filter keep }

end Folder

/-! ### The workflow -/

/-- The outputs of the classify step. -/
structure Scope where
  reconcile : Bool := false
  decommission : Bool := false

/-- What the mode of one file does to the outputs. -/
def Scope.mark (scope : Scope) (mode : String) : Scope :=
  if mode = "Deprovision" then { scope with decommission := true }
  else if mode = "Provision" ∨ mode = "ObserveOnly" then { scope with reconcile := true }
  else scope

/-- The output that a pass is run by. -/
def Scope.output (scope : Scope) (decommission : Bool) : Bool :=
  if decommission then scope.decommission else scope.reconcile

/-- The path that both sides read. -/
def managementModePath : List String := ["spec", "parameters", "managementMode"]

/-- The classify step. The shell exits at the first `yq` that fails. -/
def classify (yq : Option Node → Option String) (folder : Folder) : Option Scope :=
  folder.yaml.foldlM (fun scope f => ((yq f.doc).map commandSubstitution).map scope.mark) {}

/-! ### The generators -/

/-- The environment variables that a generator reads. -/
structure Environment where
  upCloudCredentials : Option String := none
  azureCreds : Option String := none

/-- The credentials, empty if there are none. -/
def Environment.creds (env : Environment) : String :=
  orElseEmpty env.upCloudCredentials (env.azureCreds.getD "")

/-- The mode that a generator reads; a file without one has the mode `None`. -/
def managementMode (controlPlane : Node) : Except String Node := do
  let spec ← controlPlane.getOr "spec" (.map [])
  let parameters ← spec.getOr "parameters" (.map [])
  parameters.getOr "managementMode" .null

/-- The pass acts on files of this mode. -/
def wanted (decommission : Bool) (mode : Node) : Bool :=
  if decommission then mode.isStr "Deprovision"
  else mode.isStr "Provision" || mode.isStr "ObserveOnly"

/-- The file's name marks a template. -/
def File.isTemplate (f : File) : Bool := ".tmpl.yaml".toList.isSuffixOf f.name.toList

/-- The manifest that a pass takes from a file, if any. -/
def File.manifest (decommission : Bool) (f : File) : Except String (Option Node) :=
  if f.isTemplate then .ok none
  else do
    let mode ← managementMode f.loaded
    .ok (if wanted decommission mode then some f.loaded else none)

/-- The spec of a test, its `crossplane` object flattened. -/
structure E2ETestSpec where
  /-- `crossplane.autoUpgrade.channel` -/
  channel : String
  defaultConditions : List String
  manifests : List Node
  extraResources : List Node
  skipDelete : Bool
  timeoutSeconds : Nat
  cleanupTimeoutSeconds : Nat

/-- A test of the `E2ETest` model. -/
structure E2ETest where
  /-- `metadata.name` -/
  name : String
  spec : E2ETestSpec

/-- A mapping with string keys. -/
def fieldsNode (fields : List (String × Node)) : Node :=
  .map (fields.map fun field => (.str field.1, field.2))

/-- The Secret with the credentials. -/
def azureSecret (creds : String) : Node :=
  fieldsNode
    [("apiVersion", .str "v1"),
      ("kind", .str "Secret"),
      ("metadata", fieldsNode [("name", .str "azure-creds"), ("namespace", .str "default")]),
      ("type", .str "Opaque"),
      ("data", fieldsNode [("credentials", .str creds)])]

/-- The ProviderConfig that reads it. -/
def azureProviderconfig : Node :=
  fieldsNode
    [("apiVersion", .str "azure.m.upbound.io/v1beta1"),
      ("kind", .str "ProviderConfig"),
      ("metadata", fieldsNode [("name", .str "default"), ("namespace", .str "default")]),
      ("spec", fieldsNode
        [("credentials", fieldsNode
          [("source", .str "Secret"),
            ("secretRef", fieldsNode
              [("namespace", .str "default"),
                ("name", .str "azure-creds"),
                ("key", .str "credentials")])])])]

/-- The test that a pass emits. -/
def e2eTest (decommission : Bool) (creds : String) (manifests : List Node) : E2ETest where
  name := if decommission then "decommission" else "reconcile"
  spec :=
    { channel := "Stable"
      defaultConditions := ["Ready"]
      manifests := manifests
      extraResources := [azureSecret creds, azureProviderconfig]
      skipDelete := false
      timeoutSeconds := 5400
      cleanupTimeoutSeconds := if decommission then 1800 else 600 }

/-- The tests of a pass over the folder: one, if it takes any file. -/
def items (e2etest : List Node → Except String Unit) (decommission : Bool) (creds : String)
    (controlplanes : Folder) : Except String (List E2ETest) := do
  let manifests ← collect (File.manifest decommission) controlplanes.yaml
  if manifests.isEmpty then .ok []
  else do
    let _ ← e2etest manifests
    .ok [e2eTest decommission creds manifests]

/-- What a generator says when it has no test to emit. -/
def refusal (creds : String) (controlplanes : Option Folder) : String :=
  "refusing to emit an empty test set - creds=" ++ (if creds = "" then "MISSING" else "set") ++
    ", controlplanes=" ++ (controlplanes.map Folder.path).getD "None"

/-- A generator: of the decommission pass if `decommission`, else of the reconcile pass. It
ends with the tests, or with the last line that the script prints when it fails. -/
def generator (e2etest : List Node → Except String Unit) (decommission : Bool)
    (env : Environment) (controlplanes : Option Folder) : Except String (List E2ETest) := do
  let tests ←
    match controlplanes with
    | some folder =>
      if env.creds = "" then .ok [] else items e2etest decommission env.creds folder
    | none => .ok []
  if tests.isEmpty then .error (refusal env.creds controlplanes) else .ok tests

end AzureCtp.Provision
