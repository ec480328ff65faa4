import AzureCtp.Model.Provision

/-!
# The provisioning job

The job of `.github/workflows/provision.yaml` from the classify step on. A step runs when
the steps before it have succeeded and its output is set; the job succeeds when every step
that runs does. What is not part of the repository is `Runner`: the commands `yq` and `up`,
the check of the generated model, the name of the KIND node, and what `kubectl` prints.
Waiting times and messages are left out.
-/

set_option autoImplicit false

namespace AzureCtp.Provision

open Scripts

/-- The commands that the job runs. -/
structure Runner where
  yq : Option Node → Option String
  e2etest : List Node → Except String Unit
  /-- `up test run` succeeds on what the generator of the pass ends with. -/
  up : Bool → Except String (List E2ETest) → Bool
  /-- The first name that `docker ps` prints, if any. -/
  node : String
  /-- What `kubectl get managed` prints at a poll, if it succeeds. -/
  polls : ℕ → Option String

/-- `grep -c .`: how many lines are not empty. -/
def countLines (out : String) : ℕ := (out.toList.splitOn '\n').countP (· ≠ [])

/-- The poll loop of the decommission step: the count of empty polls in a row it ends
with. -/
def pollLoop : List (Option String) → ℕ → ℕ
  | [], zeros => zeros
  -- the control plane cannot be queried yet
  | none :: polls, _ => pollLoop polls 0
  | some printed :: polls, zeros =>
    let remaining := countLines (commandSubstitution printed)
    if remaining = 0 then
      if zeros + 1 ≥ 2 then zeros + 1 else pollLoop polls (zeros + 1)
    else pollLoop polls 0

namespace Runner

variable (r : Runner) (env : Environment) (controlplanes : Folder)

/-- The test run of a pass. -/
def testRun (decommission : Bool) : Bool :=
  r.up decommission (generator r.e2etest decommission env (some controlplanes))

/-- The polls that the decommission step makes. -/
def polled : List (Option String) := (List.range' 1 30).map r.polls

/-- The step of the decommission pass: after the test run it finds the node, and waits for
two empty polls in a row. -/
def decommissionStep : Bool :=
  r.testRun env controlplanes true && r.node != "" && decide (pollLoop r.polled 0 ≥ 2)

/-- The step of a pass. -/
def passStep (decommission : Bool) : Bool :=
  if decommission then r.decommissionStep env controlplanes else r.testRun env controlplanes false

/-- The job succeeds. -/
def job : Bool :=
  match classify r.yq controlplanes with
  | none => false
  | some scope =>
    (!scope.output false || r.passStep env controlplanes false) &&
      (!scope.output true || r.passStep env controlplanes true)

end Runner

end AzureCtp.Provision
