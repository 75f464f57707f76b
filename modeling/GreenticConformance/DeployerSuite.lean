import GreenticConformance.Host.Error
import GreenticConformance.Host.Process
import GreenticConformance.Host.World

/-!
# Deployer idempotency

`deployer_suite.rs`: apply a configuration twice and compare what is printed.

## Main definitions

- `assertDeployerIdempotent` — the check
-/

namespace GreenticConformance.DeployerSuite

open Checks Host

variable (world : World) (processes : Processes) (deployer config : Path)
  (extraArgs : List String)

/-- `run_deployer`. -/
def runDeployer (started : ℕ) : Except Error String := do
  let command : Command := {
    program := deployer
    args := [.ofString "apply", .ofString "-f", config.text] ++ extraArgs.map OsStr.ofString
    env := []
    currentDir := none
    stdin := none }
  let output ← withContextOf (processes.output started command) "failed to spawn deployer"
  failIf (output.status.success = false)
    (anyhow s!"deployer exited with {output.status.display}: {output.stderr.toStringLossy}")
  return output.stdout.toStringLossy

/-- `assert_deployer_idempotent`, the next process being number `started`. -/
def assertDeployerIdempotent (started : ℕ) : Except Error Unit := do
  failIf (world.pathExists deployer = false)
    (anyhow s!"deployer binary '{deployer.display}' does not exist")
  failIf (world.pathExists config = false)
    (anyhow s!"deployer config '{config.display}' does not exist")
  let first ← withContext (runDeployer processes deployer config extraArgs started)
    "first deployer apply failed"
  let second ← withContext (runDeployer processes deployer config extraArgs (started + 1))
    "second deployer apply failed"
  failIf (first ≠ second) (anyhow "deployer is not idempotent: outputs differ between runs")

end GreenticConformance.DeployerSuite
