import GreenticConformance.Host.Error
import GreenticConformance.Host.Process
import GreenticConformance.Host.Text
import GreenticConformance.Host.World

/-!
# Component invocation

`component_suite.rs`: run a component with an operation, write a JSON payload to it
and read its answer.

## Main definitions

- `ComponentInvocationOptions.invokeGenericComponent` — one invocation
-/

namespace GreenticConformance.ComponentSuite

open Checks Host

structure ComponentInvocationOptions where
  args : List String
  env : List (String × String)
  workingDir : Option Path
  expectJsonOutput : Bool

structure ComponentInvocation where
  component : Path
  operation : String
  stdout : String
  stderr : String
  status : ℕ
  outputJson : Option Json

namespace ComponentInvocationOptions

variable (o : ComponentInvocationOptions)

def default : ComponentInvocationOptions where
  args := []
  env := []
  workingDir := none
  expectJsonOutput := true

def addArg (arg : String) : ComponentInvocationOptions := { o with args := o.args ++ [arg] }

def addEnv (key value : String) : ComponentInvocationOptions :=
  { o with env := o.env ++ [(key, value)] }

def withWorkingDir (dir : Path) : ComponentInvocationOptions := { o with workingDir := some dir }

def allowNonJsonOutput : ComponentInvocationOptions := { o with expectJsonOutput := false }

/-- The command of an invocation, with its payload. -/
def command (componentPath : Path) (op payload : String) : Command where
  program := componentPath
  args := (op :: o.args).map OsStr.ofString
  env := ([("GREENTIC_COMPONENT_OPERATION", op), ("GREENTIC_CONFORMANCE", "1")] ++ o.env).map
    fun (key, value) => (key, OsStr.ofString value)
  currentDir := o.workingDir
  stdin := some payload

variable (world : World) (processes : Processes) (json : SerdeJson)

/-- The JSON value on the standard output, where one is expected. -/
def parseOutput (componentPath : Path) (op stdout : String) : Except Error (Option Json) :=
  if o.expectJsonOutput then do
    let value ← withContextOf (json.fromStr (trim stdout))
      s!"component '{componentPath.display}' stdout is not valid JSON for operation '{op}'"
    return some value
  else
    .ok none

def invokeGenericComponent (componentPath : Path) (op inputJson : String) :
    Except Error ComponentInvocation := do
  let name := componentPath.display
  failIf (world.pathExists componentPath = false)
    (anyhow s!"component binary '{name}' does not exist")
  let parsedInput ← withContextOf (json.fromStr inputJson)
    s!"component input payload is not valid JSON for operation '{op}'"
  let child ← withContextOf
    (processes.spawn 0 (o.command componentPath op (json.toString parsedInput)))
    s!"failed to spawn component '{name}' for operation '{op}'"
  withContextOf child.writeStdin "failed to write component stdin payload"
  let output ← withContextOf child.waitWithOutput s!"component '{name}' invocation failed"
  let stdout := output.stdout.toStringLossy
  let stderr := output.stderr.toStringLossy
  let status := output.status.code.getD 0
  failIf (output.status.success = false)
    (anyhow <| s!"component '{name}' operation '{op}' failed with status {status}.\n" ++
      s!"stdout:\n{stdout}\nstderr:\n{stderr}")
  let outputJson ← o.parseOutput json componentPath op stdout
  return {
    component := componentPath
    operation := op
    stdout := stdout
    stderr := stderr
    status := status
    outputJson := outputJson }

end ComponentInvocationOptions

/-! ## Worlds and tools -/

/-- `DENYLISTED_WORLDS`. -/
def denylistedWorlds : List String := ["greentic:repo-ui-actions/repo-ui-worker@1.0.0"]

def assertAllowedWorlds (worlds : List String) : Except Error Unit :=
  worlds.forM fun world =>
    failIf (world ∈ denylistedWorlds) (anyhow s!"component exports forbidden world '{world}'")

def assertValidToolInvocation (toolName action : String) (payload : Json) : Except Error Unit := do
  failIf (isBlank toolName) (anyhow "tool name must not be empty")
  failIf (isBlank action) (anyhow "tool action must not be empty")
  failIf (payload.isObject = false) (anyhow "tool payload must be a JSON object")

theorem assertAllowedWorlds_eq_ok {worlds : List String} :
    assertAllowedWorlds worlds = .ok () ↔ ∀ world ∈ worlds, world ∉ denylistedWorlds := by
  simp only [assertAllowedWorlds, forM_eq_ok, failIf_eq_ok]

theorem assertValidToolInvocation_eq_ok {toolName action : String} {payload : Json} :
    assertValidToolInvocation toolName action payload = .ok () ↔
      isBlank toolName = false ∧ isBlank action = false ∧ ∃ members, payload = .object members := by
  simp only [assertValidToolInvocation, bind_eq_ok, exists_unit, failIf_eq_ok, Bool.not_eq_true,
    Bool.not_eq_false, Json.isObject_iff]

end GreenticConformance.ComponentSuite
