import GreenticConformance.Host.Error
import GreenticConformance.Host.Process
import GreenticConformance.Host.Text
import GreenticConformance.Host.World

/-!
# Runner smoke tests

`runner_suite.rs`: run a runner on a pack and compare its output with what is
expected of it.

## Main definitions

- `jsonContains` — a JSON value holds a fragment
- `RunnerOptions.handleOutput` — the judgement on the output
- `RunnerOptions.smokeRunWithMocks` — the whole test
-/

namespace GreenticConformance.RunnerSuite

open Checks Host
open OAuthMock (eqIgnoreAsciiCase)

/-! ## Options -/

structure RunnerExpectation where
  expectSuccess : Bool
  expectedEgress : Option Json
  stdoutMustBeJson : Bool

namespace RunnerExpectation

variable (e : RunnerExpectation)

def default : RunnerExpectation where
  expectSuccess := true
  expectedEgress := none
  stdoutMustBeJson := false

def requireJsonStdout : RunnerExpectation := { e with stdoutMustBeJson := true }

def withExpectedEgress (value : Json) : RunnerExpectation :=
  { e with expectedEgress := some value }

def allowFailure : RunnerExpectation := { e with expectSuccess := false }

end RunnerExpectation

structure RunnerOptions where
  args : List String
  env : List (String × String)
  workingDir : Option Path
  stdin : Option String
  expectation : Option RunnerExpectation

structure RunnerSnapshot where
  status : ℕ
  stdout : String
  stderr : String
  stdoutJson : Option Json

structure RunnerReport where
  binary : Path
  packPath : Path
  snapshot : RunnerSnapshot

/-! ## Fragments -/

mutual

/-- `json_contains`. -/
def jsonContains (actual : Json) : Json → Bool
  | .object expected =>
    match actual with
    | .object members => membersContain members expected
    | _ => false
  | .array expected =>
    match actual with
    | .array items => itemsContain items expected
    | _ => false
  | .null =>
    match actual with
    | .null => true
    | _ => false
  | .bool b =>
    match actual with
    | .bool a => a == b
    | _ => false
  | .number b =>
    match actual with
    | .number a => a == b
    | _ => false
  | .string b =>
    match actual with
    | .string a => a == b
    | _ => false

/-- Every expected member is there and contained. -/
def membersContain (members : List (String × Json)) : List (String × Json) → Bool
  | [] => true
  | (key, value) :: expected =>
    (match members.lookup key with
      | some actual => jsonContains actual value
      | none => false) && membersContain members expected

/-- Every expected item is contained in some item. -/
def itemsContain (items : List Json) : List Json → Bool
  | [] => true
  | value :: expected =>
    items.any (fun actual => jsonContains actual value) && itemsContain items expected

end

namespace RunnerOptions

variable (o : RunnerOptions)

def default : RunnerOptions where
  args := []
  env := []
  workingDir := none
  stdin := none
  expectation := some .default

def addArg (arg : String) : RunnerOptions := { o with args := o.args ++ [arg] }

def addEnv (key value : String) : RunnerOptions := { o with env := o.env ++ [(key, value)] }

def withWorkingDir (dir : Path) : RunnerOptions := { o with workingDir := some dir }

def withStdin (payload : String) : RunnerOptions := { o with stdin := some payload }

def withExpectation (expectation : RunnerExpectation) : RunnerOptions :=
  { o with expectation := some expectation }

def disableExpectation : RunnerOptions := { o with expectation := none }

/-! ## Judging the output -/

section Output

variable (json : SerdeJson) (hostBin packPath : Path) (output : Output)

/-- What one expectation asks of the output: the JSON value on it, if it is
looked at. -/
def checkExpectation (expectation : RunnerExpectation) : Except Error (Option Json) :=
  let name := hostBin.display
  let exitCode := output.status.code.getD 0
  let stdout := output.stdout.toStringLossy
  let stderr := output.stderr.toStringLossy
  if expectation.expectSuccess = true ∧ output.status.success = false then
    .error (anyhow s!"runner '{name}' exited with non-zero status {exitCode}. stderr:\n{stderr}")
  else if expectation.stdoutMustBeJson = true ∨ expectation.expectedEgress.isSome then do
    let parsed ← withContextOf (json.fromStr (trim stdout))
      s!"runner '{name}' stdout is not valid JSON:\n{stdout}"
    match expectation.expectedEgress with
    | some expected =>
      let shown := json.toString expected
      let actual := json.toString parsed
      failIf (jsonContains parsed expected = false)
        (anyhow <| s!"runner '{name}' stdout does not contain expected egress\n" ++
          s!"expected: {shown}\nactual: {actual}")
      return some parsed
    | none => return some parsed
  else
    .ok none

/-- `handle_output`. -/
def handleOutput : Except Error RunnerReport := do
  let stdoutJson ←
    match o.expectation with
    | some expectation => checkExpectation json hostBin output expectation
    | none => .ok none
  return {
    binary := hostBin
    packPath := packPath
    snapshot := {
      status := output.status.code.getD 0
      stdout := output.stdout.toStringLossy
      stderr := output.stderr.toStringLossy
      stdoutJson := stdoutJson } }

end Output

/-! ## The smoke test -/

section Smoke

variable (world : World) (processes : Processes) (json : SerdeJson) (hostBin packPath : Path)

/-- `GREENTIC_ENABLE_ONLINE` is set. -/
def onlineEnabled : Bool :=
  (world.envVar "GREENTIC_ENABLE_ONLINE").any fun val => val = "1" || eqIgnoreAsciiCase val "true"

/-- The command of the test. -/
def command : Command where
  program := hostBin
  args := packPath.text :: o.args.map OsStr.ofString
  env :=
    [("GREENTIC_CONFORMANCE", OsStr.ofString "1"),
      ("GREENTIC_CONFORMANCE_MODE", OsStr.ofString "mock"),
      ("GREENTIC_PACK_PATH", packPath.text)] ++
    (if onlineEnabled world then [] else [("GREENTIC_DISABLE_NETWORK", OsStr.ofString "1")]) ++
    o.env.map fun (key, value) => (key, OsStr.ofString value)
  currentDir := o.workingDir
  stdin := o.stdin

/-- The directory that the error of a failed start names. -/
def shownDir : String :=
  match o.workingDir with
  | some dir => dir.display
  | none =>
    match world.currentDir with
    | .ok cwd => cwd.display
    | .error _ => "<unknown>"

def smokeRunWithMocks : Except Error RunnerReport := do
  let name := hostBin.display
  let dir := o.shownDir world
  failIf (world.pathExists hostBin = false) (anyhow s!"runner binary '{name}' does not exist")
  failIf (world.pathExists packPath = false)
    (anyhow s!"pack path '{packPath.display}' does not exist")
  let output ←
    match o.stdin with
    | some _ => do
      let child ← withContextOf (processes.spawn 0 (o.command world hostBin packPath))
        s!"failed to spawn runner '{name}' in directory '{dir}'"
      withContextOf child.writeStdin "failed to write stdin payload to runner"
      withContextOf child.waitWithOutput "failed to wait for runner"
    | none =>
      withContextOf (processes.output 0 (o.command world hostBin packPath))
        s!"failed to invoke runner '{name}'"
  o.handleOutput json hostBin packPath output

end Smoke

end RunnerOptions

end GreenticConformance.RunnerSuite
