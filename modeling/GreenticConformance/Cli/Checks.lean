import GreenticConformance.Cli.Pack
import GreenticConformance.ComponentSuite
import GreenticConformance.DeployerSuite
import GreenticConformance.FlowSuite.Folder
import GreenticConformance.PackSuite.Verify
import GreenticConformance.RunnerSuite

/-!
# Checking flows, components, runners and deployers

The four checks of the command line that call the suites. Each collects issues and
keeps a verdict; some errors become issues, others end the check without a report.

## Main definitions

- `checkFlow`, `checkComponent`, `checkRunner`, `checkDeployer` — the checks

## Main results

- `checkFlow_agrees`, `checkComponent_agrees`, `checkRunner_agrees`,
  `checkDeployer_agrees` — their verdicts agree with their issues
-/

namespace GreenticConformance.Cli

open Checks Host
open ComponentSuite (ComponentInvocationOptions)
open DeployerSuite (assertDeployerIdempotent)
open FlowSuite (FlowDocument FlowValidationOptions)
open OAuthMock (splitOnce)
open PackSuite (PackManifest PackSuiteOptions)
open RunnerSuite (RunnerExpectation RunnerOptions)

/-! ## Flows -/

section Flow

variable (world : World) (parsers : Parsers FlowDocument)

/-- The options that the flags of the command ask for. -/
def flowOptions (allowMissingSchema : Bool) (allowExtension : List String) :
    FlowValidationOptions :=
  let options := FlowValidationOptions.default.withRequireSchema true
  let options := if allowMissingSchema then options.allowMissingSchema else options
  allowExtension.foldl FlowValidationOptions.allowExtension options

def checkFlow (path : Path) (allowMissingSchema : Bool) (allowExtension : List String) :
    Except Error FlowCheckReport :=
  let options := flowOptions allowMissingSchema allowExtension
  match options.validateFlowFolder world parsers path with
  | .ok report => .ok {
      root := report.root.display
      flowCount := report.flows.length
      flowV1Basic := true
      flowV1Safe := options.requireSchema
      issues := [] }
  -- whatever the suite refuses becomes an issue
  | .error err => .ok {
      root := path.display
      flowCount := 0
      flowV1Basic := false
      flowV1Safe := false
      issues := [err.message] }

/-- The verdict on flows goes with the one issue there can be. -/
theorem checkFlow_agrees {path : Path} {allowMissingSchema : Bool} {allowExtension : List String}
    {report : FlowCheckReport}
    (h : checkFlow world parsers path allowMissingSchema allowExtension = .ok report) :
    Agrees report.flowV1Basic report.issues := by
  unfold checkFlow at h
  cases hfolder : (flowOptions allowMissingSchema allowExtension).validateFlowFolder world parsers
      path with
  | ok folder =>
    simp only [hfolder] at h
    cases h
    exact agrees_nil
  | error err =>
    simp only [hfolder] at h
    cases h
    exact @agrees_issue _ [] err.message

end Flow

/-! ## Files -/

/-- `is_executable`, on Unix. -/
def isExecutable (metadata : Metadata) : Bool := metadata.mode &&& 0o111 ≠ 0

/-- What is wrong with the file of a component, a runner or a deployer. -/
def fileIssues (kind : String) (metadata : Metadata) : List String :=
  issueIf (!metadata.isFile) s!"{kind} path is not a file" ++
  issueIf (metadata.len = 0) s!"{kind} file is empty"

def fileWarnings (kind : String) (metadata : Metadata) : List String :=
  issueIf (!isExecutable metadata) s!"{kind} file is not marked executable"

def workdirIssues (world : World) (kind : String) (workdir : Option Path) : List String :=
  match workdir with
  | some dir =>
    issueIf (!world.pathExists dir)
      s!"{kind} working directory '{dir.display}' does not exist"
  | none => []

/-- `parse_env_vars`, on one of them. -/
def parseEnvVar (raw : String) : Except Error (String × String) := do
  let (key, value) ← okOr (splitOnce '=' raw)
    (anyhow s!"env override must be KEY=VALUE (got '{raw}')")
  failIf (isBlank key) (anyhow s!"env override key must not be empty (from '{raw}')")
  return (key, value)

def parseEnvVars (vars : List String) : Except Error (List (String × String)) :=
  vars.mapM parseEnvVar

/-- The overrides, and the issue if they cannot be parsed. -/
def envOverrides (vars : List String) : List (String × String) × List String :=
  match parseEnvVars vars with
  | .ok overrides => (overrides, [])
  | .error err => ([], [err.message])

/-! ## Components -/

/-- The arguments of `check-component`. -/
structure ComponentArgs where
  path : Path
  runtimeFlows : Option String
  manifest : Option Path
  allowRuntimeMismatch : Bool
  allowUnsigned : Bool
  arg : List String
  env : List String
  workdir : Option Path
  operation : Option String
  input : Option String
  allowNonJsonOutput : Bool

section Component

variable (world : World) (processes : Processes) (parsers : Parsers PackManifest)
  (json : SerdeJson) (c : ComponentArgs)

/-- The variables of `check_component`. -/
structure ComponentRun where
  issues : List String
  witOnly : Bool
  hosted : Bool
  invokedOperation : Option String

namespace ComponentArgs

/-- The flows that `--runtime-flows` lists. -/
def parseRuntimeFlows : Except Error (Option (List String)) :=
  match c.runtimeFlows with
  | some raw => do
    let flows ← withContextOf (json.stringsFromStr raw)
      "runtime flows must be a JSON array of strings (e.g. [\"flow.a\", \"flow.b\"])"
    return some flows
  | none => .ok none

/-- The options of the pack suite. -/
def packOptions (runtimeFlows : Option (List String)) : PackSuiteOptions :=
  let options := PackSuiteOptions.default
  let options :=
    match c.manifest with
    | some manifest => options.withManifestOverride manifest
    | none => options
  let options := if c.allowRuntimeMismatch then options.allowRuntimeMismatch else options
  let options := if c.allowUnsigned then options.allowUnsigned else options
  match runtimeFlows with
  | some flows => options.withRuntimeAdapter fun _ => .ok flows
  | none => options

/-- The options of an invocation. -/
def invocation (overrides : List (String × String)) : ComponentInvocationOptions :=
  let options := c.arg.foldl ComponentInvocationOptions.addArg .default
  let options := overrides.foldl (fun options (key, value) => options.addEnv key value) options
  let options :=
    match c.workdir with
    | some dir => options.withWorkingDir dir
    | none => options
  if c.allowNonJsonOutput then options.allowNonJsonOutput else options

/-- The step that verifies the exports. -/
def noteExports (runtimeFlows : Option (List String)) (run : ComponentRun) : ComponentRun :=
  match (c.packOptions runtimeFlows).verifyPackExports world parsers (.ofString c.path.display) with
  | .ok report =>
    { run with witOnly := true, hosted := report.runtimeFlows.isSome || run.hosted }
  | .error err =>
    { run with
      witOnly := false
      hosted := false
      issues := run.issues ++ [s!"pack export verification failed: {err.message}"] }

/-- The step that invokes the operation, if one is given. -/
def noteInvocation (overrides : List (String × String)) (run : ComponentRun) : ComponentRun :=
  match c.operation with
  | none => run
  | some op =>
    match (c.invocation overrides).invokeGenericComponent world processes json c.path op
      (c.input.getD "\x7b\x7d") with
    | .ok _ => { run with invokedOperation := some op }
    | .error err =>
      { run with
        issues := run.issues ++ [s!"component invocation failed: {err.message}"]
        hosted := false
        witOnly := false }

/-- The last step: hosted implies WIT-only. -/
def settleHosted (run : ComponentRun) : ComponentRun :=
  if run.hosted ∧ run.witOnly = false then { run with hosted := false } else run

/-- The steps that are taken when nothing was wrong before. -/
def exercise (overrides : List (String × String)) (run : ComponentRun) :
    Except Error ComponentRun :=
  if run.issues = [] then do
    let runtimeFlows ← c.parseRuntimeFlows json
    let run := c.noteExports world parsers runtimeFlows run
    let run := c.noteInvocation world processes json overrides run
    return settleHosted run
  else
    .ok run

end ComponentArgs

def checkComponent : Except Error ComponentCheckReport := do
  let metadata ← withContextOf (world.metadata c.path)
    s!"component path '{c.path.display}' not readable"
  let overrides := envOverrides c.env
  let issues :=
    fileIssues "component" metadata ++ workdirIssues world "component" c.workdir ++ overrides.2
  let run ← c.exercise world processes parsers json overrides.1
    ⟨issues, issues.isEmpty, issues.isEmpty, none⟩
  return {
    component := c.path.display
    componentV1WitOnly := run.witOnly
    componentV1Hosted := run.hosted
    invokedOperation := run.invokedOperation
    issues := run.issues
    warnings := fileWarnings "component" metadata }

variable {world processes parsers json c} {overrides : List (String × String)}
  {run run' : ComponentRun}

/-- Started without issues, verifying the exports brings the verdict and the issues
together. -/
theorem noteExports_agrees {runtimeFlows : Option (List String)} (h : run.issues = []) :
    Agrees (c.noteExports world parsers runtimeFlows run).witOnly
      (c.noteExports world parsers runtimeFlows run).issues := by
  unfold ComponentArgs.noteExports
  cases (c.packOptions runtimeFlows).verifyPackExports world parsers (.ofString c.path.display) with
  | ok report =>
    dsimp only
    rw [h]
    exact agrees_nil
  | error err => exact agrees_issue _

/-- The other steps keep them together. -/
theorem noteInvocation_agrees (h : Agrees run.witOnly run.issues) :
    Agrees (c.noteInvocation world processes json overrides run).witOnly
      (c.noteInvocation world processes json overrides run).issues := by
  unfold ComponentArgs.noteInvocation
  cases c.operation with
  | none => exact h
  | some op =>
    dsimp only
    cases (c.invocation overrides).invokeGenericComponent world processes json c.path op
      (c.input.getD "\x7b\x7d") with
    | ok invocation => exact h
    | error err => exact agrees_issue _

theorem settleHosted_agrees (h : Agrees run.witOnly run.issues) :
    Agrees (ComponentArgs.settleHosted run).witOnly (ComponentArgs.settleHosted run).issues := by
  unfold ComponentArgs.settleHosted
  split
  · exact h
  · exact h

theorem exercise_agrees (h : Agrees run.witOnly run.issues)
    (hrun : c.exercise world processes parsers json overrides run = .ok run') :
    Agrees run'.witOnly run'.issues := by
  unfold ComponentArgs.exercise at hrun
  by_cases hissues : run.issues = []
  · simp only [if_pos hissues, bind_eq_ok, pure_eq_ok] at hrun
    obtain ⟨runtimeFlows, _, hrun⟩ := hrun
    rw [← hrun]
    exact settleHosted_agrees (noteInvocation_agrees (noteExports_agrees hissues))
  · rw [if_neg hissues] at hrun
    cases hrun
    exact h

theorem checkComponent_agrees {report : ComponentCheckReport}
    (h : checkComponent world processes parsers json c = .ok report) :
    Agrees report.componentV1WitOnly report.issues := by
  simp only [checkComponent, bind_eq_ok, pure_eq_ok] at h
  obtain ⟨metadata, _, run, hrun, hreport⟩ := h
  subst hreport
  exact exercise_agrees agrees_isEmpty hrun

end Component

/-! ## Runners -/

/-- The arguments of `check-runner`. -/
structure RunnerArgs where
  path : Path
  pack : Option Path
  allowFailure : Bool
  requireJsonStdout : Bool
  stdin : Option String
  arg : List String
  env : List String
  workdir : Option Path
  expectedEgress : Option String

section Runner

variable (world : World) (processes : Processes) (json : SerdeJson) (c : RunnerArgs)

/-- The variables of `check_runner`. -/
structure RunnerRun where
  issues : List String
  warnings : List String
  runnerV1 : Bool

namespace RunnerArgs

/-- What is expected of the output. -/
def parseExpectation : Except Error RunnerExpectation := do
  let expectation := RunnerExpectation.default
  let expectation := if c.allowFailure then expectation.allowFailure else expectation
  let expectation := if c.requireJsonStdout then expectation.requireJsonStdout else expectation
  match c.expectedEgress with
  | some raw => do
    let parsed ← withContextOf (json.fromStr raw)
      "expected egress must be valid JSON (object/array/value)"
    return expectation.withExpectedEgress parsed
  | none => return expectation

/-- The options of the runner suite. -/
def runnerOptions (expectation : RunnerExpectation) (overrides : List (String × String)) :
    RunnerOptions :=
  let options := RunnerOptions.default.withExpectation expectation
  let options :=
    match c.stdin with
    | some payload => options.withStdin payload
    | none => options
  let options := c.arg.foldl RunnerOptions.addArg options
  let options := overrides.foldl (fun options (key, value) => options.addEnv key value) options
  match c.workdir with
  | some dir => options.withWorkingDir dir
  | none => options

/-- The smoke test, when nothing was wrong before. -/
def smokeTest (overrides : List (String × String)) (packPath : Path) (run : RunnerRun) :
    Except Error RunnerRun :=
  if run.issues = [] then do
    let expectation ← c.parseExpectation json
    let options := c.runnerOptions expectation overrides
    match options.smokeRunWithMocks world processes json c.path packPath with
    | .ok _ => return { run with runnerV1 := true }
    | .error err =>
      return { run with
        runnerV1 := false
        issues := run.issues ++ [s!"runner smoke test failed: {err.message}"] }
  else
    .ok run

/-- The pack to test with, from the arguments or the environment. -/
def packPath : Option Path :=
  c.pack.or ((world.envVar "GREENTIC_PACK_PATH").map Path.ofString)

/-- The smoke test, when there is a pack to test with. -/
def testPack (overrides : List (String × String)) (run : RunnerRun) : Except Error RunnerRun :=
  match c.packPath world with
  | some packPath =>
    c.smokeTest world processes json overrides packPath
      { run with
        issues := run.issues ++ issueIf (!world.pathExists packPath)
          s!"provided pack path '{packPath.display}' does not exist" }
  | none =>
    .ok { run with
      warnings := run.warnings ++
        ["no pack path provided; skipped runner smoke test with mock connectors"] }

end RunnerArgs

def checkRunner : Except Error RunnerCheckReport := do
  let metadata ← withContextOf (world.metadata c.path)
    s!"runner path '{c.path.display}' not readable"
  let overrides := envOverrides c.env
  let issues :=
    fileIssues "runner" metadata ++ workdirIssues world "runner" c.workdir ++ overrides.2
  let run ← c.testPack world processes json overrides.1
    ⟨issues, fileWarnings "runner" metadata, issues.isEmpty⟩
  return {
    runner := c.path.display
    -- a missing pack is an issue that is found after the verdict was set
    runnerV1 := if run.issues ≠ [] then false else run.runnerV1
    issues := run.issues
    warnings := run.warnings }

variable {world processes json c} {overrides : List (String × String)} {packPath : Path}
  {run run' : RunnerRun}

/-- A run without issues has a good verdict; the converse comes with the last step
of the check. -/
theorem smokeTest_settled (h : run.issues = [] → run.runnerV1 = true)
    (hrun : c.smokeTest world processes json overrides packPath run = .ok run') :
    run'.issues = [] → run'.runnerV1 = true := by
  unfold RunnerArgs.smokeTest at hrun
  by_cases hissues : run.issues = []
  · simp only [if_pos hissues, bind_eq_ok] at hrun
    obtain ⟨expectation, _, hrun⟩ := hrun
    cases hsmoke : (c.runnerOptions expectation overrides).smokeRunWithMocks world processes json
        c.path packPath with
    | ok report =>
      simp only [hsmoke, pure_eq_ok] at hrun
      intro _
      rw [← hrun]
    | error err =>
      simp only [hsmoke, pure_eq_ok] at hrun
      intro hnil
      rw [← hrun] at hnil
      simp at hnil
  · rw [if_neg hissues] at hrun
    cases hrun
    exact h

theorem testPack_settled (h : run.issues = [] → run.runnerV1 = true)
    (hrun : c.testPack world processes json overrides run = .ok run') :
    run'.issues = [] → run'.runnerV1 = true := by
  unfold RunnerArgs.testPack at hrun
  cases hpack : c.packPath world with
  | some packPath =>
    simp only [hpack] at hrun
    refine smokeTest_settled (fun hissues => ?_) hrun
    exact h (List.append_eq_nil_iff.mp hissues).1
  | none =>
    simp only [hpack] at hrun
    cases hrun
    exact h

theorem checkRunner_agrees {report : RunnerCheckReport}
    (h : checkRunner world processes json c = .ok report) :
    Agrees report.runnerV1 report.issues := by
  simp only [checkRunner, bind_eq_ok, pure_eq_ok] at h
  obtain ⟨metadata, _, run, hrun, hreport⟩ := h
  subst hreport
  exact .settled (testPack_settled List.isEmpty_iff.mpr hrun)

end Runner

/-! ## Deployers -/

/-- The arguments of `check-deployer`. -/
structure DeployerArgs where
  path : Path
  config : Option Path
  arg : List String

section Deployer

variable (world : World) (processes : Processes) (c : DeployerArgs)

/-- The variables of `check_deployer`. -/
structure DeployerRun where
  issues : List String
  warnings : List String
  idempotentOk : Option Bool

namespace DeployerArgs

/-- The call with `--help`, when nothing was wrong before. -/
def help (run : DeployerRun) : Except Error DeployerRun :=
  if run.issues = [] then do
    let command : Command := {
      program := c.path
      args := [.ofString "--help"]
      env := []
      currentDir := none
      stdin := none }
    -- that the deployer cannot be started is an error, that it fails is an issue
    let output ← withContextOf (processes.output 0 command)
      s!"failed to invoke deployer '{c.path.display}' with --help"
    let code := output.status.code.getD 0
    return { run with
      issues := run.issues ++ issueIf (!output.status.success)
        s!"deployer '{c.path.display}' --help exited with status {code}" }
  else
    .ok run

/-- The idempotency check, when nothing was wrong before. -/
def applyTwice (run : DeployerRun) : DeployerRun :=
  if run.issues = [] then
    match c.config with
    | some cfg =>
      if world.pathExists cfg = false then
        { run with
          issues := run.issues ++ [s!"deployer config '{cfg.display}' does not exist"] }
      else
        match assertDeployerIdempotent world processes c.path cfg c.arg 1 with
        | .ok _ => { run with idempotentOk := some true }
        | .error err =>
          { run with
            idempotentOk := some false
            issues := run.issues ++ [s!"deployer idempotency failed: {err.message}"] }
    | none =>
      { run with
        warnings := run.warnings ++
          ["config not provided; only ran --help smoke check, idempotency not verified"] }
  else
    run

end DeployerArgs

def checkDeployer : Except Error DeployerCheckReport := do
  let metadata ← withContextOf (world.metadata c.path)
    s!"deployer path '{c.path.display}' not readable"
  let run ← c.help processes
    ⟨fileIssues "deployer" metadata, fileWarnings "deployer" metadata, none⟩
  let run := c.applyTwice world processes run
  return {
    deployer := c.path.display
    deployerV1 := run.issues.isEmpty
    idempotentOk := run.idempotentOk
    issues := run.issues
    warnings := run.warnings }

/-- The verdict on a deployer is read off its issues. -/
theorem checkDeployer_agrees {report : DeployerCheckReport}
    (h : checkDeployer world processes c = .ok report) :
    Agrees report.deployerV1 report.issues := by
  simp only [checkDeployer, bind_eq_ok, pure_eq_ok] at h
  obtain ⟨metadata, _, run, _, hreport⟩ := h
  subst hreport
  exact agrees_isEmpty

end Deployer

end GreenticConformance.Cli
